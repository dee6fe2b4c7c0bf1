import Gcsfuse.Gcsx.Progress

namespace Gcsfuse.Gcsx

open Gcsfuse.Gcs Gcsfuse.Go Pipeline

variable {ε : Type} {now : Int}

def agedNames (now : Int) (objs : List MinObject) : List String :=
  (objs.filter fun o => decide (stalenessThreshold ≤ now - o.updated)).map (·.name)

theorem isStale_eq_aged (now : Int) :
    isStale now = fun o => decide (stalenessThreshold ≤ now - o.updated) := by
  funext o
  have h := sub_lt_iff (t := now) (u := o.updated) (d := stalenessThreshold) (by decide) (by decide)
  rw [isStale, decide_eq_decide.mpr h, ← decide_not]
  exact decide_eq_decide.mpr Int.not_lt

theorem staleOf_eq_agedNames (now : Int) (objs : List MinObject) :
    staleOf now objs = agedNames now objs := by
  rw [staleOf, agedNames, isStale_eq_aged]

theorem staleOf_isPrefix {xs ys : List MinObject} (h : xs <+: ys) : staleOf now xs <+: staleOf now ys := by
  obtain ⟨zs, rfl⟩ := h
  exact ⟨staleOf now zs, (staleOf_append now xs zs).symm⟩

theorem Goroutine.returned_of_exited {σ : Type} {g : Goroutine σ ε} (he : g.isExited = true)
    (hf : g.failed = false) : g.returned = some none := by
  cases g with
  | exited err => cases err <;> simp_all
  | _ => simp at he

theorem Wf.returned_of_finished {s : Pipeline ε} (hw : Wf s) (hf : s.finished = true)
    (hg : s.groupErr = none) :
    s.list.returned = some none ∧ s.filter.returned = some none ∧ s.delete.returned = some none := by
  have hok : (s.list.failed || s.filter.failed || s.delete.failed) = false := by
    cases h : (s.list.failed || s.filter.failed || s.delete.failed)
    · rfl
    · simpa [hg] using hw.failed_recorded h
  simp only [finished, Bool.and_eq_true, Bool.or_eq_false_iff] at hf hok
  exact ⟨Goroutine.returned_of_exited hf.1.1 hok.1.1, Goroutine.returned_of_exited hf.1.2 hok.1.2,
    Goroutine.returned_of_exited hf.2 hok.2⟩

theorem DeleteInv.calls_succeeded {s : Pipeline ε} (hi : DeleteInv s) :
    s.results.length ≤ s.deleteCalls.length ∧
      ∀ i, i + 1 < s.deleteCalls.length → s.results[i]? = some true := by
  have shape : ∀ (done : List String) (r : List Bool), done.length + r.length ≤ s.deleteCalls.length →
      s.deleteCalls.length ≤ done.length + 1 → s.results = List.replicate done.length true ++ r →
      s.results.length ≤ s.deleteCalls.length ∧
        ∀ i, i + 1 < s.deleteCalls.length → s.results[i]? = some true := by
    intro done r h1 h2 hres
    refine ⟨by simpa [hres] using h1, fun i hi => ?_⟩
    rw [hres, List.getElem?_append_left (by simp; omega)]
    simp [List.getElem?_replicate]
    omega
  cases hd : s.delete with
  | running pc =>
    cases pc with
    | receive => exact shape s.deleteCalls [] (by simp) (by omega) (by simpa using hi.idle (.inl hd))
    | delete n =>
      obtain ⟨done, hc, hr⟩ := hi.busy n hd
      exact shape done [] (by simp [hc]) (by simp [hc]) (by simpa using hr)
  | exiting err | exited err =>
    cases err with
    | none => exact shape s.deleteCalls [] (by simp) (by omega) (by simpa using hi.idle (.inr (by simp [hd])))
    | some e =>
      obtain ⟨done, n, hc, hr⟩ := hi.failed e (by simp [hd])
      exact shape done [false] (by simp [hc]) (by simp [hc]) hr

section Reachable

variable {listing : List MinObject} {acts : List (Action ε)} {s : Pipeline ε}

theorem run_deleteCalls_isPrefix (h : garbageCollectOnce now listing acts = some s) :
    s.deleteCalls <+: agedNames now s.emitted :=
  calc s.deleteCalls <+: s.staleNames.sent := Chan.received_prefix_sent s.staleNames
    _ <+: staleOf now s.minObjects.received := (run_filterInv h).forwarded_stale
    _ <+: staleOf now s.emitted := staleOf_isPrefix (Chan.received_prefix_sent s.minObjects)
    _ = agedNames now s.emitted := staleOf_eq_agedNames now s.emitted

theorem run_deleteCalls_of_finished (h : garbageCollectOnce now listing acts = some s)
    (hf : s.finished = true) (hg : s.groupErr = none) :
    s.deleteCalls = agedNames now listing ∧ s.results = List.replicate s.deleteCalls.length true := by
  have hw := run_wf h
  obtain ⟨hl, hfl, hd⟩ := hw.returned_of_finished hf hg
  have hmin := hw.filter_ok hfl
  have hstale := hw.delete_ok hd
  refine ⟨?_, (run_deleteInv h).idle (.inr hd)⟩
  calc s.deleteCalls = s.staleNames.sent := Chan.received_eq_sent _ hstale.2
    _ = staleOf now s.minObjects.received := (run_filterInv h).complete hfl
    _ = staleOf now s.emitted := by rw [Chan.received_eq_sent _ hmin.2, emitted]
    _ = agedNames now listing := by rw [(run_listInv h).complete hl, staleOf_eq_agedNames]

theorem run_progress (h : garbageCollectOnce now listing acts = some s) :
    s.finished = true ∨ CanStep now s := by
  cases hf : s.finished
  · exact .inr (progress (run_wf h) hf)
  · exact .inl rfl

end Reachable

def cycle : List (Action ε) := [.listSend, .filterReceive, .filterSend, .deleteReceive, .deleteOk]

def cycles (k : Nat) : List (Action ε) := (List.replicate k cycle).flatten

def shutdown : List (Action ε) :=
  [.listEnd, .listRecord, .filterReceive, .filterRecord, .deleteReceive, .deleteRecord]

structure Steady (o : MinObject) (k m : Nat) (s : Pipeline ε) : Prop where
  parent : s.parentCancelled = false
  list : s.list = .running (List.replicate m o)
  minObjects : s.minObjects.buf = []
  filter : s.filter = .running .receive
  staleNames : s.staleNames.buf = []
  delete : s.delete = .running .receive
  objectsDeleted : s.objectsDeleted.toNat = k % 2 ^ 64
  results : s.results = List.replicate k true
  deleteCalls : s.deleteCalls = List.replicate k o.name
  groupErr : s.groupErr = none

theorem Steady.cycle {o : MinObject} {k m : Nat} {s : Pipeline ε} (hs : Steady o k (m + 1) s)
    (ho : isStale now o = true) : ∃ t, run now s cycle = some t ∧ Steady o (k + 1) m t := by
  have hn : filterNext now o = .send o.name := by simp [filterNext, ho]
  simp only [cycle, run, step, hs.list, List.replicate_succ, hs.minObjects, List.length_nil, Nat.ofNat_pos,
    ↓reduceDIte, hs.filter, hs.delete, Option.bind_some, Option.some_bind, Chan.receive_send_of_nil, hn,
    hs.staleNames, Option.some.injEq, exists_eq_left']
  exact ⟨hs.parent, rfl, by simp, rfl, by simp, rfl,
    by simp [toNat_add_one, hs.objectsDeleted, Nat.add_mod],
    by simp [hs.results, List.replicate_succ'],
    by simpa [Pipeline.deleteCalls, List.replicate_succ'] using hs.deleteCalls, hs.groupErr⟩

theorem steady_cycles {o : MinObject} (ho : isStale now o = true) (n : Nat) :
    ∀ k ≤ n, ∃ s, garbageCollectOnce now (List.replicate n o) (cycles k) = some (s : Pipeline ε) ∧
      Steady o k (n - k) s
  | 0, _ => ⟨_, rfl, rfl, by simp [init], rfl, rfl, rfl, rfl, rfl, rfl, rfl, rfl⟩
  | k + 1, hk => by
    obtain ⟨s, hs, hst⟩ := steady_cycles ho n k (by omega)
    have hm : n - k = n - (k + 1) + 1 := by omega
    obtain ⟨t, ht, hstt⟩ := (hm ▸ hst).cycle ho
    refine ⟨t, ?_, hstt⟩
    rw [cycles, List.replicate_succ', List.flatten_append, garbageCollectOnce_append, ← cycles, hs]
    simpa using ht

theorem Steady.shutdown {o : MinObject} {k : Nat} {s : Pipeline ε} (hs : Steady o k 0 s) :
    ∃ t, run now s shutdown = some t ∧ t.finished = true ∧ t.groupErr = none ∧
      t.objectsDeleted = s.objectsDeleted ∧ t.deleteCalls = s.deleteCalls := by
  have hl := hs.list
  simp only [List.replicate_zero] at hl
  simp only [shutdown, run, step, hl, listReturn, hs.groupErr, hs.filter, hs.delete, record, filterReturn,
    deleteReturn, Option.bind_some, Option.some_bind, Option.isNone_none, Option.isSome_none, Bool.and_false,
    Bool.or_false, Option.or_self, Chan.close_buf, hs.minObjects, Chan.receive_eq_none.mpr, Chan.close_closed,
    ↓reduceIte, hs.staleNames, Option.some.injEq, finished, Bool.and_eq_true, Pipeline.deleteCalls,
    exists_eq_left', Goroutine.isExited.eq_3, and_self, Chan.close_received]

theorem Wf.completes : ∀ (m : Nat) {s : Pipeline ε}, s.measure < m → Wf s →
    ∃ more : List (Action ε), (∀ a ∈ more, a.benign = true) ∧ ∃ t, run now s more = some t ∧ t.finished = true
  | 0, _, hm, _ => absurd hm (Nat.not_lt_zero _)
  | m + 1, s, hm, hw => by
    cases hf : s.finished
    · obtain ⟨a, ha, hs⟩ : CanStep now s := progress hw hf
      obtain ⟨t, ht⟩ := Option.isSome_iff_exists.mp hs
      have hst := step_sound ht
      obtain ⟨more, hb, u, hu, hfu⟩ := Wf.completes m (by have := hst.measure_lt; omega) (hw.step hst)
      exact ⟨a :: more, by simpa [ha] using hb, u, by simp [run, ht, hu], hfu⟩
    · exact ⟨[], by simp, s, rfl, hf⟩

section Reachable

variable {listing : List MinObject} {acts : List (Action ε)} {s : Pipeline ε}

theorem deleteCalls_prefix_of_aged (h : garbageCollectOnce now listing acts = some s) :
    s.emitted <+: listing ∧ s.deleteCalls <+: agedNames now s.emitted ∧
      s.results.length ≤ s.deleteCalls.length ∧
      (∀ i, i + 1 < s.deleteCalls.length → s.results[i]? = some true) ∧
      s.objectsDeleted.toNat = s.results.count true % 2 ^ 64 :=
  ⟨(run_listInv h).emitted_listed, run_deleteCalls_isPrefix h, (run_deleteInv h).calls_succeeded.1,
    (run_deleteInv h).calls_succeeded.2, (run_deleteInv h).objectsDeleted⟩

theorem deleteCalls_prefix_of_aged_cycle :
    ∃ s : Pipeline Unit, garbageCollectOnce stalenessThreshold [⟨"a", 0, 0, 0, ""⟩] cycle = some s ∧
      s.emitted <+: [⟨"a", 0, 0, 0, ""⟩] ∧ s.deleteCalls <+: agedNames stalenessThreshold s.emitted ∧
      s.results.length ≤ s.deleteCalls.length ∧
      (∀ i, i + 1 < s.deleteCalls.length → s.results[i]? = some true) ∧
      s.objectsDeleted.toNat = s.results.count true % 2 ^ 64 :=
  ⟨_, rfl, deleteCalls_prefix_of_aged (show run _ _ cycle = _ from rfl)⟩

end Reachable

theorem objectsDeleted_wraps_in_run :
    ∃ s : Pipeline Unit,
      garbageCollectOnce stalenessThreshold (List.replicate (2 ^ 64) ⟨"a", 0, 0, 0, ""⟩) (cycles (2 ^ 64)) =
        some s ∧ s.objectsDeleted.toNat ≠ s.results.count true := by
  have ho : isStale stalenessThreshold ⟨"a", 0, 0, 0, ""⟩ = true := by decide
  obtain ⟨s, hs, hst⟩ : ∃ s : Pipeline Unit, _ := steady_cycles ho (2 ^ 64) (2 ^ 64) le_rfl
  refine ⟨s, hs, ?_⟩
  rw [hst.objectsDeleted, hst.results, List.count_replicate_self]
  decide

section Reachable

variable {listing : List MinObject} {acts : List (Action ε)} {s : Pipeline ε}

theorem run_succeeds_and_deletes_all_aged (h : garbageCollectOnce now listing acts = some s) :
    ((∀ a ∈ acts, a.benign = true) →
      s.groupErr = none ∧ (s.finished = true ∨ CanStep now s) ∧ acts.length ≤ 5 * listing.length + 7) ∧
    (s.finished = true → s.groupErr = none →
      s.deleteCalls = agedNames now listing ∧ s.results = List.replicate s.deleteCalls.length true ∧
        s.objectsDeleted.toNat = s.deleteCalls.length % 2 ^ 64) := by
  refine ⟨fun hb => ⟨(run_clean hb h).groupErr, run_progress h, run_init_length_le h⟩, fun hf hg => ?_⟩
  obtain ⟨hc, hr⟩ := run_deleteCalls_of_finished h hf hg
  refine ⟨hc, hr, ?_⟩
  rw [(run_deleteInv h).objectsDeleted, hr, List.count_replicate_self]

theorem run_succeeds_and_deletes_all_aged_cycle :
    ∃ s : Pipeline Unit,
      garbageCollectOnce stalenessThreshold [⟨"a", 0, 0, 0, ""⟩] (cycle ++ shutdown) = some s ∧
      (s.groupErr = none ∧ (s.finished = true ∨ CanStep stalenessThreshold s) ∧
        (cycle ++ shutdown : List (Action Unit)).length ≤ 5 * [(⟨"a", 0, 0, 0, ""⟩ : MinObject)].length + 7) ∧
      (s.deleteCalls = agedNames stalenessThreshold [⟨"a", 0, 0, 0, ""⟩] ∧
        s.results = List.replicate s.deleteCalls.length true ∧
        s.objectsDeleted.toNat = s.deleteCalls.length % 2 ^ 64) :=
  have h : garbageCollectOnce stalenessThreshold [⟨"a", 0, 0, 0, ""⟩] (cycle ++ shutdown) = some _ := rfl
  ⟨_, h, (run_succeeds_and_deletes_all_aged h).1 (by decide), (run_succeeds_and_deletes_all_aged h).2 rfl rfl⟩

example :
    (garbageCollectOnce (2 * 60 * minute) [⟨"fresh", 0, 0, 2 * 60 * minute - 5 * minute, ""⟩,
        ⟨"aged", 0, 0, 2 * 60 * minute - 31 * minute, ""⟩, ⟨"old", 0, 0, 0, ""⟩]
      [.listSend, .listSend, .listSend, .listEnd, .listRecord, .filterReceive, .filterReceive, .filterSend,
        .filterReceive, .filterSend, .filterReceive, .filterRecord, .deleteReceive, .deleteOk, .deleteReceive,
        .deleteOk, .deleteReceive, .deleteRecord]).map (fun s : Pipeline Unit => (s.finished, s.result, s.deleteCalls)) =
      some (true, (2, none), ["aged", "old"]) := by
  decide

end Reachable

theorem objectsDeleted_wraps_at_return :
    ∃ s : Pipeline Unit,
      garbageCollectOnce stalenessThreshold (List.replicate (2 ^ 64) ⟨"a", 0, 0, 0, ""⟩)
        (cycles (2 ^ 64) ++ shutdown) = some s ∧
      s.finished = true ∧ s.groupErr = none ∧ s.objectsDeleted.toNat ≠ s.deleteCalls.length := by
  have ho : isStale stalenessThreshold ⟨"a", 0, 0, 0, ""⟩ = true := by decide
  obtain ⟨s, hs, hst⟩ : ∃ s : Pipeline Unit, _ := steady_cycles ho (2 ^ 64) (2 ^ 64) le_rfl
  obtain ⟨t, ht, hf, hg, hd, hc⟩ := (Nat.sub_self (2 ^ 64) ▸ hst).shutdown
  refine ⟨t, by rw [garbageCollectOnce_append, hs]; exact ht, hf, hg, ?_⟩
  rw [hd, hc, hst.objectsDeleted, hst.deleteCalls, List.length_replicate]
  decide

section Reachable

variable {listing : List MinObject} {acts : List (Action ε)} {s : Pipeline ε}

theorem pipeline_never_stuck_and_terminates (h : garbageCollectOnce now listing acts = some s) :
    (s.finished = true ∨ CanStep now s) ∧ acts.length ≤ 5 * listing.length + 7 :=
  ⟨run_progress h, run_init_length_le h⟩

theorem pipeline_never_stuck_and_terminates_cycle :
    ∃ s : Pipeline Unit, garbageCollectOnce stalenessThreshold [⟨"a", 0, 0, 0, ""⟩] cycle = some s ∧
      (s.finished = true ∨ CanStep stalenessThreshold s) ∧
      (cycle : List (Action Unit)).length ≤ 5 * [(⟨"a", 0, 0, 0, ""⟩ : MinObject)].length + 7 :=
  ⟨_, rfl, pipeline_never_stuck_and_terminates (show run _ _ cycle = _ from rfl)⟩

theorem run_can_complete (h : garbageCollectOnce now listing acts = some s) :
    ∃ more : List (Action ε), (∀ a ∈ more, a.benign = true) ∧
      ∃ t, run now s more = some t ∧ t.finished = true :=
  Wf.completes _ (Nat.lt_succ_self _) (run_wf h)

theorem run_can_complete_cycle :
    ∃ s : Pipeline Unit, garbageCollectOnce stalenessThreshold [⟨"a", 0, 0, 0, ""⟩] cycle = some s ∧
      ∃ more : List (Action Unit), (∀ a ∈ more, a.benign = true) ∧
        ∃ t, run stalenessThreshold s more = some t ∧ t.finished = true := by
  have h : garbageCollectOnce stalenessThreshold [⟨"a", 0, 0, 0, ""⟩] cycle = some (_ : Pipeline Unit) := rfl
  exact ⟨_, h, run_can_complete h⟩

theorem groupErr_is_live_bucket_failure (hp : Action.cancelParent ∉ acts)
    (h : garbageCollectOnce now listing acts = some s) {err : GcError ε} (he : s.groupErr = some err) :
    ((∃ e, err = .listPrefix (.bucket e)) ∨ ∃ n e, err = .deleteObject n (.bucket e)) ∧
      (err, true) ∈ s.failures := by
  obtain ⟨hb, hm⟩ := (run_firstErrorInv hp h).recorded err he
  exact ⟨GcError.isBucketFailure_iff.mp hb, hm⟩

theorem groupErr_is_live_bucket_failure_deleteFail :
    ∃ s : Pipeline Nat,
      garbageCollectOnce stalenessThreshold [⟨"a", 0, 0, 0, ""⟩]
        [.listSend, .filterReceive, .filterSend, .deleteReceive, .deleteFail 7, .listEnd, .filterReceive,
          .deleteRecord] = some s ∧
      s.groupErr = some (.deleteObject "a" (.bucket 7)) ∧
      (((∃ e, GcError.deleteObject "a" (.bucket 7) = .listPrefix (.bucket e)) ∨
        ∃ n e, GcError.deleteObject "a" (.bucket 7) = .deleteObject n (.bucket e)) ∧
        (.deleteObject "a" (.bucket 7), true) ∈ s.failures) :=
  have h : garbageCollectOnce stalenessThreshold [⟨"a", 0, 0, 0, ""⟩] [.listSend, .filterReceive, .filterSend,
      .deleteReceive, .deleteFail 7, .listEnd, .filterReceive, .deleteRecord] = some _ := rfl
  ⟨_, h, rfl, groupErr_is_live_bucket_failure (by decide) h rfl⟩

end Reachable

end Gcsfuse.Gcsx
