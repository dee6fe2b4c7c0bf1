import Gcsfuse.Gcsx.GarbageCollect

namespace Gcsfuse.Gcsx

open Gcsfuse.Gcs Gcsfuse.Go Pipeline

variable {ε : Type} {now : Int}

structure Wf (s : Pipeline ε) : Prop where
  minObjects_closed : s.minObjects.closed = !s.list.isRunning
  staleNames_closed : s.staleNames.closed = !s.filter.isRunning
  cancelled_eq : s.cancelled = s.groupErr.isSome
  failed_recorded : (s.list.failed || s.filter.failed || s.delete.failed) = true → s.groupErr.isSome = true
  filter_ok : s.filter.returned = some none → s.minObjects.closed = true ∧ s.minObjects.buf = []
  delete_ok : s.delete.returned = some none → s.staleNames.closed = true ∧ s.staleNames.buf = []

theorem wf_init (listing : List MinObject) : Wf (Pipeline.init listing : Pipeline ε) :=
  ⟨rfl, rfl, rfl, by simp [init], by simp [init], by simp [init]⟩

@[simp] theorem isSome_or_isNone_and {α : Type} (g : Option α) (b : Bool) :
    (g.isSome || g.isNone && b) = (g.isSome || b) := by
  cases g <;> simp

section
variable {s : Pipeline ε} (hw : Wf s)
include hw

theorem Wf.listReturn {rest : List MinObject} (hl : s.list = .running rest) (err : Option (GcError ε)) :
    Wf (s.listReturn err) :=
  ⟨rfl, hw.2, hw.3, fun h => hw.4 (by simpa [Pipeline.listReturn, hl] using h),
    fun hr => ⟨rfl, (hw.5 hr).2⟩, hw.6⟩

theorem Wf.filterReturn {pc : FilterPc} (hf : s.filter = .running pc) {err : Option (GcError ε)}
    (hok : err = none → s.minObjects.closed = true ∧ s.minObjects.buf = []) :
    Wf (s.filterReturn err) :=
  ⟨hw.1, rfl, hw.3, fun h => hw.4 (by simpa [Pipeline.filterReturn, hf] using h),
    fun hr => hok (by simpa [Pipeline.filterReturn] using hr), fun hr => ⟨rfl, (hw.6 hr).2⟩⟩

theorem Wf.deleteReturn {pc : DeletePc} (hd : s.delete = .running pc) {err : Option (GcError ε)}
    (hok : err = none → s.staleNames.closed = true ∧ s.staleNames.buf = []) :
    Wf (s.deleteReturn err) :=
  ⟨hw.1, hw.2, hw.3, fun h => hw.4 (by simpa [Pipeline.deleteReturn, hd] using h), hw.5,
    fun hr => hok (by simpa [Pipeline.deleteReturn] using hr)⟩

theorem Wf.record_cancelled (err : Option (GcError ε)) :
    (s.record err).cancelled = (s.record err).groupErr.isSome := by
  simp [Pipeline.record, hw.3]

theorem Wf.record_failed (err : Option (GcError ε))
    (hf : err.isSome = true ∨ (s.list.failed || s.filter.failed || s.delete.failed) = true) :
    (s.record err).groupErr.isSome = true := by
  cases hg : s.groupErr with
  | some _ => simp [Pipeline.record, hg]
  | none =>
    rcases hf with hf | hf
    · simpa [Pipeline.record, hg] using hf
    · simpa [hg] using hw.4 hf

end

theorem Wf.step {s t : Pipeline ε} {a : Action ε} (hw : Wf s) (h : Step now s a t) : Wf t := by
  cases h
  case cancelParent => exact ⟨hw.1, hw.2, hw.3, hw.4, hw.5, hw.6⟩
  case listSend hl _ =>
    have hc : s.minObjects.closed = false := by simp [hw.1, hl]
    exact ⟨by simp [hc], hw.2, hw.3, fun h => hw.4 (by simpa [hl] using h),
      fun hr => absurd (hw.5 hr).1 (by simp [hc]), hw.6⟩
  case listEnd hl => exact hw.listReturn hl _
  case listCancel hl _ => exact hw.listReturn hl _
  case listFail hl => exact hw.listReturn hl _
  case listRecord err hl =>
    exact ⟨by simpa [hl] using hw.1, hw.2, hw.record_cancelled err,
      fun h => hw.record_failed err (by simp [Pipeline.record, hl] at h ⊢; rcases h with (h | h) | h <;> simp [h]), by simpa [hl] using hw.5, hw.6⟩
  case filterReceive hf hb =>
    exact ⟨hw.1, by simpa [hf] using hw.2, hw.3, fun h => hw.4 (by simpa [hf] using h),
      fun hr => (by cases hr), hw.6⟩
  case filterExit hf hb hc => exact hw.filterReturn hf fun _ => ⟨hc, hb⟩
  case filterSend hf _ =>
    have hc : s.staleNames.closed = false := by simp [hw.2, hf]
    exact ⟨hw.1, by simp [hc], hw.3, fun h => hw.4 (by simpa [hf] using h), fun hr => (by cases hr),
      fun hr => absurd (hw.6 hr).1 (by simp [hc])⟩
  case filterCancel hf _ => exact hw.filterReturn hf fun h => by cases h
  case filterRecord err hf =>
    exact ⟨hw.1, by simpa [hf] using hw.2, hw.record_cancelled err,
      fun h => hw.record_failed err (by simp [Pipeline.record, hf] at h ⊢; rcases h with (h | h) | h <;> simp [h]), by simpa [hf] using hw.5, hw.6⟩
  case deleteReceive hd hb =>
    exact ⟨hw.1, hw.2, hw.3, fun h => hw.4 (by simpa [hd] using h), hw.5, fun hr => (by cases hr)⟩
  case deleteExit hd hb hc => exact hw.deleteReturn hd fun _ => ⟨hc, hb⟩
  case deleteOk hd =>
    exact ⟨hw.1, hw.2, hw.3, fun h => hw.4 (by simpa [hd] using h), hw.5, fun hr => (by cases hr)⟩
  case deleteFail n e hd =>
    have : Wf (s.deleteReturn (some (.deleteObject n (.bucket e)))) := hw.deleteReturn hd fun h => by cases h
    exact ⟨this.1, this.2, this.3, this.4, this.5, this.6⟩
  case deleteRecord err hd =>
    exact ⟨hw.1, hw.2, hw.record_cancelled err,
      fun h => hw.record_failed err (by simp [Pipeline.record, hd] at h ⊢; rcases h with (h | h) | h <;> simp [h]), hw.5, by simpa [hd] using hw.6⟩


def staleOf (now : Int) (objs : List MinObject) : List String :=
  (objs.filter (isStale now)).map (·.name)

theorem staleOf_append (now : Int) (xs ys : List MinObject) :
    staleOf now (xs ++ ys) = staleOf now xs ++ staleOf now ys := by
  simp [staleOf]

theorem staleOf_snoc (now : Int) (xs : List MinObject) (o : MinObject) :
    staleOf now (xs ++ [o]) = staleOf now xs ++ (match filterNext now o with
      | .send n => [n]
      | .receive => []) := by
  unfold filterNext
  cases h : isStale now o <;> simp [staleOf, h]

structure ListInv (listing : List MinObject) (s : Pipeline ε) : Prop where
  emitted_listed : s.emitted <+: listing
  running : ∀ rest, s.list = .running rest → s.emitted ++ rest = listing
  complete : s.list.returned = some none → s.emitted = listing

theorem listInv_init (listing : List MinObject) : ListInv listing (Pipeline.init listing : Pipeline ε) :=
  ⟨List.nil_prefix, by simp [init, emitted], by simp [init]⟩

theorem ListInv.step {listing : List MinObject} {s t : Pipeline ε} {a : Action ε}
    (hi : ListInv listing s) (h : Step now s a t) : ListInv listing t := by
  cases h
  case listSend o rest hl _ =>
    have he := hi.running _ hl
    refine ⟨⟨rest, ?_⟩, fun r hr => ?_, fun hr => (by cases hr)⟩ <;>
      simp_all [emitted]
  case listEnd hl => exact ⟨hi.1, fun _ hr => (by cases hr), fun _ => by simpa using hi.running [] hl⟩
  case listCancel => exact ⟨hi.1, fun _ hr => (by cases hr), fun hr => (by cases hr)⟩
  case listFail => exact ⟨hi.1, fun _ hr => (by cases hr), fun hr => (by cases hr)⟩
  case listRecord hl =>
    exact ⟨hi.1, fun _ hr => (by cases hr), fun hr => hi.3 (by rw [hl]; exact hr)⟩
  all_goals exact ⟨hi.1, hi.2, hi.3⟩

structure FilterInv (now : Int) (s : Pipeline ε) : Prop where
  forwarded_stale : s.staleNames.sent <+: staleOf now s.minObjects.received
  receive : s.filter = .running .receive → s.staleNames.sent = staleOf now s.minObjects.received
  send : ∀ n, s.filter = .running (.send n) →
    s.staleNames.sent ++ [n] = staleOf now s.minObjects.received
  complete : s.filter.returned = some none → s.staleNames.sent = staleOf now s.minObjects.received

theorem filterInv_init (listing : List MinObject) : FilterInv now (Pipeline.init listing : Pipeline ε) :=
  ⟨by simp [init, staleOf], by simp [init, staleOf], by simp [init], by simp [init]⟩

theorem FilterInv.step {s t : Pipeline ε} {a : Action ε} (hi : FilterInv now s)
    (h : Step now s a t) : FilterInv now t := by
  cases h
  case filterReceive o _ hf _ =>
    have h0 := hi.receive hf
    have hs := staleOf_snoc now s.minObjects.received o
    refine ⟨?_, fun hr => ?_, fun n hr => ?_, fun hr => (by cases hr)⟩ <;>
      cases hn : filterNext now o <;> simp_all
  case filterExit hf _ _ => exact ⟨hi.1, fun hr => (by cases hr), fun _ hr => (by cases hr), fun _ => hi.2 hf⟩
  case filterSend n hf _ =>
    have h0 := hi.send n hf
    exact ⟨by simp [h0], fun _ => by simp [h0], fun _ hr => (by cases hr), fun hr => (by cases hr)⟩
  case filterCancel n hf _ =>
    have h0 := hi.send n hf
    exact ⟨⟨[n], h0⟩, fun hr => (by cases hr), fun _ hr => (by cases hr), fun hr => (by cases hr)⟩
  case filterRecord hf =>
    exact ⟨hi.1, fun hr => (by cases hr), fun _ hr => (by cases hr), fun hr => hi.4 (by rw [hf]; exact hr)⟩
  all_goals exact ⟨hi.1, hi.2, hi.3, hi.4⟩

theorem toNat_add_one (x : UInt64) : (x + 1).toNat = (x.toNat + 1) % 2 ^ 64 := by
  simp [UInt64.toNat, UInt64.add_def, BitVec.toNat_add]

structure DeleteInv (s : Pipeline ε) : Prop where
  idle : s.delete = .running .receive ∨ s.delete.returned = some none →
    s.results = List.replicate s.deleteCalls.length true
  busy : ∀ n, s.delete = .running (.delete n) →
    ∃ done, s.deleteCalls = done ++ [n] ∧ s.results = List.replicate done.length true
  failed : ∀ e, s.delete.returned = some (some e) →
    ∃ done n, s.deleteCalls = done ++ [n] ∧ s.results = List.replicate done.length true ++ [false]
  objectsDeleted : s.objectsDeleted.toNat = s.results.count true % 2 ^ 64

theorem deleteInv_init (listing : List MinObject) : DeleteInv (Pipeline.init listing : Pipeline ε) :=
  ⟨by simp [init, deleteCalls], by simp [init], by simp [init], rfl⟩

theorem DeleteInv.step {s t : Pipeline ε} {a : Action ε} (hi : DeleteInv s) (h : Step now s a t) :
    DeleteInv t := by
  cases h
  case deleteReceive n _ hd _ =>
    exact ⟨fun hr => by simp at hr, fun _ hr => by cases hr; exact ⟨_, rfl, hi.1 (.inl hd)⟩,
      fun _ hr => (by cases hr), hi.4⟩
  case deleteExit hd _ _ =>
    exact ⟨fun _ => hi.1 (.inl hd), fun _ hr => (by cases hr), fun _ hr => (by cases hr), hi.4⟩
  case deleteOk n hd =>
    obtain ⟨done, hc, hr⟩ := hi.2 n hd
    refine ⟨fun _ => ?_, fun _ hr => (by cases hr), fun _ hr => (by cases hr), ?_⟩
    · simp [deleteCalls] at hc ⊢
      simp [hc, hr, List.replicate_succ']
    · simp [toNat_add_one, hi.4, Nat.add_mod]
  case deleteFail n e hd =>
    obtain ⟨done, hc, hr⟩ := hi.2 n hd
    exact ⟨fun hr => by simp [deleteReturn] at hr, fun _ hr => (by cases hr),
      fun _ _ => ⟨done, n, hc, by simp [hr]⟩, by simpa [deleteReturn] using hi.4⟩
  case deleteRecord hd =>
    exact ⟨fun hr => hi.1 (.inr (by rw [hd]; simpa using hr)), fun _ hr => (by cases hr),
      fun e hr => hi.3 e (by rw [hd]; exact hr), hi.4⟩
  all_goals exact ⟨hi.1, hi.2, hi.3, hi.4⟩

def GcError.isBucketFailure : GcError ε → Bool
  | .listPrefix (.bucket _) => true
  | .deleteObject _ (.bucket _) => true
  | _ => false

theorem GcError.isBucketFailure_iff {err : GcError ε} :
    err.isBucketFailure = true ↔
      (∃ e, err = .listPrefix (.bucket e)) ∨ ∃ n e, err = .deleteObject n (.bucket e) := by
  constructor
  · intro h
    unfold GcError.isBucketFailure at h
    split at h <;> simp_all
  · rintro (⟨e, rfl⟩ | ⟨n, e, rfl⟩) <;> rfl

def Genuine (failures : List (GcError ε × Bool)) (err : GcError ε) : Prop :=
  err.isBucketFailure = true ∧ (err, true) ∈ failures

theorem Genuine.append {fs : List (GcError ε × Bool)} {err : GcError ε} (h : Genuine fs err)
    (ys : List (GcError ε × Bool)) : Genuine (fs ++ ys) err :=
  ⟨h.1, List.mem_append_left ys h.2⟩

def Pending {σ : Type} (failures : List (GcError ε × Bool)) (g : Goroutine σ ε) : Prop :=
  ∀ err, g.returned = some (some err) → Genuine failures err

theorem Pending.append {σ : Type} {fs : List (GcError ε × Bool)} {g : Goroutine σ ε}
    (h : Pending fs g) (ys : List (GcError ε × Bool)) : Pending (fs ++ ys) g :=
  fun err he => (h err he).append ys

theorem pending_running {σ : Type} (fs : List (GcError ε × Bool)) (pc : σ) :
    Pending fs (Goroutine.running pc : Goroutine σ ε) :=
  fun _ h => by cases h

theorem pending_none {σ : Type} (fs : List (GcError ε × Bool)) :
    Pending fs (Goroutine.exiting none : Goroutine σ ε) :=
  fun _ h => by cases h

structure FirstErrorInv (s : Pipeline ε) : Prop where
  parent : s.parentCancelled = false
  recorded : ∀ err, s.groupErr = some err → Genuine s.failures err
  pending : s.groupErr = none →
    Pending s.failures s.list ∧ Pending s.failures s.filter ∧ Pending s.failures s.delete

theorem firstErrorInv_init (listing : List MinObject) :
    FirstErrorInv (Pipeline.init listing : Pipeline ε) :=
  ⟨rfl, by simp [init], fun _ => ⟨pending_running _ _, pending_running _ _, pending_running _ _⟩⟩

theorem FirstErrorInv.live {s : Pipeline ε} (hi : FirstErrorInv s) (hw : Wf s)
    (hg : s.groupErr = none) : s.ctxDone = false := by
  simp [ctxDone, hi.parent, hw.cancelled_eq, hg]

theorem FirstErrorInv.logFailure {s : Pipeline ε} (hi : FirstErrorInv s) (err : Option (GcError ε)) :
    ∀ e, s.groupErr = some e → Genuine (s.logFailure err) e := by
  intro e he
  cases err
  · exact hi.recorded e he
  · exact (hi.recorded e he).append _

theorem FirstErrorInv.returning {s : Pipeline ε} {σ : Type} (hi : FirstErrorInv s) (hw : Wf s)
    (err : Option (GcError ε)) (hb : ∀ e, err = some e → s.ctxDone = false → e.isBucketFailure = true)
    (hg : s.groupErr = none) :
    Pending (s.logFailure err) (Goroutine.exiting err : Goroutine σ ε) := by
  rintro e ⟨⟩
  have hd := hi.live hw hg
  exact ⟨hb e rfl hd, by simp [Pipeline.logFailure, hd]⟩

theorem FirstErrorInv.others {s : Pipeline ε} (hi : FirstErrorInv s) (err : Option (GcError ε))
    (hg : s.groupErr = none) :
    Pending (s.logFailure err) s.list ∧ Pending (s.logFailure err) s.filter ∧
      Pending (s.logFailure err) s.delete := by
  obtain ⟨h1, h2, h3⟩ := hi.pending hg
  cases err
  · exact ⟨h1, h2, h3⟩
  · exact ⟨h1.append _, h2.append _, h3.append _⟩

theorem FirstErrorInv.record {s : Pipeline ε} {σ : Type} (hi : FirstErrorInv s)
    (err : Option (GcError ε)) (hp : s.groupErr = none → Pending s.failures (Goroutine.exiting err : Goroutine σ ε)) :
    ∀ e, s.groupErr.or err = some e → Genuine s.failures e := by
  intro e he
  cases hg : s.groupErr with
  | some g' => simp [hg] at he; exact hi.recorded e (he ▸ hg)
  | none => simp [hg] at he; exact hp hg e (by simp [he])

theorem FirstErrorInv.step {s t : Pipeline ε} {a : Action ε} (hw : Wf s) (hi : FirstErrorInv s)
    (ha : a ≠ .cancelParent) (h : Step now s a t) : FirstErrorInv t := by
  have cancelled : s.ctxDone = true → s.groupErr ≠ none := fun hd hg => by
    simp [hi.live hw hg] at hd
  cases h
  case cancelParent => exact absurd rfl ha
  case listSend => exact ⟨hi.parent, hi.recorded, fun hg => ⟨pending_running _ _, (hi.pending hg).2⟩⟩
  case listEnd => exact ⟨hi.parent, hi.recorded, fun hg => ⟨pending_none _, (hi.pending hg).2⟩⟩
  case listCancel hd => exact ⟨hi.parent, hi.logFailure (some (.listPrefix .canceled)), fun hg => absurd hg (cancelled hd)⟩
  case listFail e _ =>
    have ho := hi.others (some (.listPrefix (.bucket e)))
    exact ⟨hi.parent, hi.logFailure (some (.listPrefix (.bucket e))), fun hg => ⟨hi.returning hw _
      (fun _ he _ => GcError.isBucketFailure_iff.mpr (.inl ⟨e, (Option.some.inj he).symm⟩)) hg, (ho hg).2⟩⟩
  case listRecord err hl =>
    refine ⟨hi.parent, hi.record err fun hg => hl ▸ (hi.pending hg).1, fun hg => ?_⟩
    obtain ⟨hs, rfl⟩ := Option.or_eq_none.mp hg
    exact ⟨pending_none (σ := List MinObject) _, (hi.pending hs).2⟩
  case filterReceive =>
    exact ⟨hi.parent, hi.recorded, fun hg => ⟨(hi.pending hg).1, pending_running _ _, (hi.pending hg).2.2⟩⟩
  case filterExit =>
    exact ⟨hi.parent, hi.recorded, fun hg => ⟨(hi.pending hg).1, pending_none _, (hi.pending hg).2.2⟩⟩
  case filterSend =>
    exact ⟨hi.parent, hi.recorded, fun hg => ⟨(hi.pending hg).1, pending_running _ _, (hi.pending hg).2.2⟩⟩
  case filterCancel hd => exact ⟨hi.parent, hi.logFailure (some .canceled), fun hg => absurd hg (cancelled hd)⟩
  case filterRecord err hf =>
    refine ⟨hi.parent, hi.record err fun hg => hf ▸ (hi.pending hg).2.1, fun hg => ?_⟩
    obtain ⟨hs, rfl⟩ := Option.or_eq_none.mp hg
    exact ⟨(hi.pending hs).1, pending_none (σ := FilterPc) _, (hi.pending hs).2.2⟩
  case deleteReceive =>
    exact ⟨hi.parent, hi.recorded, fun hg => ⟨(hi.pending hg).1, (hi.pending hg).2.1, pending_running _ _⟩⟩
  case deleteExit =>
    exact ⟨hi.parent, hi.recorded, fun hg => ⟨(hi.pending hg).1, (hi.pending hg).2.1, pending_none _⟩⟩
  case deleteOk =>
    exact ⟨hi.parent, hi.recorded, fun hg => ⟨(hi.pending hg).1, (hi.pending hg).2.1, pending_running _ _⟩⟩
  case deleteFail n e _ =>
    have ho := hi.others (some (.deleteObject n (.bucket e)))
    exact ⟨hi.parent, hi.logFailure (some (.deleteObject n (.bucket e))), fun hg => ⟨(ho hg).1, (ho hg).2.1, hi.returning hw _
      (fun _ he _ => GcError.isBucketFailure_iff.mpr (.inr ⟨n, e, (Option.some.inj he).symm⟩)) hg⟩⟩
  case deleteRecord err hd =>
    refine ⟨hi.parent, hi.record err fun hg => hd ▸ (hi.pending hg).2.2, fun hg => ?_⟩
    obtain ⟨hs, rfl⟩ := Option.or_eq_none.mp hg
    exact ⟨(hi.pending hs).1, (hi.pending hs).2.1, pending_none (σ := DeletePc) _⟩

section Reachable

variable {listing : List MinObject} {acts : List (Action ε)} {s : Pipeline ε}

theorem run_wf (h : garbageCollectOnce now listing acts = some s) : Wf s :=
  run_invariant Wf (fun _ => True) (fun _ hw hs => hw.step hs) (fun _ _ => trivial) (wf_init listing) h

theorem run_listInv (h : garbageCollectOnce now listing acts = some s) : ListInv listing s :=
  run_invariant (ListInv listing) (fun _ => True) (fun _ hi hs => hi.step hs) (fun _ _ => trivial)
    (listInv_init listing) h

theorem run_filterInv (h : garbageCollectOnce now listing acts = some s) : FilterInv now s :=
  run_invariant (FilterInv now) (fun _ => True) (fun _ hi hs => hi.step hs) (fun _ _ => trivial)
    (filterInv_init listing) h

theorem run_deleteInv (h : garbageCollectOnce now listing acts = some s) : DeleteInv s :=
  run_invariant DeleteInv (fun _ => True) (fun _ hi hs => hi.step hs) (fun _ _ => trivial)
    (deleteInv_init listing) h

theorem run_firstErrorInv (hp : Action.cancelParent ∉ acts)
    (h : garbageCollectOnce now listing acts = some s) : FirstErrorInv s :=
  (run_invariant (fun s => Wf s ∧ FirstErrorInv s) (· ≠ .cancelParent)
    (fun ha hi hs => ⟨hi.1.step hs, hi.2.step hi.1 ha hs⟩) (fun _ ha he => hp (he ▸ ha))
    ⟨wf_init listing, firstErrorInv_init listing⟩ h).2

end Reachable

end Gcsfuse.Gcsx
