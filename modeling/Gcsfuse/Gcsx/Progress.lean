import Gcsfuse.Gcsx.Invariants

namespace Gcsfuse.Gcsx

open Gcsfuse.Gcs Gcsfuse.Go Pipeline

variable {ε : Type} {now : Int}

def Goroutine.weight {σ : Type} (w : σ → Nat) : Goroutine σ ε → Nat
  | .running pc => 2 + w pc
  | .exiting _ => 1
  | .exited _ => 0

def FilterPc.weight : FilterPc → Nat
  | .receive => 0
  | .send _ => 3

def DeletePc.weight : DeletePc → Nat
  | .receive => 0
  | .delete _ => 1

attribute [simp] Goroutine.weight.eq_1 Goroutine.weight.eq_2 Goroutine.weight.eq_3
  FilterPc.weight.eq_1 FilterPc.weight.eq_2 DeletePc.weight.eq_1 DeletePc.weight.eq_2

theorem FilterPc.weight_le (pc : FilterPc) : pc.weight ≤ 3 := by
  cases pc <;> simp

def Pipeline.measure (s : Pipeline ε) : Nat :=
  (if s.parentCancelled then 0 else 1) + s.list.weight (fun rest => 5 * rest.length) +
    4 * s.minObjects.buf.length + s.filter.weight FilterPc.weight + 2 * s.staleNames.buf.length +
    s.delete.weight DeletePc.weight

theorem measure_init (listing : List MinObject) :
    (Pipeline.init listing : Pipeline ε).measure = 5 * listing.length + 7 := by
  simp [Pipeline.measure, init]
  omega

theorem Step.measure_lt {s t : Pipeline ε} {a : Action ε} (h : Step now s a t) :
    t.measure < s.measure := by
  cases h
  case filterReceive o _ _ _ =>
    have := (filterNext now o).weight_le
    simp_all [Pipeline.measure]
    omega
  all_goals simp_all [Pipeline.measure, listReturn, filterReturn, deleteReturn, record] <;> omega

theorem run_length_le {s t : Pipeline ε} :
    ∀ {acts : List (Action ε)}, run now s acts = some t → acts.length + t.measure ≤ s.measure
  | [], h => by cases h; simp
  | a :: acts, h => by
    simp only [run, Option.bind_eq_some] at h
    obtain ⟨u, hu, ht⟩ := h
    have := (step_sound hu).measure_lt
    have := run_length_le ht
    simp only [List.length_cons]
    omega

def Action.benign : Action ε → Bool
  | .cancelParent => false
  | .listFail _ => false
  | .deleteFail _ => false
  | _ => true

def CanStep (now : Int) (s : Pipeline ε) : Prop :=
  ∃ a : Action ε, a.benign = true ∧ (step now s a).isSome = true

section Enabled

variable {s : Pipeline ε}

theorem list_progress (hr : s.list.isRunning = true)
    (h : s.minObjects.buf.length < 100 ∨ s.ctxDone = true) : CanStep now s := by
  cases hl : s.list with
  | running rest =>
    cases rest with
    | nil => exact ⟨.listEnd, rfl, by simp [step, hl]⟩
    | cons o rest =>
      rcases h with h | h
      · exact ⟨.listSend, rfl, by simp [step, hl, h]⟩
      · exact ⟨.listCancel, rfl, by simp [step, hl, h]⟩
  | _ => simp [hl] at hr

theorem filter_progress (hr : s.filter.isRunning = true)
    (hm : s.minObjects.buf ≠ [] ∨ s.minObjects.closed = true)
    (hs : s.staleNames.buf.length < 100 ∨ s.ctxDone = true) : CanStep now s := by
  cases hf : s.filter with
  | running pc =>
    cases pc with
    | receive =>
      cases hb : s.minObjects.buf with
      | cons o rest => exact ⟨.filterReceive, rfl, by simp [step, hf, Chan.receive_of_buf hb]⟩
      | nil =>
        have hc : s.minObjects.closed = true := by simpa [hb] using hm
        exact ⟨.filterReceive, rfl, by simp [step, hf, Chan.receive_eq_none.mpr hb, hc]⟩
    | send n =>
      rcases hs with h | h
      · exact ⟨.filterSend, rfl, by simp [step, hf, h]⟩
      · exact ⟨.filterCancel, rfl, by simp [step, hf, h]⟩
  | _ => simp [hf] at hr

theorem delete_progress (hr : s.delete.isRunning = true)
    (h : s.staleNames.buf ≠ [] ∨ s.staleNames.closed = true) : CanStep now s := by
  cases hd : s.delete with
  | running pc =>
    cases pc with
    | receive =>
      cases hb : s.staleNames.buf with
      | cons n rest => exact ⟨.deleteReceive, rfl, by simp [step, hd, Chan.receive_of_buf hb]⟩
      | nil =>
        have hc : s.staleNames.closed = true := by simpa [hb] using h
        exact ⟨.deleteReceive, rfl, by simp [step, hd, Chan.receive_eq_none.mpr hb, hc]⟩
    | delete n => exact ⟨.deleteOk, rfl, by simp [step, hd]⟩
  | _ => simp [hd] at hr

theorem list_record_progress {err : Option (GcError ε)} (h : s.list = .exiting err) :
    CanStep now s :=
  ⟨.listRecord, rfl, by simp [step, h]⟩

theorem filter_record_progress {err : Option (GcError ε)} (h : s.filter = .exiting err) :
    CanStep now s :=
  ⟨.filterRecord, rfl, by simp [step, h]⟩

theorem delete_record_progress {err : Option (GcError ε)} (h : s.delete = .exiting err) :
    CanStep now s :=
  ⟨.deleteRecord, rfl, by simp [step, h]⟩

end Enabled

theorem Wf.ctxDone_of_failed {s : Pipeline ε} (hw : Wf s)
    (h : (s.list.failed || s.filter.failed || s.delete.failed) = true) : s.ctxDone = true := by
  simp [ctxDone, hw.cancelled_eq, hw.failed_recorded h]

theorem progress_cancelled {s : Pipeline ε} (hw : Wf s) (hf : s.finished = false)
    (hd : s.ctxDone = true) : CanStep now s := by
  by_cases hl : s.list.isRunning = true
  · exact list_progress hl (.inr hd)
  by_cases hfr : s.filter.isRunning = true
  · exact filter_progress hfr (.inr (by simp [hw.minObjects_closed, hl])) (.inr hd)
  by_cases hdr : s.delete.isRunning = true
  · exact delete_progress hdr (.inr (by simp [hw.staleNames_closed, hfr]))
  cases hll : s.list with
  | running => simp [hll] at hl
  | exiting => exact list_record_progress hll
  | exited =>
    cases hfl : s.filter with
    | running => simp [hfl] at hfr
    | exiting => exact filter_record_progress hfl
    | exited =>
      cases hdl : s.delete with
      | running => simp [hdl] at hdr
      | exiting => exact delete_record_progress hdl
      | exited => simp [finished, hll, hfl, hdl] at hf

theorem progress_live {s : Pipeline ε} (hw : Wf s) (hf : s.finished = false)
    (hd : s.ctxDone = false) : CanStep now s := by
  have hnf : (s.list.failed || s.filter.failed || s.delete.failed) = false := by
    cases h : (s.list.failed || s.filter.failed || s.delete.failed)
    · rfl
    · simp [hw.ctxDone_of_failed h] at hd
  cases hdl : s.delete with
  | exiting err => exact delete_record_progress hdl
  | running pc =>
    by_cases hb : s.staleNames.buf ≠ [] ∨ s.staleNames.closed = true
    · exact delete_progress (by simp [hdl]) hb
    have hfr : s.staleNames.buf = [] ∧ s.filter.isRunning = true := by
      simpa [hw.staleNames_closed] using hb
    by_cases hm : s.minObjects.buf ≠ [] ∨ s.minObjects.closed = true
    · exact filter_progress hfr.2 hm (.inl (by simp [hfr.1]))
    have hl : s.minObjects.buf = [] ∧ s.list.isRunning = true := by
      simpa [hw.minObjects_closed] using hm
    exact list_progress hl.2 (.inl (by simp [hl.1]))
  | exited err =>
    cases err with
    | some e => simp [hdl] at hnf
    | none =>
      have hc := (hw.delete_ok (by simp [hdl])).1
      cases hfl : s.filter with
      | exiting err => exact filter_record_progress hfl
      | running pc => simp [hw.staleNames_closed, hfl] at hc
      | exited err =>
        cases err with
        | some e => simp [hfl] at hnf
        | none =>
          have hm := (hw.filter_ok (by simp [hfl])).1
          cases hll : s.list with
          | exiting err => exact list_record_progress hll
          | running pc => simp [hw.minObjects_closed, hll] at hm
          | exited err => simp [finished, hll, hfl, hdl] at hf

theorem progress {s : Pipeline ε} (hw : Wf s) (hf : s.finished = false) : CanStep now s := by
  cases hd : s.ctxDone
  · exact progress_live hw hf hd
  · exact progress_cancelled hw hf hd

def Goroutine.error {σ : Type} : Goroutine σ ε → Option (GcError ε)
  | .running _ => none
  | .exiting err => err
  | .exited err => err

structure Clean (s : Pipeline ε) : Prop where
  parent : s.parentCancelled = false
  groupErr : s.groupErr = none
  list : s.list.error = none
  filter : s.filter.error = none
  delete : s.delete.error = none

theorem clean_init (listing : List MinObject) : Clean (Pipeline.init listing : Pipeline ε) :=
  ⟨rfl, rfl, rfl, rfl, rfl⟩

theorem Clean.step {s t : Pipeline ε} {a : Action ε} (hw : Wf s) (hc : Clean s)
    (ha : a.benign = true) (h : Step now s a t) : Clean t := by
  have live : s.ctxDone = false := by simp [ctxDone, hc.parent, hw.cancelled_eq, hc.groupErr]
  cases h
  case cancelParent => cases ha
  case listFail => cases ha
  case deleteFail => cases ha
  case listCancel hd => simp [live] at hd
  case filterCancel hd => simp [live] at hd
  case listRecord hl =>
    have := hc.list
    simp only [hl, Goroutine.error] at this
    exact ⟨hc.1, by simp [record, hc.2, this], this, hc.4, hc.5⟩
  case filterRecord hf =>
    have := hc.filter
    simp only [hf, Goroutine.error] at this
    exact ⟨hc.1, by simp [record, hc.2, this], hc.3, this, hc.5⟩
  case deleteRecord hd =>
    have := hc.delete
    simp only [hd, Goroutine.error] at this
    exact ⟨hc.1, by simp [record, hc.2, this], hc.3, hc.4, this⟩
  case listSend => exact ⟨hc.1, hc.2, rfl, hc.4, hc.5⟩
  case listEnd => exact ⟨hc.1, hc.2, rfl, hc.4, hc.5⟩
  case filterReceive => exact ⟨hc.1, hc.2, hc.3, rfl, hc.5⟩
  case filterExit => exact ⟨hc.1, hc.2, hc.3, rfl, hc.5⟩
  case filterSend => exact ⟨hc.1, hc.2, hc.3, rfl, hc.5⟩
  case deleteReceive => exact ⟨hc.1, hc.2, hc.3, hc.4, rfl⟩
  case deleteExit => exact ⟨hc.1, hc.2, hc.3, hc.4, rfl⟩
  case deleteOk => exact ⟨hc.1, hc.2, hc.3, hc.4, rfl⟩

theorem run_clean {listing : List MinObject} {acts : List (Action ε)} {s : Pipeline ε}
    (hb : ∀ a ∈ acts, a.benign = true) (h : garbageCollectOnce now listing acts = some s) :
    Clean s :=
  (run_invariant (fun s => Wf s ∧ Clean s) (fun a => a.benign = true)
    (fun ha hi hs => ⟨hi.1.step hs, hi.2.step hi.1 ha hs⟩) hb ⟨wf_init listing, clean_init listing⟩ h).2

theorem run_init_length_le {listing : List MinObject} {acts : List (Action ε)} {s : Pipeline ε}
    (h : garbageCollectOnce now listing acts = some s) : acts.length ≤ 5 * listing.length + 7 := by
  have := run_length_le h
  rw [measure_init] at this
  omega

end Gcsfuse.Gcsx
