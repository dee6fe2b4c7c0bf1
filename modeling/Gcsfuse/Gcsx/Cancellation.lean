import Gcsfuse.Gcsx.Progress

namespace Gcsfuse.Gcsx

open Gcsfuse.Gcs Gcsfuse.Go Pipeline

variable {ε : Type} {now : Int}

def GcError.isCancellation : GcError ε → Bool
  | .canceled => true
  | .listPrefix .canceled => true
  | _ => false

theorem GcError.isCancellation_iff {err : GcError ε} :
    err.isCancellation = true ↔ err = .listPrefix .canceled ∨ err = .canceled := by
  constructor
  · intro h
    unfold GcError.isCancellation at h
    split at h <;> simp_all
  · rintro (rfl | rfl) <;> rfl

def Pipeline.Returned (s : Pipeline ε) (err : GcError ε) : Prop :=
  s.list.error = some err ∨ s.filter.error = some err ∨ s.delete.error = some err

def Explained (s : Pipeline ε) (err : GcError ε) : Prop :=
  (∃ live, (err, live) ∈ s.failures) ∧
    (err.isBucketFailure = true ∨ err.isCancellation = true ∧ s.parentCancelled = true)

theorem Explained.mono {s t : Pipeline ε} {err : GcError ε} (h : Explained s err)
    (hf : s.failures ⊆ t.failures) (hp : s.parentCancelled = true → t.parentCancelled = true) :
    Explained t err :=
  ⟨h.1.imp fun _ hm => hf hm, h.2.imp id (And.imp id hp)⟩

structure CancelInv (s : Pipeline ε) : Prop where
  recorded : ∀ err, s.groupErr = some err → Explained s err
  pending : s.groupErr = none → ∀ err, s.Returned err → Explained s err

theorem cancelInv_init (listing : List MinObject) : CancelInv (Pipeline.init listing : Pipeline ε) :=
  ⟨fun _ h => (by cases h), fun _ _ h => by simp [Pipeline.Returned, init, Goroutine.error] at h⟩

section
variable {s t : Pipeline ε} (hi : CancelInv s)
include hi

theorem CancelInv.frame (hf : s.failures ⊆ t.failures)
    (hp : s.parentCancelled = true → t.parentCancelled = true) (hg : t.groupErr = s.groupErr)
    (hr : ∀ err, t.Returned err → s.Returned err) : CancelInv t :=
  ⟨fun err h => (hi.recorded err (hg ▸ h)).mono hf hp,
    fun h err he => (hi.pending (hg ▸ h) err (hr err he)).mono hf hp⟩

theorem CancelInv.fail (e : GcError ε) (hf : t.failures = s.failures ++ [(e, !s.ctxDone)])
    (hp : t.parentCancelled = s.parentCancelled) (hg : t.groupErr = s.groupErr)
    (hr : ∀ err, t.Returned err → err = e ∨ s.Returned err)
    (hb : s.groupErr = none →
      e.isBucketFailure = true ∨ e.isCancellation = true ∧ s.parentCancelled = true) :
    CancelInv t := by
  have hsub : s.failures ⊆ t.failures := hf ▸ List.subset_append_left _ _
  refine ⟨fun err h => (hi.recorded err (hg ▸ h)).mono hsub hp.trans, fun h err he => ?_⟩
  rcases hr err he with rfl | he
  · exact ⟨⟨!s.ctxDone, by simp [hf]⟩, by rw [hp]; exact hb (hg ▸ h)⟩
  · exact (hi.pending (hg ▸ h) err he).mono hsub hp.trans

theorem CancelInv.record {err : Option (GcError ε)} (hr : ∀ e, err = some e → s.Returned e)
    (hf : t.failures = s.failures) (hp : t.parentCancelled = s.parentCancelled)
    (hg : t.groupErr = s.groupErr.or err) (he : ∀ e, t.Returned e ↔ s.Returned e) : CancelInv t := by
  have mono : ∀ e, Explained s e → Explained t e := fun e h => h.mono (hf ▸ List.Subset.refl _) hp.trans
  refine ⟨fun e h => ?_, fun h e hre => mono e (hi.pending (Option.or_eq_none.mp (hg ▸ h)).1 e ((he e).mp hre))⟩
  rw [hg] at h
  cases hs : s.groupErr with
  | some g =>
    rw [hs] at h
    obtain rfl : g = e := Option.some.inj h
    exact mono _ (hi.recorded _ hs)
  | none =>
    rw [hs] at h
    exact mono e (hi.pending hs e (hr e h))

end

theorem CancelInv.step {s t : Pipeline ε} {a : Action ε} (hw : Wf s) (hi : CancelInv s)
    (h : Step now s a t) : CancelInv t := by
  have hlive : s.groupErr = none → s.ctxDone = true → s.parentCancelled = true := fun hg hd => by
    simpa [ctxDone, hw.cancelled_eq, hg] using hd
  cases h with
  | cancelParent => exact hi.frame (List.Subset.refl _) (fun _ => rfl) rfl fun _ => id
  | listSend hg _ | listEnd hg | filterReceive hg _ | filterExit hg _ _ | filterSend hg _
  | deleteReceive hg _ | deleteExit hg _ _ | deleteOk hg =>
    exact hi.frame (List.Subset.refl _) id rfl fun _ he => by
      simpa [Pipeline.Returned, Goroutine.error, listReturn, filterReturn, deleteReturn, hg] using he
  | listCancel hg hd | filterCancel hg hd =>
    exact hi.fail _ rfl rfl rfl (fun _ he => by
      simp [Pipeline.Returned, Goroutine.error, listReturn, filterReturn, hg, eq_comm] at he ⊢; tauto)
      fun hn => .inr ⟨rfl, hlive hn hd⟩
  | listFail e hg | deleteFail e hg =>
    exact hi.fail _ rfl rfl rfl (fun _ he => by
      simp [Pipeline.Returned, Goroutine.error, listReturn, deleteReturn, hg, eq_comm] at he ⊢; tauto)
      fun _ => .inl rfl
  | listRecord hg | filterRecord hg | deleteRecord hg =>
    exact hi.record (fun _ he => by simp [Pipeline.Returned, Goroutine.error, hg, he]) rfl rfl rfl
      fun _ => by simp [Pipeline.Returned, Goroutine.error, Pipeline.record, hg]

section Reachable

variable {listing : List MinObject} {acts : List (Action ε)} {s : Pipeline ε}

theorem run_cancelInv (h : garbageCollectOnce now listing acts = some s) : CancelInv s :=
  (run_invariant (fun s => Wf s ∧ CancelInv s) (fun _ => True)
    (fun _ hi hs => ⟨hi.1.step hs, hi.2.step hi.1 hs⟩) (fun _ _ => trivial)
    ⟨wf_init listing, cancelInv_init listing⟩ h).2

theorem groupErr_canceled_only_by_parent (h : garbageCollectOnce now listing acts = some s)
    {err : GcError ε} (he : s.groupErr = some err) :
    (∃ live, (err, live) ∈ s.failures) ∧
      ((∃ e, err = .listPrefix (.bucket e)) ∨ (∃ n e, err = .deleteObject n (.bucket e)) ∨
        (err = .listPrefix .canceled ∨ err = .canceled) ∧ s.parentCancelled = true) := by
  obtain ⟨hl, hb | ⟨hc, hp⟩⟩ := (run_cancelInv h).recorded err he
  · exact ⟨hl, (GcError.isBucketFailure_iff.mp hb).elim .inl (.inr ∘ .inl)⟩
  · exact ⟨hl, .inr (.inr ⟨GcError.isCancellation_iff.mp hc, hp⟩)⟩

theorem groupErr_canceled_only_by_parent_cancelled :
    ∃ s : Pipeline Nat,
      garbageCollectOnce stalenessThreshold [⟨"a", 0, 0, 0, ""⟩] [.cancelParent, .listCancel, .listRecord] =
        some s ∧ s.groupErr = some (.listPrefix .canceled) ∧
      (∃ live, ((.listPrefix .canceled : GcError Nat), live) ∈ s.failures) ∧
        ((∃ e, (.listPrefix .canceled : GcError Nat) = .listPrefix (.bucket e)) ∨
          (∃ n e, (.listPrefix .canceled : GcError Nat) = .deleteObject n (.bucket e)) ∨
          ((.listPrefix .canceled : GcError Nat) = .listPrefix .canceled ∨
            (.listPrefix .canceled : GcError Nat) = .canceled) ∧ s.parentCancelled = true) := by
  have h : garbageCollectOnce stalenessThreshold [⟨"a", 0, 0, 0, ""⟩]
      [.cancelParent, .listCancel, .listRecord] = some (_ : Pipeline Nat) := rfl
  exact ⟨_, h, rfl, groupErr_canceled_only_by_parent h rfl⟩

end Reachable

end Gcsfuse.Gcsx
