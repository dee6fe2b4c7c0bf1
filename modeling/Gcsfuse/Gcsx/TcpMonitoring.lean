import Gcsfuse.Go.Strings
import Gcsfuse.Go.Io

namespace Gcsfuse.Gcsx

open Gcsfuse.Go

structure TCPStats where
  active : Nat
  idle : Nat
  deriving DecidableEq, Repr

def stateEstablished : List UInt8 := [0x30, 0x31]

def countLine (stats : TCPStats) (line : List UInt8) : Option TCPStats :=
  if (fields line).length < 4 then some stats
  else
    match (fields line)[3]? with
    | none => none
    | some state =>
      if state = stateEstablished then some { stats with active := stats.active + 1 }
      else some { stats with idle := stats.idle + 1 }

def parse (data : List UInt8) : Option TCPStats :=
  match split 0x0A data with
  | [] => none
  | _ :: lines => lines.foldlM countLine ⟨0, 0⟩

inductive Wakeup where
  | done
  | tick (file : Except Error (List UInt8))

def Wakeup.isTick : Wakeup → Bool
  | .done => false
  | .tick _ => true

inductive LogEntry where
  | running
  | readError (err : Error)
  | connections (stats : TCPStats)

def tickLoop : List Wakeup → List LogEntry × Outcome Unit
  | [] => ([], .ok ())
  | .done :: _ => ([], .ok ())
  | .tick (.error err) :: ws => ((tickLoop ws).1.cons (.readError err), (tickLoop ws).2)
  | .tick (.ok data) :: ws =>
    match parse data with
    | none => ([], .panic)
    | some stats => ((tickLoop ws).1.cons (.connections stats), (tickLoop ws).2)

def startTCPMonitoring (ws : List Wakeup) : List LogEntry × Outcome Unit :=
  ((tickLoop ws).1.cons .running, (tickLoop ws).2)

def IsActive (line : List UInt8) : Prop :=
  4 ≤ (fields line).length ∧ (fields line)[3]? = some stateEstablished

def IsIdle (line : List UInt8) : Prop :=
  4 ≤ (fields line).length ∧ (fields line)[3]? ≠ some stateEstablished

instance (line : List UInt8) : Decidable (IsActive line) := inferInstanceAs (Decidable (_ ∧ _))

instance (line : List UInt8) : Decidable (IsIdle line) := inferInstanceAs (Decidable (_ ∧ _))

theorem countLine_eq (stats : TCPStats) (line : List UInt8) :
    countLine stats line = some ⟨stats.active + if IsActive line then 1 else 0,
      stats.idle + if IsIdle line then 1 else 0⟩ := by
  unfold countLine IsActive IsIdle
  by_cases h : (fields line).length < 4
  · simp [h, show ¬ 4 ≤ (fields line).length by omega]
  · obtain ⟨state, hs⟩ : ∃ s, (fields line)[3]? = some s := ⟨_, List.getElem?_eq_getElem (by omega)⟩
    have h4 : 4 ≤ (fields line).length := by omega
    by_cases he : state = stateEstablished <;> simp [h, h4, hs, he]

theorem foldlM_countLine (lines : List (List UInt8)) : ∀ stats : TCPStats,
    lines.foldlM countLine stats = some ⟨stats.active + lines.countP (fun l => IsActive l),
      stats.idle + lines.countP (fun l => IsIdle l)⟩ := by
  induction lines with
  | nil => intro stats; rfl
  | cons l ls ih =>
    intro stats
    rw [List.foldlM_cons, countLine_eq]
    show List.foldlM countLine _ ls = _
    rw [ih, List.countP_cons, List.countP_cons]
    by_cases ha : IsActive l <;> by_cases hi : IsIdle l <;> simp [ha, hi] <;> omega

theorem countP_active_add_idle_le (lines : List (List UInt8)) :
    lines.countP (fun l => IsActive l) + lines.countP (fun l => IsIdle l) ≤ lines.length := by
  have h := List.length_eq_countP_add_countP (fun l => decide (IsActive l)) lines
  simp only [decide_eq_true_eq] at h
  have : lines.countP (fun l => IsIdle l) ≤ lines.countP (fun l => ¬ IsActive l) :=
    List.countP_mono_left fun l _ h => by simp_all [IsActive, IsIdle]
  omega

theorem parse_eq (data : List UInt8) :
    parse data = some ⟨(split 0x0A data).tail.countP (fun l => IsActive l),
      (split 0x0A data).tail.countP (fun l => IsIdle l)⟩ := by
  unfold parse
  split
  · exact absurd ‹_› (split_ne_nil _ _)
  · rename_i lines hl
    rw [foldlM_countLine, hl]
    simp

theorem parse_counts_lines (data : List UInt8) :
    ∃ stats, parse data = some stats ∧
      stats.active = (split 0x0A data).tail.countP (fun l => IsActive l) ∧
      stats.idle = (split 0x0A data).tail.countP (fun l => IsIdle l) ∧
      stats.active + stats.idle ≤ data.length := by
  refine ⟨_, parse_eq data, rfl, rfl, ?_⟩
  calc _ ≤ (split 0x0A data).tail.length := countP_active_add_idle_le _
    _ = data.count 0x0A := by simp [length_split]
    _ ≤ data.length := List.count_le_length 0x0A data

example :
    parse (("  sl  local_address rem_address   st\n   0: 0100007F:1F90 00000000:0000 0A\n" ++
      "   1: 0100007F:1F90 0100007F:C350 01\n\n x y\n").toList.map Char.toUInt8) = some ⟨1, 1⟩ := by
  decide

theorem countP_classify (lines : List (List UInt8)) :
    lines.countP (fun l => IsActive l) + lines.countP (fun l => IsIdle l) +
      lines.countP (fun l => (fields l).length < 4) = lines.length := by
  induction lines with
  | nil => rfl
  | cons l ls ih =>
    simp only [List.countP_cons, List.length_cons]
    by_cases h4 : (fields l).length < 4
    · have ha : ¬ IsActive l := fun h => by have := h.1; omega
      have hi : ¬ IsIdle l := fun h => by have := h.1; omega
      simp [ha, hi, h4]; omega
    · by_cases ha : IsActive l
      · have hi : ¬ IsIdle l := fun h => h.2 ha.2
        simp [ha, hi, h4]; omega
      · have hi : IsIdle l := ⟨by omega, fun h => ha ⟨by omega, h⟩⟩
        simp [ha, hi, h4]; omega

theorem parse_accounts_every_line (data : List UInt8) :
    ∃ stats, parse data = some stats ∧
      stats.active + stats.idle + (split 0x0A data).tail.countP (fun l => (fields l).length < 4) =
        data.count 0x0A :=
  ⟨_, parse_eq data, by simpa [List.length_tail, length_split] using countP_classify (split 0x0A data).tail⟩

def Logs : Wakeup → LogEntry → Prop
  | .done, _ => False
  | .tick (.error err), e => e = .readError err
  | .tick (.ok data), e => e = .connections ⟨(split 0x0A data).tail.countP (fun l => IsActive l),
      (split 0x0A data).tail.countP (fun l => IsIdle l)⟩

theorem tickLoop_logs (ws : List Wakeup) :
    (tickLoop ws).2 = .ok () ∧ List.Forall₂ Logs (ws.takeWhile Wakeup.isTick) (tickLoop ws).1 := by
  induction ws with
  | nil => exact ⟨rfl, .nil⟩
  | cons w ws ih =>
    match w with
    | .done => exact ⟨rfl, .nil⟩
    | .tick (.error err) => exact ⟨ih.1, .cons rfl ih.2⟩
    | .tick (.ok data) =>
      simp only [tickLoop, parse_eq]
      exact ⟨ih.1, .cons rfl ih.2⟩

theorem startTCPMonitoring_logs_every_tick (ws : List Wakeup) :
    ∃ log, startTCPMonitoring ws = (log.cons .running, .ok ()) ∧
      List.Forall₂ Logs (ws.takeWhile Wakeup.isTick) log :=
  ⟨_, Prod.ext rfl (tickLoop_logs ws).1, (tickLoop_logs ws).2⟩

end Gcsfuse.Gcsx
