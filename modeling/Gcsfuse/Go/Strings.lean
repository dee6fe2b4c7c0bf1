import Mathlib

namespace Gcsfuse.Go

def split (sep : UInt8) : List UInt8 → List (List UInt8)
  | [] => [[]]
  | b :: bs =>
    if b = sep then [] :: split sep bs
    else
      match split sep bs with
      | l :: ls => (b :: l) :: ls
      | [] => [[b]]

def spaceWidth : List UInt8 → Nat
  | 0x09 :: _ | 0x0A :: _ | 0x0B :: _ | 0x0C :: _ | 0x0D :: _ | 0x20 :: _ => 1
  | 0xC2 :: 0x85 :: _ | 0xC2 :: 0xA0 :: _ => 2
  | 0xE1 :: 0x9A :: 0x80 :: _ | 0xE2 :: 0x81 :: 0x9F :: _ | 0xE3 :: 0x80 :: 0x80 :: _ => 3
  | 0xE2 :: 0x80 :: b :: _ =>
    if (0x80 ≤ b ∧ b ≤ 0x8A) ∨ b = 0xA8 ∨ b = 0xA9 ∨ b = 0xAF then 3 else 0
  | _ => 0

def fieldsFrom : Nat → List UInt8 → List UInt8 → List (List UInt8)
  | _, cur, [] => if cur = [] then [] else [cur.reverse]
  | skip + 1, cur, _ :: bs => fieldsFrom skip cur bs
  | 0, cur, b :: bs =>
    match spaceWidth (b :: bs) with
    | 0 => fieldsFrom 0 (b :: cur) bs
    | w + 1 => (if cur = [] then [] else [cur.reverse]) ++ fieldsFrom w [] bs

def fields (s : List UInt8) : List (List UInt8) := fieldsFrom 0 [] s

theorem split_ne_nil (sep : UInt8) (s : List UInt8) : split sep s ≠ [] := by
  cases s with
  | nil => simp [split]
  | cons b bs =>
    unfold split
    split_ifs
    · simp
    · split <;> simp

@[simp]
theorem split_cons_self (sep : UInt8) (bs : List UInt8) : split sep (sep :: bs) = [] :: split sep bs := by
  simp [split]

theorem split_cons_of_ne {sep b : UInt8} (h : b ≠ sep) (bs : List UInt8) :
    ∃ l ls, split sep bs = l :: ls ∧ split sep (b :: bs) = (b :: l) :: ls := by
  obtain ⟨l, ls, hl⟩ := List.exists_cons_of_ne_nil (split_ne_nil sep bs)
  exact ⟨l, ls, hl, by simp only [split, if_neg h, hl]⟩

theorem length_split (sep : UInt8) (s : List UInt8) : (split sep s).length = s.count sep + 1 := by
  induction s with
  | nil => rfl
  | cons b bs ih =>
    by_cases h : b = sep
    · subst h; simp [ih]
    · obtain ⟨l, ls, hl, hc⟩ := split_cons_of_ne h bs
      rw [hl] at ih
      simp only [hc, List.length_cons, List.count_cons_of_ne (Ne.symm h)]
      exact ih

end Gcsfuse.Go
