import Mathlib

namespace Gcsfuse.Go

inductive Outcome (α : Type) where
  | ok (a : α)
  | panic
  deriving DecidableEq, Repr

def Outcome.isPanic {α : Type} : Outcome α → Bool
  | .ok _ => false
  | .panic => true

inductive Error where
  | eof
  | canceled
  | shortWrite
  | invalidWrite
  | notFound
  | other (id : Nat)
  | wrap (msg : String) (err : Error)
  | fileClobbered (err : Error) (objectName : String)
  deriving DecidableEq, Repr

namespace Error

def is : Error → Error → Bool
  | .wrap msg err, target => Error.wrap msg err == target || err.is target
  | .fileClobbered err name, target => Error.fileClobbered err name == target || err.is target
  | err, target => err == target

def asNotFound : Error → Bool
  | .notFound => true
  | .wrap _ err => err.asNotFound
  | .fileClobbered err _ => err.asNotFound
  | _ => false

end Error

abbrev ReadReply := Outcome (Nat × Option Error)

abbrev WriteReply := Outcome (Int × Option Error)

def bufferSize (n : Int) : Nat :=
  if (32 * 1024 : Int) > n then (if n < 1 then 1 else n.toNat) else 32 * 1024

def readLen (size : Nat) (n : Int) : Nat :=
  if (size : Int) > n then n.toNat else size

def nextWrite : List WriteReply → Nat → WriteReply × List WriteReply
  | [], nr => (.ok (nr, none), [])
  | w :: ws, _ => (w, ws)

def checkWrite (nr : Nat) (nw : Int) (ew : Option Error) : Int × Option Error :=
  if nw < 0 ∨ nr < nw then (0, ew.or (some .invalidWrite)) else (nw, ew)

def readErr (er : Error) : Option Error :=
  if er = .eof then none else some er

def copyChunk (ws : List WriteReply) (nr : Nat) (er : Option Error) :
    List Nat × Outcome (Int × List WriteReply × Option (Option Error)) :=
  if nr = 0 then ([], .ok (0, ws, er.map readErr))
  else
    match nextWrite ws nr with
    | (.panic, _) => ([nr], .panic)
    | (.ok (nw, ew), ws) =>
      match checkWrite nr nw ew with
      | (nw, some e) => ([nr], .ok (nw, ws, some (some e)))
      | (nw, none) =>
        if (nr : Int) ≠ nw then ([nr], .ok (nw, ws, some (some .shortWrite)))
        else ([nr], .ok (nw, ws, er.map readErr))

def copyBuffer (size : Nat) (ws : List WriteReply) (n written : Int) :
    List ReadReply → List Nat × Outcome (Int × Option Error)
  | [] => ([], .ok (written, none))
  | r :: reads =>
    if n ≤ 0 then ([], .ok (written, none)) else
    match r with
    | .panic => ([], .panic)
    | .ok (k, er) =>
      if size < k then ([], .panic) else
      match copyChunk ws k er with
      | (offered, .panic) => (offered, .panic)
      | (offered, .ok (nw, _, some err)) => (offered, .ok (written + nw, err))
      | (offered, .ok (nw, ws, none)) =>
        let rest := copyBuffer size ws (n - k) (written + nw) reads
        (offered ++ rest.1, rest.2)

def readsFit (size : Nat) : Int → List ReadReply → Bool
  | _, [] => true
  | _, .panic :: _ => true
  | n, .ok (k, _) :: reads => decide (n ≤ 0) || decide (k ≤ readLen size n) && readsFit size (n - k) reads

def copyN (reads : List ReadReply) (ws : List WriteReply) (n : Int) :
    List Nat × Outcome (Int × Option Error) :=
  let r := copyBuffer (bufferSize n) ws n 0 reads
  (r.1, match r.2 with
    | .panic => .panic
    | .ok (written, err) =>
      if written = n then .ok (n, none)
      else if written < n ∧ err = none then .ok (written, some .eof)
      else .ok (written, err))

theorem readLen_le (size : Nat) {n : Int} (hn : 0 < n) : (readLen size n : Int) ≤ n := by
  unfold readLen; split_ifs <;> omega

theorem readLen_le_size (size : Nat) (n : Int) : readLen size n ≤ size := by
  unfold readLen; split_ifs <;> omega

theorem readsFit_cons {size : Nat} {n : Int} {k : Nat} {er : Option Error} {reads : List ReadReply}
    (hn : 0 < n) (h : readsFit size n (.ok (k, er) :: reads) = true) :
    k ≤ readLen size n ∧ readsFit size (n - k) reads = true := by
  simpa [readsFit, not_le.mpr hn] using h

theorem checkWrite_bounds (nr : Nat) (nw : Int) (ew : Option Error) :
    0 ≤ (checkWrite nr nw ew).1 ∧ (checkWrite nr nw ew).1 ≤ nr := by
  unfold checkWrite
  split_ifs with h
  · exact ⟨le_rfl, Int.natCast_nonneg nr⟩
  · exact ⟨by omega, by omega⟩

theorem copyChunk_offered_sum (ws : List WriteReply) (nr : Nat) (er : Option Error) :
    (copyChunk ws nr er).1.sum = nr := by
  unfold copyChunk
  split_ifs with h
  · simp [h]
  · split
    · simp
    · split
      · simp
      · split_ifs <;> simp

theorem copyChunk_accepted {ws ws' : List WriteReply} {nr : Nat} {er : Option Error} {nw : Int}
    {exit : Option (Option Error)} (h : (copyChunk ws nr er).2 = .ok (nw, ws', exit)) :
    0 ≤ nw ∧ nw ≤ nr := by
  unfold copyChunk at h
  split_ifs at h
  · cases h; omega
  · split at h
    · cases h
    · rename_i nw₀ ew₀ _ _
      have hb := checkWrite_bounds nr nw₀ ew₀
      split at h <;> rename_i hc <;> rw [hc] at hb
      · cases h; exact hb
      · split_ifs at h <;> cases h <;> exact hb

def Accounted (n written : Int) : List Nat × Outcome (Int × Option Error) → Prop
  | (offered, r) => offered.sum ≤ n.toNat ∧
      ∀ w e, r = .ok (w, e) → written ≤ w ∧ w ≤ written + offered.sum

theorem copyBuffer_accounted (size : Nat) (reads : List ReadReply) :
    ∀ (ws : List WriteReply) (n written : Int), readsFit size n reads = true →
      Accounted n written (copyBuffer size ws n written reads) := by
  induction reads with
  | nil => intro ws n written _; simp [copyBuffer, Accounted]
  | cons r reads ih =>
    intro ws n written hfit
    unfold copyBuffer
    split_ifs with hn
    · simp [Accounted]
    · rcases r with ⟨k, er⟩ | _
      · obtain ⟨hk, hfit'⟩ := readsFit_cons (not_le.mp hn) hfit
        have hlen := readLen_le size (not_le.mp hn)
        have hsz := readLen_le_size size n
        have hs : ∀ {offered out}, copyChunk ws k er = (offered, out) → offered.sum = k := fun hc => by
          simpa [hc] using copyChunk_offered_sum ws k er
        dsimp only
        rw [if_neg (by omega)]
        split
        next hc => exact ⟨by have := hs hc; omega, fun _ _ he => by cases he⟩
        next hc =>
          have ha := copyChunk_accepted (congrArg Prod.snd hc)
          have := hs hc
          exact ⟨by omega, fun w e he => by cases he; omega⟩
        next offered nw ws' hc =>
          have ha := copyChunk_accepted (congrArg Prod.snd hc)
          have := hs hc
          obtain ⟨ih1, ih2⟩ := ih ws' (n - k) (written + nw) hfit'
          refine ⟨by rw [List.sum_append]; omega, fun w e he => ?_⟩
          have := ih2 w e he
          rw [List.sum_append]
          omega
      · simp [Accounted]

theorem checkWrite_self (nr : Nat) (ew : Option Error) : checkWrite nr nr ew = ((nr : Int), ew) := by
  rw [checkWrite, if_neg (by omega)]

theorem copyChunk_accepts (nr : Nat) :
    copyChunk [] nr none = (if nr = 0 then [] else [nr], .ok (nr, [], none)) := by
  by_cases h : nr = 0
  · subst h; rfl
  · simp [copyChunk, nextWrite, checkWrite_self, h]

theorem copyBuffer_delivers (size : Nat) :
    ∀ (ks : List Nat) (n written : Int), 0 ≤ n → n ≤ ks.sum →
      readsFit size n (ks.map fun k => .ok (k, none)) = true →
      (copyBuffer size [] n written (ks.map fun k => .ok (k, none))).2 = .ok (written + n, none)
  | [], n, written, h0, hn, _ => by
    obtain rfl : n = 0 := by simp at hn; omega
    simp [copyBuffer]
  | k :: ks, n, written, h0, hn, hfit => by
    rw [List.map_cons] at hfit ⊢
    unfold copyBuffer
    split_ifs with hn0
    · obtain rfl : n = 0 := by omega
      simp
    · obtain ⟨hk, hfit'⟩ := readsFit_cons (not_le.mp hn0) hfit
      have hlen := readLen_le size (not_le.mp hn0)
      have hsz := readLen_le_size size n
      dsimp only
      rw [if_neg (by omega), copyChunk_accepts]
      dsimp only
      rw [copyBuffer_delivers size ks _ _ (by omega) (by simp only [List.sum_cons, Nat.cast_add] at hn; omega) hfit']
      congr 2
      omega

theorem copyN_delivers {ks : List Nat} {n : Int} (h0 : 0 ≤ n) (hn : n ≤ ks.sum)
    (hfit : readsFit (bufferSize n) n (ks.map fun k => .ok (k, none)) = true) :
    ((copyN (ks.map fun k => .ok (k, none)) [] n).1.sum : Int) = n ∧
      (copyN (ks.map fun k => .ok (k, none)) [] n).2 = .ok (n, none) := by
  have hd := copyBuffer_delivers (bufferSize n) ks n 0 h0 hn hfit
  obtain ⟨h1, h2⟩ := copyBuffer_accounted (bufferSize n) _ [] n 0 hfit
  have := h2 _ _ hd
  unfold copyN
  dsimp only
  rw [hd]
  exact ⟨by omega, by simp⟩

theorem nextWrite_suffix (ws : List WriteReply) (nr : Nat) : (nextWrite ws nr).2 <:+ ws := by
  cases ws with
  | nil => exact List.suffix_refl _
  | cons w ws => exact List.suffix_cons w ws

theorem nextWrite_mem {ws ws' : List WriteReply} {nr : Nat} {nw : Int} {ew : Option Error}
    (h : nextWrite ws nr = (.ok (nw, ew), ws')) : ew = none ∨ .ok (nw, ew) ∈ ws := by
  cases ws with
  | nil => cases h; exact .inl rfl
  | cons w ws => cases h; exact .inr (List.mem_cons_self _ _)

theorem copyChunk_suffix {ws ws' : List WriteReply} {nr : Nat} {er : Option Error} {nw : Int}
    {exit : Option (Option Error)} (h : (copyChunk ws nr er).2 = .ok (nw, ws', exit)) : ws' <:+ ws := by
  unfold copyChunk at h
  split_ifs at h
  · cases h; exact List.suffix_refl _
  · have hs := nextWrite_suffix ws nr
    split at h
    · cases h
    · rename_i hn
      rw [hn] at hs
      split at h
      · cases h; exact hs
      · split_ifs at h <;> cases h <;> exact hs

theorem checkWrite_err {nr : Nat} {nw nw' : Int} {ew : Option Error} {e : Error}
    (h : checkWrite nr nw ew = (nw', some e)) : ew = some e ∨ ew = none ∧ e = .invalidWrite := by
  unfold checkWrite at h
  split_ifs at h <;> cases ew <;> simp_all

theorem map_readErr_eq_some {er : Option Error} {e : Error} (h : er.map readErr = some (some e)) :
    er = some e ∧ e ≠ .eof := by
  obtain ⟨er', rfl, hr⟩ := Option.map_eq_some'.mp h
  unfold readErr at hr
  split_ifs at hr with he
  cases hr
  exact ⟨rfl, he⟩

def CopyCause (reads : List ReadReply) (ws : List WriteReply) (e : Error) : Prop :=
  e = .shortWrite ∨ e = .invalidWrite ∨ (e ≠ .eof ∧ ∃ k, .ok (k, some e) ∈ reads) ∨
    ∃ nw, .ok (nw, some e) ∈ ws

theorem CopyCause.mono {reads reads' : List ReadReply} {ws ws' : List WriteReply} {e : Error}
    (h : CopyCause reads ws e) (hr : reads ⊆ reads') (hw : ws ⊆ ws') : CopyCause reads' ws' e :=
  h.imp id (Or.imp id (Or.imp (And.imp id (Exists.imp fun _ hk => hr hk)) (Exists.imp fun _ hm => hw hm)))

theorem copyChunk_cause {ws ws' : List WriteReply} {nr : Nat} {er : Option Error} {nw : Int} {e : Error}
    (h : (copyChunk ws nr er).2 = .ok (nw, ws', some (some e))) (k : Nat) :
    CopyCause [.ok (k, er)] ws e := by
  have hread : er.map readErr = some (some e) → CopyCause [.ok (k, er)] ws e := fun h => by
    obtain ⟨rfl, he⟩ := map_readErr_eq_some h
    exact .inr (.inr (.inl ⟨he, k, List.mem_singleton_self _⟩))
  unfold copyChunk at h
  split_ifs at h
  · simp only [Outcome.ok.injEq, Prod.mk.injEq] at h
    exact hread h.2.2
  · split at h
    · cases h
    · rename_i nw₀ ew₀ _ hn
      split at h
      · rename_i e₁ hcw
        simp only [Outcome.ok.injEq, Prod.mk.injEq, Option.some.injEq] at h
        obtain ⟨-, -, rfl⟩ := h
        rcases checkWrite_err hcw with rfl | ⟨rfl, rfl⟩
        · rcases nextWrite_mem hn with h | hm
          · cases h
          · exact .inr (.inr (.inr ⟨nw₀, hm⟩))
        · exact .inr (.inl rfl)
      · split_ifs at h <;> simp only [Outcome.ok.injEq, Prod.mk.injEq, Option.some.injEq] at h
        · exact .inl h.2.2.symm
        · exact hread h.2.2

theorem copyBuffer_cause (size : Nat) (reads : List ReadReply) :
    ∀ (ws : List WriteReply) (n written : Int) {w : Int} {e : Error},
      (copyBuffer size ws n written reads).2 = .ok (w, some e) → CopyCause reads ws e := by
  induction reads with
  | nil => intro ws n written w e h; cases h
  | cons r reads ih =>
    intro ws n written w e h
    unfold copyBuffer at h
    split_ifs at h
    · cases h
    · rcases r with ⟨k, er⟩ | _
      · dsimp only at h
        split_ifs at h
        split at h
        next => cases h
        next nw _ err hc =>
          simp only [Outcome.ok.injEq, Prod.mk.injEq] at h
          obtain ⟨-, rfl⟩ := h
          exact (copyChunk_cause (congrArg Prod.snd hc) k).mono (by simp) (List.Subset.refl _)
        next nw ws' hc =>
          exact (ih ws' _ _ h).mono (List.subset_cons_self _ _)
            (copyChunk_suffix (congrArg Prod.snd hc)).subset
      · cases h

theorem copyN_cause {reads : List ReadReply} {ws : List WriteReply} {n w : Int} {e : Error}
    (h : (copyN reads ws n).2 = .ok (w, some e)) : e = .eof ∨ CopyCause reads ws e := by
  unfold copyN at h
  dsimp only at h
  split at h
  · cases h
  · rename_i w₀ e₀ hc
    split_ifs at h with h1 h2
    · cases h
    · cases h; exact .inl rfl
    · cases h; exact .inr (copyBuffer_cause _ reads ws n 0 hc)

end Gcsfuse.Go
