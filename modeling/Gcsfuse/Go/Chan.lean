import Mathlib

namespace Gcsfuse.Go

structure Chan (α : Type) (capacity : Nat) where
  buf : List α
  closed : Bool
  sent : List α
  received : List α
  fifo : sent = received ++ buf
  bounded : buf.length ≤ capacity

namespace Chan

variable {α : Type} {capacity : Nat}

def make : Chan α capacity := ⟨[], false, [], [], rfl, Nat.zero_le _⟩

def send (c : Chan α capacity) (x : α) (h : c.buf.length < capacity) : Chan α capacity :=
  ⟨c.buf ++ [x], c.closed, c.sent ++ [x], c.received, by rw [c.fifo, List.append_assoc],
    by rw [List.length_append, List.length_singleton]; omega⟩

def pop (c : Chan α capacity) (x : α) (rest : List α) (h : c.buf = x :: rest) : Chan α capacity :=
  ⟨rest, c.closed, c.sent, c.received ++ [x], by rw [c.fifo, h]; simp,
    by have := c.bounded; rw [h, List.length_cons] at this; omega⟩

def close (c : Chan α capacity) : Chan α capacity := { c with closed := true }

def receive (c : Chan α capacity) : Option (α × Chan α capacity) :=
  match h : c.buf with
  | x :: rest => some (x, c.pop x rest h)
  | [] => none

@[simp] theorem make_buf : (make : Chan α capacity).buf = [] := rfl
@[simp] theorem make_closed : (make : Chan α capacity).closed = false := rfl
@[simp] theorem make_sent : (make : Chan α capacity).sent = [] := rfl
@[simp] theorem make_received : (make : Chan α capacity).received = [] := rfl

section
variable (c : Chan α capacity) (x : α)

@[simp] theorem send_buf (h) : (c.send x h).buf = c.buf ++ [x] := rfl
@[simp] theorem send_closed (h) : (c.send x h).closed = c.closed := rfl
@[simp] theorem send_sent (h) : (c.send x h).sent = c.sent ++ [x] := rfl
@[simp] theorem send_received (h) : (c.send x h).received = c.received := rfl
@[simp] theorem pop_buf (rest h) : (c.pop x rest h).buf = rest := rfl
@[simp] theorem pop_closed (rest h) : (c.pop x rest h).closed = c.closed := rfl
@[simp] theorem pop_sent (rest h) : (c.pop x rest h).sent = c.sent := rfl
@[simp] theorem pop_received (rest h) : (c.pop x rest h).received = c.received ++ [x] := rfl
@[simp] theorem close_buf : c.close.buf = c.buf := rfl
@[simp] theorem close_closed : c.close.closed = true := rfl
@[simp] theorem close_sent : c.close.sent = c.sent := rfl
@[simp] theorem close_received : c.close.received = c.received := rfl

end

theorem receive_eq_some {c c' : Chan α capacity} {x : α} (h : c.receive = some (x, c')) :
    ∃ rest h', c' = c.pop x rest h' := by
  unfold receive at h
  split at h
  · cases h; exact ⟨_, _, rfl⟩
  · cases h

theorem receive_eq_none {c : Chan α capacity} : c.receive = none ↔ c.buf = [] := by
  unfold receive
  split <;> simp_all

theorem receive_of_buf {c : Chan α capacity} {x : α} {rest : List α} (h : c.buf = x :: rest) :
    c.receive = some (x, c.pop x rest h) := by
  unfold receive
  split
  · rename_i h'; rw [h] at h'; cases h'; rfl
  · rename_i h'; rw [h] at h'; cases h'

theorem receive_send_of_nil {c : Chan α capacity} (x : α) (h : c.buf.length < capacity)
    (hb : c.buf = []) : (c.send x h).receive = some (x, (c.send x h).pop x [] (by simp [hb])) :=
  receive_of_buf _

theorem received_prefix_sent (c : Chan α capacity) : c.received <+: c.sent :=
  ⟨c.buf, c.fifo.symm⟩

theorem received_eq_sent (c : Chan α capacity) (h : c.buf = []) : c.received = c.sent := by
  rw [c.fifo, h, List.append_nil]

end Chan

end Gcsfuse.Go
