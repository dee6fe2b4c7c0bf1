import Gcsfuse.Storage.Gcs
import Gcsfuse.Go.Chan

namespace Gcsfuse.Gcsx

open Gcsfuse.Gcs Gcsfuse.Go

def stalenessThreshold : Int := 30 * minute

def isStale (now : Int) (o : MinObject) : Bool :=
  !decide (sub now o.updated < stalenessThreshold)

inductive GcError (ε : Type) where
  | canceled
  | bucket (e : ε)
  | listPrefix (err : GcError ε)
  | deleteObject (name : String) (err : GcError ε)
  deriving DecidableEq, Repr

inductive Goroutine (σ ε : Type) where
  | running (pc : σ)
  | exiting (err : Option (GcError ε))
  | exited (err : Option (GcError ε))
  deriving DecidableEq, Repr

inductive FilterPc where
  | receive
  | send (name : String)
  deriving DecidableEq, Repr

inductive DeletePc where
  | receive
  | delete (name : String)
  deriving DecidableEq, Repr

structure Pipeline (ε : Type) where
  parentCancelled : Bool
  cancelled : Bool
  groupErr : Option (GcError ε)
  list : Goroutine (List MinObject) ε
  minObjects : Chan MinObject 100
  filter : Goroutine FilterPc ε
  staleNames : Chan String 100
  delete : Goroutine DeletePc ε
  objectsDeleted : UInt64
  results : List Bool
  failures : List (GcError ε × Bool)

inductive Action (ε : Type) where
  | cancelParent
  | listSend
  | listEnd
  | listCancel
  | listFail (e : ε)
  | listRecord
  | filterReceive
  | filterSend
  | filterCancel
  | filterRecord
  | deleteReceive
  | deleteOk
  | deleteFail (e : ε)
  | deleteRecord
  deriving DecidableEq, Repr

variable {ε : Type}

namespace Goroutine

variable {σ : Type}

def isRunning : Goroutine σ ε → Bool
  | .running _ => true
  | .exiting _ => false
  | .exited _ => false

def isExited : Goroutine σ ε → Bool
  | .running _ => false
  | .exiting _ => false
  | .exited _ => true

def returned : Goroutine σ ε → Option (Option (GcError ε))
  | .running _ => none
  | .exiting err => some err
  | .exited err => some err

def failed : Goroutine σ ε → Bool
  | .running _ => false
  | .exiting _ => false
  | .exited err => err.isSome

attribute [simp] isRunning.eq_1 isRunning.eq_2 isRunning.eq_3 isExited.eq_1 isExited.eq_2
  isExited.eq_3 returned.eq_1 returned.eq_2 returned.eq_3 failed.eq_1 failed.eq_2 failed.eq_3

end Goroutine

namespace Pipeline

def init (listing : List MinObject) : Pipeline ε where
  parentCancelled := false
  cancelled := false
  groupErr := none
  list := .running listing
  minObjects := Chan.make
  filter := .running .receive
  staleNames := Chan.make
  delete := .running .receive
  objectsDeleted := 0
  results := []
  failures := []

variable (s : Pipeline ε)

def ctxDone : Bool := s.parentCancelled || s.cancelled

def logFailure (err : Option (GcError ε)) : List (GcError ε × Bool) :=
  match err with
  | some e => s.failures ++ [(e, !s.ctxDone)]
  | none => s.failures

def listReturn (err : Option (GcError ε)) : Pipeline ε :=
  { s with list := .exiting err, minObjects := s.minObjects.close, failures := s.logFailure err }

def filterReturn (err : Option (GcError ε)) : Pipeline ε :=
  { s with filter := .exiting err, staleNames := s.staleNames.close, failures := s.logFailure err }

def deleteReturn (err : Option (GcError ε)) : Pipeline ε :=
  { s with delete := .exiting err, failures := s.logFailure err }

def record (err : Option (GcError ε)) : Pipeline ε :=
  { s with
    groupErr := s.groupErr.or err
    cancelled := s.cancelled || (s.groupErr.isNone && err.isSome) }

def finished : Bool := s.list.isExited && s.filter.isExited && s.delete.isExited

def emitted : List MinObject := s.minObjects.sent

def deleteCalls : List String := s.staleNames.received

def result : UInt64 × Option (GcError ε) := (s.objectsDeleted, s.groupErr)

end Pipeline

open Pipeline

def filterNext (now : Int) (o : MinObject) : FilterPc :=
  if isStale now o then .send o.name else .receive

def step (now : Int) (s : Pipeline ε) : Action ε → Option (Pipeline ε)
  | .cancelParent => if s.parentCancelled then none else some { s with parentCancelled := true }
  | .listSend =>
    match s.list with
    | .running (o :: rest) =>
      if h : s.minObjects.buf.length < 100 then
        some { s with list := .running rest, minObjects := s.minObjects.send o h }
      else none
    | _ => none
  | .listEnd =>
    match s.list with
    | .running [] => some (s.listReturn none)
    | _ => none
  | .listCancel =>
    match s.list with
    | .running (_ :: _) =>
      if s.ctxDone then some (s.listReturn (some (.listPrefix .canceled))) else none
    | _ => none
  | .listFail e =>
    match s.list with
    | .running _ => some (s.listReturn (some (.listPrefix (.bucket e))))
    | _ => none
  | .listRecord =>
    match s.list with
    | .exiting err => some { s.record err with list := .exited err }
    | _ => none
  | .filterReceive =>
    match s.filter with
    | .running .receive =>
      match s.minObjects.receive with
      | some (o, c) =>
        some { s with
          minObjects := c
          filter := .running (filterNext now o) }
      | none => if s.minObjects.closed then some (s.filterReturn none) else none
    | _ => none
  | .filterSend =>
    match s.filter with
    | .running (.send n) =>
      if h : s.staleNames.buf.length < 100 then
        some { s with filter := .running .receive, staleNames := s.staleNames.send n h }
      else none
    | _ => none
  | .filterCancel =>
    match s.filter with
    | .running (.send _) => if s.ctxDone then some (s.filterReturn (some .canceled)) else none
    | _ => none
  | .filterRecord =>
    match s.filter with
    | .exiting err => some { s.record err with filter := .exited err }
    | _ => none
  | .deleteReceive =>
    match s.delete with
    | .running .receive =>
      match s.staleNames.receive with
      | some (n, c) => some { s with staleNames := c, delete := .running (.delete n) }
      | none => if s.staleNames.closed then some (s.deleteReturn none) else none
    | _ => none
  | .deleteOk =>
    match s.delete with
    | .running (.delete _) =>
      some { s with
        delete := .running .receive
        objectsDeleted := s.objectsDeleted + 1
        results := s.results ++ [true] }
    | _ => none
  | .deleteFail e =>
    match s.delete with
    | .running (.delete n) =>
      some { s.deleteReturn (some (.deleteObject n (.bucket e))) with results := s.results ++ [false] }
    | _ => none
  | .deleteRecord =>
    match s.delete with
    | .exiting err => some { s.record err with delete := .exited err }
    | _ => none

def run (now : Int) : Pipeline ε → List (Action ε) → Option (Pipeline ε)
  | s, [] => some s
  | s, a :: acts => (step now s a).bind fun t => run now t acts

def garbageCollectOnce (now : Int) (listing : List MinObject) (acts : List (Action ε)) : Option (Pipeline ε) :=
  run now (Pipeline.init listing) acts

inductive Step (now : Int) : Pipeline ε → Action ε → Pipeline ε → Prop
  | cancelParent {s : Pipeline ε} (hp : s.parentCancelled = false) :
      Step now s .cancelParent { s with parentCancelled := true }
  | listSend {s : Pipeline ε} {o rest} (hl : s.list = .running (o :: rest))
      (hc : s.minObjects.buf.length < 100) :
      Step now s .listSend { s with list := .running rest, minObjects := s.minObjects.send o hc }
  | listEnd {s : Pipeline ε} (hl : s.list = .running []) : Step now s .listEnd (s.listReturn none)
  | listCancel {s : Pipeline ε} {o rest} (hl : s.list = .running (o :: rest))
      (hd : s.ctxDone = true) :
      Step now s .listCancel (s.listReturn (some (.listPrefix .canceled)))
  | listFail {s : Pipeline ε} {rest} (e : ε) (hl : s.list = .running rest) :
      Step now s (.listFail e) (s.listReturn (some (.listPrefix (.bucket e))))
  | listRecord {s : Pipeline ε} {err} (hl : s.list = .exiting err) :
      Step now s .listRecord { s.record err with list := .exited err }
  | filterReceive {s : Pipeline ε} {o rest} (hf : s.filter = .running .receive)
      (hb : s.minObjects.buf = o :: rest) :
      Step now s .filterReceive { s with
        minObjects := s.minObjects.pop o rest hb
        filter := .running (filterNext now o) }
  | filterExit {s : Pipeline ε} (hf : s.filter = .running .receive) (hb : s.minObjects.buf = [])
      (hc : s.minObjects.closed = true) :
      Step now s .filterReceive (s.filterReturn none)
  | filterSend {s : Pipeline ε} {n} (hf : s.filter = .running (.send n))
      (hc : s.staleNames.buf.length < 100) :
      Step now s .filterSend { s with filter := .running .receive, staleNames := s.staleNames.send n hc }
  | filterCancel {s : Pipeline ε} {n} (hf : s.filter = .running (.send n)) (hd : s.ctxDone = true) :
      Step now s .filterCancel (s.filterReturn (some .canceled))
  | filterRecord {s : Pipeline ε} {err} (hf : s.filter = .exiting err) :
      Step now s .filterRecord { s.record err with filter := .exited err }
  | deleteReceive {s : Pipeline ε} {n rest} (hd : s.delete = .running .receive)
      (hb : s.staleNames.buf = n :: rest) :
      Step now s .deleteReceive { s with
        staleNames := s.staleNames.pop n rest hb
        delete := .running (.delete n) }
  | deleteExit {s : Pipeline ε} (hd : s.delete = .running .receive) (hb : s.staleNames.buf = [])
      (hc : s.staleNames.closed = true) :
      Step now s .deleteReceive (s.deleteReturn none)
  | deleteOk {s : Pipeline ε} {n} (hd : s.delete = .running (.delete n)) :
      Step now s .deleteOk { s with
        delete := .running .receive
        objectsDeleted := s.objectsDeleted + 1
        results := s.results ++ [true] }
  | deleteFail {s : Pipeline ε} {n} (e : ε) (hd : s.delete = .running (.delete n)) :
      Step now s (.deleteFail e)
        { s.deleteReturn (some (.deleteObject n (.bucket e))) with results := s.results ++ [false] }
  | deleteRecord {s : Pipeline ε} {err} (hd : s.delete = .exiting err) :
      Step now s .deleteRecord { s.record err with delete := .exited err }

theorem step_sound {now : Int} {s t : Pipeline ε} {a : Action ε} (h : step now s a = some t) :
    Step now s a t := by
  cases a <;> (simp only [step] at h; repeat' split at h) <;> cases h
  all_goals first
    | exact .cancelParent (by simpa using ‹¬_ = true›)
    | (obtain ⟨_, _, rfl⟩ := Chan.receive_eq_some ‹_›; constructor; assumption)
    | (have h := Chan.receive_eq_none.mp ‹_›; constructor <;> assumption)
    | constructor <;> assumption

theorem step_complete {now : Int} {s t : Pipeline ε} {a : Action ε} (h : Step now s a t) :
    step now s a = some t := by
  cases h
  case filterReceive hf hb => simp [step, hf, Chan.receive_of_buf hb]
  case deleteReceive hd hb => simp [step, hd, Chan.receive_of_buf hb]
  all_goals simp_all [step, Chan.receive_eq_none.mpr]

theorem run_cons {now : Int} {s t : Pipeline ε} {a : Action ε} (h : Step now s a t)
    (acts : List (Action ε)) : run now s (a :: acts) = run now t acts := by
  simp [run, step_complete h]

theorem run_append {now : Int} (s : Pipeline ε) (xs ys : List (Action ε)) :
    run now s (xs ++ ys) = (run now s xs).bind fun t => run now t ys := by
  induction xs generalizing s with
  | nil => rfl
  | cons a xs ih =>
    simp only [List.cons_append, run]
    cases step now s a <;> simp [ih]

theorem garbageCollectOnce_append {now : Int} (listing : List MinObject) (xs ys : List (Action ε)) :
    garbageCollectOnce now listing (xs ++ ys) = (garbageCollectOnce now listing xs).bind fun t => run now t ys :=
  run_append _ xs ys

theorem run_invariant {now : Int} (P : Pipeline ε → Prop) (ok : Action ε → Prop)
    (hstep : ∀ {s a t}, ok a → P s → Step now s a t → P t) :
    ∀ {acts : List (Action ε)} {s t : Pipeline ε}, (∀ a ∈ acts, ok a) → P s →
      run now s acts = some t → P t
  | [], _, _, _, hs, h => by cases h; exact hs
  | a :: acts, s, t, hok, hs, h => by
    simp only [run, Option.bind_eq_some] at h
    obtain ⟨u, hu, ht⟩ := h
    exact run_invariant P ok hstep (fun b hb => hok b (List.mem_cons_of_mem a hb))
      (hstep (hok a (List.mem_cons_self a acts)) hs (step_sound hu)) ht

end Gcsfuse.Gcsx
