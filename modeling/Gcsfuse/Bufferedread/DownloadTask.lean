import Gcsfuse.Storage.Gcs
import Gcsfuse.Go.Io

namespace Gcsfuse.Bufferedread

open Gcsfuse.Gcs Gcsfuse.Go

inductive BlockState where
  | downloaded
  | downloadFailed
  deriving DecidableEq, Repr

structure BlockStatus where
  state : BlockState
  err : Option Error
  deriving DecidableEq, Repr

structure PrefetchBlock where
  absStartOff : BitVec 64
  cap : BitVec 64
  writes : List WriteReply

structure Reader where
  reads : List ReadReply
  close : Outcome Unit

structure DownloadTask where
  object : MinObject
  bucket : Outcome (Except Error Reader)
  block : PrefetchBlock
  ctxErr : Option Error
  readHandle : List UInt8
  readHandleUpdater : Option (Outcome Unit)

inductive Event where
  | newReader (req : ReadObjectRequest)
  | write (n : Nat)
  | close
  | updateReadHandle
  | notifyReady (status : BlockStatus)
  | metrics (status : String)
  deriving DecidableEq, Repr

def Event.notification : Event → Option BlockStatus
  | .notifyReady status => some status
  | _ => none

def Event.bytes : Event → Nat
  | .write n => n
  | _ => 0

structure Frame where
  events : List Event
  err : Option Error
  reader : Option Reader
  panicked : Bool

namespace DownloadTask

variable (dt : DownloadTask)

def start : UInt64 := ⟨dt.block.absStartOff⟩

def limit : UInt64 :=
  if dt.start + ⟨dt.block.cap⟩ > dt.object.size then dt.object.size else dt.start + ⟨dt.block.cap⟩

def request : ReadObjectRequest where
  name := dt.object.name
  generation := dt.object.generation
  range := ⟨dt.start, dt.limit⟩
  readCompressed := dt.object.hasContentEncodingGzip
  readHandle := dt.readHandle

def readerCreationError (err : Error) : Error :=
  if err.asNotFound then .fileClobbered err dt.object.name
  else .wrap "DownloadTask.Execute: while reader-creations: " err

def copied (r : Reader) : List Nat × Outcome (Int × Option Error) :=
  copyN r.reads dt.block.writes (dt.limit - dt.start).toBitVec.toInt

def download : Frame :=
  match dt.bucket with
  | .panic => ⟨[.newReader dt.request], none, none, true⟩
  | .ok (.error err) => ⟨[.newReader dt.request], some (dt.readerCreationError err), none, false⟩
  | .ok (.ok r) =>
    let events := .newReader dt.request :: (dt.copied r).1.map .write
    match (dt.copied r).2 with
    | .panic => ⟨events, none, some r, true⟩
    | .ok (_, some err) =>
      ⟨events, some (.wrap "DownloadTask.Execute: while data-copy: " err), some r, false⟩
    | .ok (_, none) =>
      match dt.readHandleUpdater with
      | none => ⟨events, none, some r, false⟩
      | some u => ⟨events ++ [.updateReadHandle], none, some r, u.isPanic⟩

def status (err : Option Error) : BlockStatus × String :=
  match err with
  | none => (⟨.downloaded, none⟩, "successful")
  | some e =>
    if e.is .canceled && dt.ctxErr == some .canceled then (⟨.downloadFailed, some e⟩, "cancelled")
    else (⟨.downloadFailed, some e⟩, "failed")

def closeReader : Option Reader → List Event × Bool
  | none => ([], false)
  | some r => ([.close], r.close.isPanic)

def execute : List Event × Bool :=
  if dt.block.cap = 0 then ([], true)
  else
    ((dt.download.events ++ (closeReader dt.download.reader).1) ++
        [.notifyReady (dt.status dt.download.err).1, .metrics (dt.status dt.download.err).2],
      dt.download.panicked || (closeReader dt.download.reader).2)

def readerFits : Bool :=
  match dt.bucket with
  | .ok (.ok r) =>
    readsFit (bufferSize (dt.limit - dt.start).toBitVec.toInt) (dt.limit - dt.start).toBitVec.toInt r.reads
  | _ => true

@[simp] theorem bytes_comp_write : Event.bytes ∘ Event.write = id := rfl

theorem readerFits_reads (hfit : dt.readerFits = true) {r : Reader} (hb : dt.bucket = .ok (.ok r)) :
    readsFit (bufferSize (dt.limit - dt.start).toBitVec.toInt) (dt.limit - dt.start).toBitVec.toInt
      r.reads = true := by
  simpa [readerFits, hb] using hfit

theorem execute_bytes (hc : dt.block.cap ≠ 0) :
    (dt.execute.1.map Event.bytes).sum = (dt.download.events.map Event.bytes).sum := by
  rw [execute, if_neg hc]
  cases dt.download.reader <;> simp [closeReader, Event.bytes]

theorem status_err (e : Error) : (dt.status (some e)).1.err = some e := by
  unfold status
  dsimp only
  split_ifs <;> rfl

theorem download_notifications : dt.download.events.filterMap Event.notification = [] := by
  unfold download
  split
  · rfl
  · rfl
  · split
    · simp [List.filterMap_map, Event.notification]
    · simp [List.filterMap_map, Event.notification]
    · split <;> simp [List.filterMap_map, Event.notification]

theorem execute_notifications (hc : dt.block.cap ≠ 0) :
    dt.execute.1.filterMap Event.notification = [(dt.status dt.download.err).1] := by
  have hcl : ∀ r, (closeReader r).1.filterMap Event.notification = [] := by
    intro r; cases r <;> rfl
  rw [execute, if_neg hc]
  simp [List.filterMap_append, download_notifications, hcl, Event.notification]

theorem toInt_of_nonneg {x : BitVec 64} (h : 0 ≤ x.toInt) : x.toInt = x.toNat ∧ x.toNat < 2 ^ 63 := by
  have := x.isLt
  rw [BitVec.toInt_eq_toNat_cond] at h ⊢
  split_ifs at h ⊢ <;> omega

section Range

variable {dt : DownloadTask} (hs : 0 ≤ dt.block.absStartOff.toInt) (hc : 0 ≤ dt.block.cap.toInt)
include hs hc

theorem limit_toNat :
    dt.limit.toNat = min (dt.block.absStartOff.toNat + dt.block.cap.toNat) dt.object.size.toNat := by
  have hs' := (toInt_of_nonneg hs).2
  have hc' := (toInt_of_nonneg hc).2
  have hadd : (dt.start + ⟨dt.block.cap⟩).toNat = dt.block.absStartOff.toNat + dt.block.cap.toNat :=
    Nat.mod_eq_of_lt (show dt.block.absStartOff.toNat + dt.block.cap.toNat < 2 ^ 64 by omega)
  have key : dt.start + ⟨dt.block.cap⟩ > dt.object.size ↔
      dt.object.size.toNat < dt.block.absStartOff.toNat + dt.block.cap.toNat := by
    rw [← hadd]; exact Iff.rfl
  unfold limit
  split_ifs with h
  · have := key.mp h; omega
  · have := mt key.mpr h; rw [hadd]; omega

theorem copyLength_eq (hsz : dt.block.absStartOff.toInt < dt.object.size.toNat) :
    (dt.limit - dt.start).toBitVec.toInt =
      min dt.block.cap.toInt (dt.object.size.toNat - dt.block.absStartOff.toInt) := by
  have hl := limit_toNat hs hc
  obtain ⟨hs1, hs2⟩ := toInt_of_nonneg hs
  obtain ⟨hc1, hc2⟩ := toInt_of_nonneg hc
  have hlt : dt.limit.toNat < 2 ^ 64 := dt.limit.toBitVec.isLt
  have hsub : (dt.limit - dt.start).toBitVec.toNat = dt.limit.toNat - dt.block.absStartOff.toNat := by
    show (2 ^ 64 - dt.block.absStartOff.toNat + dt.limit.toNat) % 2 ^ 64 = _
    omega
  rw [BitVec.toInt_eq_toNat_cond]
  split_ifs <;> omega

end Range

theorem download_of_copied (dt : DownloadTask) {r : Reader} (hb : dt.bucket = .ok (.ok r)) {w : Int}
    (hc : (dt.copied r).2 = .ok (w, none)) :
    dt.download.err = none ∧ dt.download.reader = some r ∧
      dt.download.panicked = dt.readHandleUpdater.any Outcome.isPanic ∧
      (dt.download.events.map Event.bytes).sum = (dt.copied r).1.sum := by
  unfold download
  simp only [hb, hc]
  cases dt.readHandleUpdater <;> simp [Event.bytes]

example :
    let dt : DownloadTask :=
      ⟨⟨"f", 10000, 1, 0, ""⟩, .ok (.ok ⟨[.ok (1808, some .eof)], .ok ()⟩), ⟨8192, 4096, []⟩, none, [],
        some (.ok ())⟩
    dt.execute = ([.newReader ⟨"f", 1, ⟨8192, 10000⟩, false, []⟩, .write 1808, .updateReadHandle, .close,
      .notifyReady ⟨.downloaded, none⟩, .metrics "successful"], false) := by
  decide

theorem download_of_panic {dt : DownloadTask}
    (hp : dt.bucket = .panic ∨ ∃ r, dt.bucket = .ok (.ok r) ∧ (dt.copied r).2 = .panic) :
    dt.download.err = none ∧ dt.download.panicked = true := by
  unfold download
  rcases hp with hp | ⟨r, hb, hp⟩
  · simp [hp]
  · simp [hb, hp]

theorem execute_reports_downloaded_after_panic (dt : DownloadTask) (hc : dt.block.cap ≠ 0)
    (hp : dt.bucket = .panic ∨ ∃ r, dt.bucket = .ok (.ok r) ∧ (dt.copied r).2 = .panic) :
    dt.execute.2 = true ∧ dt.execute.1.filterMap Event.notification = [⟨.downloaded, none⟩] ∧
      .metrics "successful" ∈ dt.execute.1 := by
  obtain ⟨he, hpan⟩ := download_of_panic hp
  refine ⟨?_, by rw [dt.execute_notifications hc, he]; rfl, ?_⟩
  · rw [execute, if_neg hc]
    simp [hpan]
  · rw [execute, if_neg hc, he]
    simp [status]

theorem execute_reports_downloaded_after_panic_midcopy :
    let dt : DownloadTask :=
      ⟨⟨"f", 10000, 1, 0, ""⟩, .ok (.ok ⟨[.ok (100, none), .panic], .ok ()⟩), ⟨0, 4096, []⟩, none, [], none⟩
    (dt.block.cap ≠ 0 ∧ ∃ r, dt.bucket = .ok (.ok r) ∧ (dt.copied r).2 = .panic) ∧
    (dt.execute.2 = true ∧ dt.execute.1.filterMap Event.notification = [⟨.downloaded, none⟩] ∧
      .metrics "successful" ∈ dt.execute.1) ∧
    (dt.execute.1.map Event.bytes).sum = 100 :=
  ⟨⟨by decide, _, rfl, rfl⟩, execute_reports_downloaded_after_panic _ (by decide) (.inr ⟨_, rfl, rfl⟩), rfl⟩

theorem execute_delivers_full_range (dt : DownloadTask) {r : Reader} {ks : List Nat}
    (hcap : 0 < dt.block.cap.toInt) (hstart : 0 ≤ dt.block.absStartOff.toInt)
    (hsize : dt.block.absStartOff.toInt < dt.object.size.toNat) (hb : dt.bucket = .ok (.ok r))
    (hw : dt.block.writes = []) (hr : r.reads = ks.map fun k => .ok (k, none)) (hfit : dt.readerFits = true)
    (hlen : min dt.block.cap.toInt (dt.object.size.toNat - dt.block.absStartOff.toInt) ≤ ks.sum)
    (hclose : r.close = .ok ()) (hu : dt.readHandleUpdater ≠ some .panic) :
    dt.execute.2 = false ∧ dt.execute.1.filterMap Event.notification = [⟨.downloaded, none⟩] ∧
      ((dt.execute.1.map Event.bytes).sum : Int) =
        min dt.block.cap.toInt (dt.object.size.toNat - dt.block.absStartOff.toInt) := by
  have hc : dt.block.cap ≠ 0 := fun h => by simp [h] at hcap
  have hn := copyLength_eq hstart hcap.le hsize
  have hfit' := dt.readerFits_reads hfit hb
  have h0 : 0 ≤ min dt.block.cap.toInt (dt.object.size.toNat - dt.block.absStartOff.toInt) := by omega
  generalize min dt.block.cap.toInt (dt.object.size.toNat - dt.block.absStartOff.toInt) = n at hn hlen h0 ⊢
  rw [hn, hr] at hfit'
  have hcopied : dt.copied r = copyN (ks.map fun k => .ok (k, none)) [] n := by rw [copied, hw, hn, hr]
  obtain ⟨hsum, hok⟩ : ((dt.copied r).1.sum : Int) = n ∧ (dt.copied r).2 = .ok (n, none) :=
    hcopied ▸ copyN_delivers h0 hlen hfit'
  obtain ⟨he, hrd, hp, hbytes⟩ := dt.download_of_copied hb hok
  refine ⟨?_, by rw [dt.execute_notifications hc, he]; rfl, by rw [execute_bytes dt hc, hbytes, hsum]⟩
  have hnp : dt.readHandleUpdater.any Outcome.isPanic = false := by
    rcases hv : dt.readHandleUpdater with _ | _ | _
    · rfl
    · rfl
    · exact absurd hv hu
  rw [execute, if_neg hc]
  simp [hp, hnp, hrd, closeReader, hclose, Outcome.isPanic]

theorem execute_delivers_full_range_tail :
    let dt : DownloadTask :=
      ⟨⟨"f", 10000, 1, 0, ""⟩, .ok (.ok ⟨[.ok (1000, none), .ok (808, none)], .ok ()⟩), ⟨8192, 4096, []⟩,
        none, [], none⟩
    (0 < dt.block.cap.toInt ∧ 0 ≤ dt.block.absStartOff.toInt ∧
      dt.block.absStartOff.toInt < dt.object.size.toNat ∧ dt.readerFits = true ∧
      min dt.block.cap.toInt (dt.object.size.toNat - dt.block.absStartOff.toInt) ≤ [1000, 808].sum) ∧
    dt.execute.2 = false ∧ dt.execute.1.filterMap Event.notification = [⟨.downloaded, none⟩] ∧
      ((dt.execute.1.map Event.bytes).sum : Int) =
        min dt.block.cap.toInt (dt.object.size.toNat - dt.block.absStartOff.toInt) :=
  ⟨⟨by decide, by decide, by decide, rfl, by decide⟩,
    execute_delivers_full_range _ (by decide) (by decide) (by decide) rfl rfl
      (show _ = [1000, 808].map fun k => (.ok (k, none) : ReadReply) from rfl) rfl (by decide) rfl (by decide)⟩

theorem status_failed {err : Option Error} (hf : (dt.status err).1.state = .downloadFailed) :
    ∃ e, err = some e ∧ (dt.status err).1.err = some e := by
  cases err with
  | none => cases hf
  | some e => exact ⟨e, rfl, dt.status_err e⟩

theorem readerCreationError_cases (e₀ : Error) :
    e₀.asNotFound = true ∧ dt.readerCreationError e₀ = .fileClobbered e₀ dt.object.name ∨
      e₀.asNotFound = false ∧
        dt.readerCreationError e₀ = .wrap "DownloadTask.Execute: while reader-creations: " e₀ := by
  unfold readerCreationError
  cases h : e₀.asNotFound <;> simp [h]

theorem download_err_cause {e : Error} (he : dt.download.err = some e) :
    (∃ e₀, dt.bucket = .ok (.error e₀) ∧ e = dt.readerCreationError e₀) ∨
      ∃ r w c, dt.bucket = .ok (.ok r) ∧ (dt.copied r).2 = .ok (w, some c) ∧
        e = .wrap "DownloadTask.Execute: while data-copy: " c := by
  unfold download at he
  split at he
  · cases he
  · rename_i e₀ hb
    exact .inl ⟨e₀, hb, (Option.some.inj he).symm⟩
  · rename_i r hb
    dsimp only at he
    split at he
    · cases he
    · rename_i w c hc
      exact .inr ⟨r, w, c, hb, hc, (Option.some.inj he).symm⟩
    · split at he <;> cases he

theorem execute_failure_cause (dt : DownloadTask) (hc : dt.block.cap ≠ 0) {st : BlockStatus}
    (hst : dt.execute.1.filterMap Event.notification = [st]) (hf : st.state = .downloadFailed) :
    ∃ e, st.err = some e ∧
      ((∃ e₀, dt.bucket = .ok (.error e₀) ∧
          (e₀.asNotFound = true ∧ e = .fileClobbered e₀ dt.object.name ∨
            e₀.asNotFound = false ∧ e = .wrap "DownloadTask.Execute: while reader-creations: " e₀)) ∨
        ∃ r c, dt.bucket = .ok (.ok r) ∧ e = .wrap "DownloadTask.Execute: while data-copy: " c ∧
          (c = .eof ∨ c = .shortWrite ∨ c = .invalidWrite ∨ (c ≠ .eof ∧ ∃ k, .ok (k, some c) ∈ r.reads) ∨
            ∃ nw, .ok (nw, some c) ∈ dt.block.writes)) := by
  rw [dt.execute_notifications hc, List.singleton_inj] at hst
  subst hst
  obtain ⟨e, he, hst⟩ := dt.status_failed hf
  refine ⟨e, hst, ?_⟩
  rcases dt.download_err_cause he with ⟨e₀, hb, rfl⟩ | ⟨r, w, c, hb, hcop, rfl⟩
  · exact .inl ⟨e₀, hb, dt.readerCreationError_cases e₀⟩
  · exact .inr ⟨r, c, hb, rfl, copyN_cause hcop⟩

theorem execute_failure_cause_readError :
    let dt : DownloadTask :=
      ⟨⟨"f", 10000, 1, 0, ""⟩, .ok (.ok ⟨[.ok (100, some (.other 5))], .ok ()⟩), ⟨0, 4096, []⟩, none, [],
        none⟩
    let st : BlockStatus := ⟨.downloadFailed, some (.wrap "DownloadTask.Execute: while data-copy: " (.other 5))⟩
    (dt.block.cap ≠ 0 ∧ dt.execute.1.filterMap Event.notification = [st] ∧ st.state = .downloadFailed) ∧
    ∃ e, st.err = some e ∧
      ((∃ e₀, dt.bucket = .ok (.error e₀) ∧
          (e₀.asNotFound = true ∧ e = .fileClobbered e₀ dt.object.name ∨
            e₀.asNotFound = false ∧ e = .wrap "DownloadTask.Execute: while reader-creations: " e₀)) ∨
        ∃ r c, dt.bucket = .ok (.ok r) ∧ e = .wrap "DownloadTask.Execute: while data-copy: " c ∧
          (c = .eof ∨ c = .shortWrite ∨ c = .invalidWrite ∨ (c ≠ .eof ∧ ∃ k, .ok (k, some c) ∈ r.reads) ∨
            ∃ nw, .ok (nw, some c) ∈ dt.block.writes)) :=
  ⟨⟨by decide, by decide, rfl⟩, execute_failure_cause _ (by decide) (by decide) rfl⟩

end DownloadTask

end Gcsfuse.Bufferedread
