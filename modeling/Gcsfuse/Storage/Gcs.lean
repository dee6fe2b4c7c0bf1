import Mathlib

namespace Gcsfuse.Gcs

structure MinObject where
  name : String
  size : UInt64
  generation : Int
  updated : Int
  contentEncoding : String
  deriving DecidableEq, Repr

def MinObject.hasContentEncodingGzip (o : MinObject) : Bool :=
  o.contentEncoding == "gzip"

structure ByteRange where
  start : UInt64
  limit : UInt64
  deriving DecidableEq, Repr

structure ReadObjectRequest where
  name : String
  generation : Int
  range : ByteRange
  readCompressed : Bool
  readHandle : List UInt8
  deriving DecidableEq, Repr

def nanosecond : Int := 1
def second : Int := 1000000000 * nanosecond
def minute : Int := 60 * second

def minDuration : Int := -2 ^ 63
def maxDuration : Int := 2 ^ 63 - 1

def sub (t u : Int) : Int :=
  if t - u < minDuration then minDuration
  else if maxDuration < t - u then maxDuration
  else t - u

theorem sub_lt_iff {t u d : Int} (hlo : minDuration < d) (hhi : d ≤ maxDuration) :
    sub t u < d ↔ t - u < d := by
  unfold sub
  split_ifs <;> omega

end Gcsfuse.Gcs
