import StreamDecode.Ratio

/-!
# Timestamps

Times and durations outside the engines count units of 100 nanoseconds. Engines use time bases
of their own; the smallest word stands for a time that is not known.
-/

namespace StreamDecode

/-- The timestamp of something whose time is not known. -/
def noTimestamp : Int64 := -9223372036854775808

/-- The unit of 100 nanoseconds. -/
def Ratio.hundredNanos : Ratio := ⟨1, 10000000⟩

def isTimestamp (time : Int64) : Bool := time ≠ noTimestamp

/-- A count in `timeBase` in units of 100 nanoseconds, or `fallback` if it cannot be converted; an
undefined time base means that the count is in those units already. -/
def toHundredNanos (timeBase : Ratio) (fallback count : Int64) : Int64 :=
  if timeBase.isDefined then (timeBase.rescale? count .hundredNanos).getD fallback else count

/-- The duration of a number of samples in the time base of their engine, `0` if it is unknown. -/
def samplesDuration (samples : UInt32) (timeBase : Ratio) : Int64 :=
  (timeBase.rescale? (Int64.ofNat samples.toNat) .hundredNanos).getD 0

end StreamDecode
