import StreamDecode.Bytes

/-!
# Samples

A `Sample` is the finished output for one frame. A host pulls it through an `OutputSlot`, which is
empty or holds a buffer of the host; a buffer is filled as far as it goes and never grows.
-/

namespace StreamDecode

/-- Output bytes with their time and duration in units of 100 nanoseconds. -/
structure Sample where
  data : Bytes
  time : Int64
  duration : Int64
deriving DecidableEq

namespace Sample

/-- A buffer of zero bytes for a sample. -/
def blank (length : Nat) : Sample := ⟨.zeros length, 0, 0⟩

/-- The sample as it arrives in a buffer of the host: cut to the length of the buffer, if there is
one. -/
def cutTo (sample : Sample) : Option Sample → Sample
  | none => sample
  | some buffer => { sample with data := sample.data.take buffer.data.size }

@[simp] theorem cutTo_none (sample : Sample) : sample.cutTo none = sample := rfl

theorem cutTo_of_le {sample buffer : Sample} (h : sample.data.size ≤ buffer.data.size) :
    sample.cutTo (some buffer) = sample := by
  simp [cutTo, Array.take, Array.extract_eq_self_of_le h]

end Sample

/-- A place for one output: the stream it asks for, the buffer of the host or the delivered sample,
and whether the output type has changed. -/
structure OutputSlot where
  stream : UInt32
  sample : Option Sample
  formatChange : Bool
deriving DecidableEq

/-- A slot of stream `0` without a buffer. -/
def OutputSlot.empty : OutputSlot := ⟨0, none, false⟩

end StreamDecode
