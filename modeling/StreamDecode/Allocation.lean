import StreamDecode.Bytes
import StreamDecode.Error

/-!
# Buffers

A buffer is asked for with its exact length. No buffer is longer than a signed word of 64 bits can
count, and asking for more fails.
-/

namespace StreamDecode

/-- The greatest length of a buffer. -/
def maxBufferLength : Nat := 0x7fffffffffffffff

/-- A new buffer of zero bytes for the stated purpose. -/
def allocate (length : Nat) (purpose : String) : Except MediaError Bytes :=
  if maxBufferLength < length then .error (.outOfMemory (.tooLong purpose length))
  else .ok (Bytes.zeros length)

theorem lt_size_of_le {length : Nat} (h : length ≤ maxBufferLength) : length < UInt64.size :=
  Nat.lt_of_le_of_lt h (by decide)

theorem allocate_eq_ok_iff {length : Nat} {purpose : String} {buffer : Bytes} :
    allocate length purpose = .ok buffer ↔
      length ≤ maxBufferLength ∧ buffer = Bytes.zeros length := by
  unfold allocate
  split
  · next h => simp; omega
  · next h => simp [eq_comm]; omega

theorem allocate_of_lt {length : Nat} (purpose : String) (h : maxBufferLength < length) :
    allocate length purpose = .error (.outOfMemory (.tooLong purpose length)) := by
  unfold allocate
  rw [if_pos h]

theorem allocate_of_le {length : Nat} (purpose : String) (h : length ≤ maxBufferLength) :
    allocate length purpose = .ok (Bytes.zeros length) :=
  allocate_eq_ok_iff.mpr ⟨h, rfl⟩

end StreamDecode
