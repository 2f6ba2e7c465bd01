/-!
# Channel layouts

A layout is a number of channels and a set of speakers, one bit a speaker in the order of
extensible wave files. Layouts without a standard arrangement have the empty set.
-/

namespace StreamDecode

/-- A number of channels with the speakers that they feed. -/
structure ChannelLayout where
  channels : UInt32
  speakers : UInt32
deriving DecidableEq, Repr

namespace ChannelLayout

/-- One channel at the front centre. -/
def mono : ChannelLayout := ⟨1, 0x4⟩

/-- Front left and right. -/
def stereo : ChannelLayout := ⟨2, 0x3⟩

/-- Front left, right and centre, low frequency, back left and right. -/
def surround51 : ChannelLayout := ⟨6, 0x3f⟩

/-- `surround51` with side left and right. -/
def surround71 : ChannelLayout := ⟨8, 0x63f⟩

/-- The standard arrangement of a number of channels. -/
def standard (channels : UInt32) : ChannelLayout :=
  if channels = 1 then mono
  else if channels = 2 then stereo
  else if channels = 6 then surround51
  else if channels = 8 then surround71
  else ⟨channels, 0⟩

/-- The number of speaker positions that have a bit. -/
def speakerCount : Nat := 11

/-- The number of speakers in a set. -/
def countSpeakers (speakers : UInt32) : Nat :=
  ((List.range speakerCount).filter speakers.toNat.testBit).length

/-- The layout with exactly the given speakers; none if the set is empty or has an unknown bit. -/
def ofSpeakers? (speakers : UInt32) : Option ChannelLayout :=
  if speakers = 0 ∨ 1 <<< speakerCount ≤ speakers.toNat then none
  else some ⟨UInt32.ofNat (countSpeakers speakers), speakers⟩

/-- The name of the arrangement, or the number of channels. -/
def name (layout : ChannelLayout) : String :=
  if layout = mono then "mono"
  else if layout = stereo then "stereo"
  else if layout = surround51 then "5.1"
  else if layout = surround71 then "7.1"
  else s!"{layout.channels.toNat}ch"

@[simp] theorem channels_standard (n : UInt32) : (standard n).channels = n := by
  unfold standard
  split
  · next h => exact h.symm
  split
  · next h => exact h.symm
  split
  · next h => exact h.symm
  split
  · next h => exact h.symm
  rfl

end ChannelLayout

end StreamDecode
