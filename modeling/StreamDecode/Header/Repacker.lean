import StreamDecode.Bytes
import StreamDecode.Error
import StreamDecode.Header.Lacing

/-!
# Repacking codec headers

A container may deliver the headers of a codec in a layout of its own. A `HeaderRepacker` recognises
the layout that an engine wants and brings a container's header into it.

The Vorbis container header is a block of six little-endian words (channels, sample rate, bits per
sample and three packet lengths) before the three header packets. Engines want the byte 2, the laced
lengths of the first two packets and then the three packets.
-/

namespace StreamDecode

/-- A way to bring a container's codec header into the layout that engines want. -/
structure HeaderRepacker where
  name : String
  isRepacked : Bytes → Bool
  repack : Bytes → Except MediaError Bytes

/-- The header as an engine wants it: repacked unless it is in that layout already. -/
def HeaderRepacker.prepare (repacker : HeaderRepacker) (header : Bytes) : Except MediaError Bytes :=
  if repacker.isRepacked header then .ok header else repacker.repack header

theorem HeaderRepacker.prepare_of_isRepacked {repacker : HeaderRepacker} {header : Bytes}
    (h : repacker.isRepacked header = true) : repacker.prepare header = .ok header := by
  simp [prepare, h]

namespace VorbisHeader

/-- The byte before the laced lengths: the number of laced packets. -/
def lacedCount : UInt8 := 2

/-- How the first header packet begins: packet type 1 and the name of the codec. -/
def identification : List UInt8 := [0x01, 0x76, 0x6f, 0x72, 0x62, 0x69, 0x73]

/-- The length of the block of words before the packets of a container header. -/
def containerBlock : Nat := 24

/-- The little-endian word of 32 bits at an offset. -/
def wordAt (header : List UInt8) (offset : Nat) : Nat :=
  ofLittleEndian ((header.drop offset).take 4)

/-- Whether bytes are in the engine's layout: two laced lengths, then packets of which the first one
is the identification and the third one is not empty. -/
def isLaced : List UInt8 → Bool
  | [] => false
  | count :: bytes =>
    count == lacedCount &&
      match Lacing.decode? bytes with
      | none => false
      | some (first, bytes) =>
        match Lacing.decode? bytes with
        | none => false
        | some (second, packets) =>
          decide (first + second < packets.length) && identification.isPrefixOf packets

/-- The engine's layout of a container header. -/
def lace (header : List UInt8) : Except MediaError (List UInt8) :=
  if header.length < containerBlock then
    .error (.invalidMediaType (.headerTooShort header.length))
  else
    let first := wordAt header 12
    let second := wordAt header 16
    let packets := header.drop containerBlock
    if first = 0 ∨ second = 0 ∨ packets.length ≤ first + second then
      .error (.invalidMediaType (.headerSizes first second packets.length))
    else .ok (lacedCount :: Lacing.encode first ++ Lacing.encode second ++ packets)

/-- The repacker for Vorbis headers. -/
def repacker : HeaderRepacker where
  name := "xiph_lacing"
  isRepacked header := isLaced header.toList
  repack header := (lace header.toList).map List.toArray

end VorbisHeader

end StreamDecode
