import StreamDecode.Bytes
import StreamDecode.Media.PixelFormat

/-!
# Attributes of media types

A media type carries named attributes. The keys are a closed set with a fixed order, so `Attributes`
is a finite map by its look-up: two of them are equal when every key has the same value
(`Attributes.ext`), and `Attributes.entries` lists what is present in the order of the keys.
-/

namespace StreamDecode

/-- The names of attributes, in their order. -/
inductive AttributeKey where
  | channelCount
  | sampleRate
  | bitsPerSample
  | validBitsPerSample
  | channelMask
  | avgBytesPerSecond
  | blockAlignment
  | samplesPerBlock
  | frameSize
  | frameRate
  | pixelAspectRatio
  | avgBitrate
  | interlaceMode
  | videoRotation
  | allSamplesIndependent
  | userData
deriving DecidableEq, Repr

namespace AttributeKey

/-- The name in structured text. -/
def name : AttributeKey → String
  | .channelCount => "channel_count"
  | .sampleRate => "sample_rate"
  | .bitsPerSample => "bits_per_sample"
  | .validBitsPerSample => "valid_bits_per_sample"
  | .channelMask => "channel_mask"
  | .avgBytesPerSecond => "avg_bytes_per_second"
  | .blockAlignment => "block_alignment"
  | .samplesPerBlock => "samples_per_block"
  | .frameSize => "frame_size"
  | .frameRate => "frame_rate"
  | .pixelAspectRatio => "pixel_aspect_ratio"
  | .avgBitrate => "avg_bitrate"
  | .interlaceMode => "interlace_mode"
  | .videoRotation => "video_rotation"
  | .allSamplesIndependent => "all_samples_independent"
  | .userData => "user_data"

def all : List AttributeKey :=
  [.channelCount, .sampleRate, .bitsPerSample, .validBitsPerSample, .channelMask,
    .avgBytesPerSecond, .blockAlignment, .samplesPerBlock, .frameSize, .frameRate,
    .pixelAspectRatio, .avgBitrate, .interlaceMode, .videoRotation, .allSamplesIndependent,
    .userData]

theorem mem_all (key : AttributeKey) : key ∈ all := by cases key <;> decide

end AttributeKey

/-- The value of an attribute. -/
inductive AttributeValue where
  | u32 (value : UInt32)
  | u64 (value : UInt64)
  | size (value : FrameSize)
  | ratio (num den : UInt32)
  | blob (bytes : Bytes)
deriving DecidableEq, Repr

namespace AttributeValue

/-- The value as a word of 32 bits; a long word counts if it fits. -/
def u32? : AttributeValue → Option UInt32
  | .u32 value => some value
  | .u64 value => if value.toNat < UInt32.size then some value.toUInt32 else none
  | _ => none

def u64? : AttributeValue → Option UInt64
  | .u32 value => some value.toUInt64
  | .u64 value => some value
  | _ => none

def size? : AttributeValue → Option FrameSize
  | .size value => some value
  | _ => none

def ratio? : AttributeValue → Option (UInt32 × UInt32)
  | .ratio num den => some (num, den)
  | _ => none

def blob? : AttributeValue → Option Bytes
  | .blob bytes => some bytes
  | _ => none

end AttributeValue

/-- A finite map from attribute names to values. -/
structure Attributes where
  lookup : AttributeKey → Option AttributeValue

namespace Attributes

@[ext] theorem ext {a b : Attributes} (h : ∀ key, a.lookup key = b.lookup key) : a = b := by
  cases a; cases b; exact congrArg mk (funext h)

instance : DecidableEq Attributes := fun a b =>
  decidable_of_iff (∀ key ∈ AttributeKey.all, a.lookup key = b.lookup key)
    ⟨fun h => ext fun key => h key key.mem_all, fun h _ _ => h ▸ rfl⟩

def empty : Attributes := ⟨fun _ => none⟩

/-- The map with a value set; an earlier value of the key is replaced. -/
def insert (attributes : Attributes) (key : AttributeKey) (value : AttributeValue) : Attributes :=
  ⟨fun other => if other = key then some value else attributes.lookup other⟩

/-- What is present, in the order of the keys. -/
def entries (attributes : Attributes) : List (AttributeKey × AttributeValue) :=
  AttributeKey.all.filterMap fun key => (attributes.lookup key).map (key, ·)

theorem mem_entries_iff {attributes : Attributes} {key : AttributeKey} {value : AttributeValue} :
    (key, value) ∈ attributes.entries ↔ attributes.lookup key = some value := by
  simp only [entries, List.mem_filterMap, Option.map_eq_some_iff, Prod.mk.injEq]
  constructor
  · rintro ⟨_, _, _, h, rfl, rfl⟩
    exact h
  · intro h
    exact ⟨key, key.mem_all, value, h, rfl, rfl⟩

end Attributes

end StreamDecode
