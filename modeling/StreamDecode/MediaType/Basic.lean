import StreamDecode.MediaType.Attributes
import StreamDecode.Media.Coding

/-!
# Media types

A `MediaType` says what a stream carries: its kind, its coding and named attributes. The typed
getters give an attribute only if it holds a value of that type.
-/

namespace StreamDecode

/-- What a stream carries. -/
structure MediaType where
  kind : StreamKind
  coding : Coding
  attributes : Attributes
deriving DecidableEq

namespace MediaType

/-- A media type without attributes. -/
def bare (kind : StreamKind) (coding : Coding) : MediaType := ⟨kind, coding, .empty⟩

def get? (type : MediaType) (key : AttributeKey) : Option AttributeValue :=
  type.attributes.lookup key

def contains (type : MediaType) (key : AttributeKey) : Bool := (type.get? key).isSome

def set (type : MediaType) (key : AttributeKey) (value : AttributeValue) : MediaType :=
  { type with attributes := type.attributes.insert key value }

def u32? (type : MediaType) (key : AttributeKey) : Option UInt32 :=
  (type.get? key).bind AttributeValue.u32?

def u64? (type : MediaType) (key : AttributeKey) : Option UInt64 :=
  (type.get? key).bind AttributeValue.u64?

def size? (type : MediaType) (key : AttributeKey) : Option FrameSize :=
  (type.get? key).bind AttributeValue.size?

def ratio? (type : MediaType) (key : AttributeKey) : Option (UInt32 × UInt32) :=
  (type.get? key).bind AttributeValue.ratio?

def blob? (type : MediaType) (key : AttributeKey) : Option Bytes :=
  (type.get? key).bind AttributeValue.blob?

/-- The frame size of a video stream. -/
def frameSize? (type : MediaType) : Option FrameSize := type.size? .frameSize

def withFrameSize (type : MediaType) (size : FrameSize) : MediaType :=
  type.set .frameSize (.size size)

/-- An audio stream with channel count and sample rate. -/
def audio (coding : Coding) (channels rate : UInt32) : MediaType :=
  ((bare .audio coding).set .channelCount (.u32 channels)).set .sampleRate (.u32 rate)

/-- A video stream with a frame size. -/
def video (coding : Coding) (size : FrameSize) : MediaType :=
  (bare .video coding).withFrameSize size

@[simp] theorem get?_set (type : MediaType) (key other : AttributeKey) (value : AttributeValue) :
    (type.set key value).get? other = if other = key then some value else type.get? other := rfl

@[simp] theorem frameSize?_withFrameSize (type : MediaType) (size : FrameSize) :
    (type.withFrameSize size).frameSize? = some size := rfl

/-- What a stream is called in messages: kind and coding, then channel count and sample rate of an
audio stream if it has both, or the frame size of a video stream if it has one. -/
def label (type : MediaType) : String :=
  let stream := s!"{type.kind.label}/{type.coding.name}"
  match type.kind with
  | .audio =>
    match type.u32? .channelCount, type.u32? .sampleRate with
    | some channels, some rate => s!"{stream} {channels.toNat}ch {rate.toNat}Hz"
    | _, _ => stream
  | .video =>
    match type.frameSize? with
    | some size => s!"{stream} {size.label}"
    | none => stream

end MediaType

end StreamDecode
