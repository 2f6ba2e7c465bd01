import StreamDecode.Error
import StreamDecode.Media.ChannelLayout
import StreamDecode.MediaType.Basic

/-!
# Negotiation of media types

The host commits an input type first and an output type after it. Both are checked without effect,
and a call that only tests stops there. After a change of the frame size a suggested output type
stands in for the derived candidates until an output type is committed.
-/

namespace StreamDecode

/-- The committed types and the suggested output type. -/
structure Negotiation where
  input : Option MediaType
  output : Option MediaType
  suggested : Option MediaType
deriving DecidableEq

namespace Negotiation

def empty : Negotiation := ⟨none, none, none⟩

/-- The codings of inputs, in the order in which they are offered. -/
def inputCodings : List Coding :=
  [.pcm, .floatPcm, .vorbis, .flac, .opus, .mp3, .aac, .i420, .h264, .hevc, .vp8, .vp9, .mpeg4,
    .theora]

/-- The coding of outputs of a kind. -/
def outputCoding : StreamKind → Coding
  | .audio => .float
  | .video => .nv12

/-- The bits of an output sample. -/
def outputBits : UInt32 := 32

/-! ### Checks -/

/-- What an input type lacks, if anything: an audio stream has a channel count and a sample rate, a
video stream a frame size. -/
def missing? (type : MediaType) : Option MediaTypeFault :=
  match type.kind with
  | .audio =>
    if type.u32? .channelCount = none then some .channelCountMissing
    else if type.u32? .sampleRate = none then some .sampleRateMissing
    else none
  | .video => if type.frameSize? = none then some .frameSizeMissing else none

/-- Refuses an input type that cannot be decoded. -/
def validateInput (type : MediaType) : Except MediaError Unit :=
  if type.coding.kind ≠ type.kind ∨ type.coding ∉ inputCodings then
    .error (.invalidMediaType (.inputNotSupported type.kind type.coding))
  else
    match missing? type with
    | some fault => .error (.invalidMediaType fault)
    | none => .ok ()

/-- Refuses an output type that does not belong to the committed input type. -/
def validateOutput (negotiation : Negotiation) (type : MediaType) : Except MediaError Unit :=
  match negotiation.input with
  | none => .error .typeNotSet
  | some input =>
    if type.kind ≠ input.kind then .error (.invalidMediaType (.outputKind type.kind input.kind))
    else if type.coding ≠ outputCoding type.kind then
      .error (.invalidMediaType (.outputNotSupported type.coding))
    else .ok ()

/-! ### Commits -/

/-- Commits or clears the input type; the answer tells whether a type was committed. -/
def setInput (negotiation : Negotiation) (type : Option MediaType) (testOnly : Bool) :
    Except MediaError (Bool × Negotiation) :=
  match type with
  | none => .ok (false, { negotiation with input := none })
  | some type =>
    match validateInput type with
    | .error error => .error error
    | .ok () =>
      if testOnly then .ok (false, negotiation)
      else .ok (true, { negotiation with input := some type })

/-- Commits or clears the output type; the answer tells whether a type was committed. A commit
clears the suggestion. -/
def setOutput (negotiation : Negotiation) (type : Option MediaType) (testOnly : Bool) :
    Except MediaError (Bool × Negotiation) :=
  if negotiation.input.isNone then .error .typeNotSet
  else
    match type with
    | none => .ok (false, { negotiation with output := none })
    | some type =>
      match negotiation.validateOutput type with
      | .error error => .error error
      | .ok () =>
        if testOnly then .ok (false, negotiation)
        else .ok (true, { negotiation with output := some type, suggested := none })

/-- Puts forward an output type. -/
def suggest (negotiation : Negotiation) (type : MediaType) : Negotiation :=
  { negotiation with suggested := some type }

/-- Clears the output type; a suggestion stays. -/
def clearOutput (negotiation : Negotiation) : Negotiation := { negotiation with output := none }

def isComplete (negotiation : Negotiation) : Bool :=
  negotiation.input.isSome && negotiation.output.isSome

/-! ### Candidates -/

/-- The float output for an audio input. -/
def audioOutput (input : MediaType) : MediaType :=
  let channels := (input.u32? .channelCount).getD 0
  let rate := (input.u32? .sampleRate).getD 0
  let blockAlign := outputBits / 8 * channels
  (MediaType.audio .float channels rate)
    |>.set .bitsPerSample (.u32 outputBits)
    |>.set .validBitsPerSample (.u32 outputBits)
    |>.set .channelMask (.u32 (ChannelLayout.standard channels).speakers)
    |>.set .avgBytesPerSecond (.u32 (blockAlign * rate))
    |>.set .blockAlignment (.u32 blockAlign)
    |>.set .allSamplesIndependent (.u32 1)

/-- The attributes that a video output has in common with its input. -/
def sharedVideoKeys : List AttributeKey := [.avgBitrate, .videoRotation, .frameRate, .frameSize]

/-- The NV12 output for a video input. -/
def videoOutput (input : MediaType) : MediaType where
  kind := .video
  coding := .nv12
  attributes := ⟨fun key => if key ∈ sharedVideoKeys then input.get? key else none⟩

/-- The output that is derived from an input type. -/
def derivedOutput (input : MediaType) : MediaType :=
  match input.kind with
  | .audio => audioOutput input
  | .video => videoOutput input

/-- The input type that is offered at an index. -/
def inputCandidate (index : Nat) : Except MediaError MediaType :=
  match inputCodings[index]? with
  | some coding => .ok (.bare coding.kind coding)
  | none => .error .noMoreTypes

/-- The output type that is offered at an index: the suggestion at every index, or the derived type
at the first one. -/
def outputCandidate (negotiation : Negotiation) (index : Nat) : Except MediaError MediaType :=
  match negotiation.input, negotiation.suggested with
  | none, _ => .error .typeNotSet
  | some _, some suggested => .ok suggested
  | some input, none => if index = 0 then .ok (derivedOutput input) else .error .noMoreTypes

end Negotiation

end StreamDecode
