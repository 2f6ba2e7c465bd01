import StreamDecode.Error
import StreamDecode.Media.ChannelLayout
import StreamDecode.MediaType.Basic
import StreamDecode.Ratio

/-!
# Codec settings

`CodecSettings` is what an engine is opened with, and `StreamParams` what it reports of its output.
`CodecSettings.ofTypes` derives the settings from a negotiated pair of media types: attributes that
are missing get their defaults, and the codec header goes through `prepare`.
-/

namespace StreamDecode

/-- Parameters of a video stream. -/
structure VideoParams where
  size : FrameSize
  format : PixelFormat
  frameRate : Ratio
  pixelAspect : Ratio
deriving DecidableEq, Repr

/-- Parameters of an audio stream; a zero frame or block size is not known. -/
structure AudioParams where
  rate : UInt32
  layout : ChannelLayout
  format : SampleFormat
  samplesPerFrame : UInt32
  blockAlign : UInt32
deriving DecidableEq, Repr

/-- Parameters of a stream. -/
inductive StreamParams where
  | video (params : VideoParams)
  | audio (params : AudioParams)
  | unknown
deriving DecidableEq, Repr

namespace StreamParams

def video? : StreamParams → Option VideoParams
  | .video params => some params
  | _ => none

def audio? : StreamParams → Option AudioParams
  | .audio params => some params
  | _ => none

end StreamParams

/-- What an engine is opened with. -/
structure CodecSettings where
  codec : Codec
  header : Bytes
  bitRate : UInt64
  params : StreamParams
deriving DecidableEq

namespace CodecSettings

/-- The sample format that a codec's packets fix; compressed formats are known only later. -/
def sampleFormatOf : Codec → SampleFormat
  | .pcmS16 => .s16
  | .pcmF32 => .f32
  | _ => .unspecified

/-- The pixel format that a codec's packets fix; compressed formats are known only later. -/
def pixelFormatOf : Codec → PixelFormat
  | .rawVideo => .yuv420p
  | _ => .unspecified

/-- A ratio of unsigned words, if both are signed words too. -/
def signedRatio? (ratio : UInt32 × UInt32) : Option Ratio :=
  if ratio.1.toNat < 0x80000000 ∧ ratio.2.toNat < 0x80000000 then
    some ⟨ratio.1.toInt32, ratio.2.toInt32⟩
  else none

/-- A positive attribute of 32 bits. -/
def positive? (type : MediaType) (key : AttributeKey) : Option UInt32 :=
  (type.u32? key).filter (0 < ·)

/-- The speakers of the output if they fit the number of channels, else the standard arrangement. -/
def layoutFor (channels : UInt32) (output : MediaType) : ChannelLayout :=
  (((output.u32? .channelMask).bind ChannelLayout.ofSpeakers?).filter
    (·.channels = channels)).getD (.standard channels)

/-- Bit rate and parameters of an audio input. -/
def audioParams (codec : Codec) (input output : MediaType) :
    Except MediaError (UInt64 × AudioParams) :=
  match positive? input .channelCount, positive? input .sampleRate with
  | none, _ => .error (.invalidMediaType .channelCountMissing)
  | some _, none => .error (.invalidMediaType .sampleRateMissing)
  | some channels, some rate =>
    .ok (((input.u64? .avgBytesPerSecond).map (· * 8)).getD 0,
      { rate := rate
        layout := layoutFor channels output
        format := sampleFormatOf codec
        samplesPerFrame := (input.u32? .samplesPerBlock).getD 0
        blockAlign := (input.u32? .blockAlignment).getD 0 })

/-- Bit rate and parameters of a video input. -/
def videoParams (codec : Codec) (input : MediaType) : Except MediaError (UInt64 × VideoParams) :=
  match input.frameSize?.filter (!·.isEmpty) with
  | none => .error (.invalidMediaType .frameSizeMissing)
  | some size =>
    .ok ((input.u64? .avgBitrate).getD 0,
      { size := size
        format := pixelFormatOf codec
        frameRate := ((input.ratio? .frameRate).bind signedRatio?).getD .undefined
        pixelAspect := ((input.ratio? .pixelAspectRatio).bind signedRatio?).getD .one })

/-- The settings for decoding `input` to `output`; `prepare` brings the codec header of a container
into the layout that engines want. -/
def ofTypes (prepare : Codec → Bytes → Except MediaError Bytes) (input output : MediaType) :
    Except MediaError CodecSettings := do
  let some codec := input.coding.codec?
    | .error (.invalidMediaType (.notDecodable input.coding))
  if codec.kind ≠ input.kind then
    .error (.invalidMediaType (.kindOfCodec codec input.kind))
  else
    let header ←
      match input.blob? .userData with
      | some header => prepare codec header
      | none => .ok #[]
    match input.kind with
    | .audio =>
      let (bitRate, params) ← audioParams codec input output
      .ok ⟨codec, header, bitRate, .audio params⟩
    | .video =>
      let (bitRate, params) ← videoParams codec input
      .ok ⟨codec, header, bitRate, .video params⟩

end CodecSettings

end StreamDecode
