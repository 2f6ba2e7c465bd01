import StreamDecode.Allocation
import StreamDecode.Audio.Conversion
import StreamDecode.CodecSettings
import StreamDecode.Frame

/-!
# Rendering audio

An `AudioRenderer` turns audio frames of any format into interleaved 32-bit floats at the rate of
the frame. It keeps the conversion as long as rate, format and channel count stay the same, and its
buffer as long as the shape of the frames does; `AudioRenderer.conversionFor` says which conversion
a frame needs, whatever is kept.
-/

namespace StreamDecode

/-- The state of an audio renderer: what it keeps from the last frame, and how many buffers it has
had. The shape of a buffer is its number of channels and samples. -/
structure AudioRenderer where
  conversion : Option AudioConversion
  buffer : Bytes
  shape : Option (UInt32 × UInt32)
  allocations : Nat
deriving DecidableEq

namespace AudioRenderer

def new : AudioRenderer := ⟨none, #[], none, 0⟩

/-- The conversion to floats for a rate, a format and a layout. Source speakers that are not stated
are the standard ones, and the target has the standard ones for the same number of channels. -/
def conversionFor (rate : UInt32) (format : SampleFormat) (layout : ChannelLayout) :
    Except MediaError AudioConversion :=
  let source := if layout.speakers = 0 then .standard layout.channels else layout
  AudioConversion.create rate format source rate .f32 (.standard layout.channels)

/-- Whether a conversion was made for frames like this one. -/
def fits (conversion : AudioConversion) (frame : AudioFrame) : Bool :=
  conversion.rate = frame.rate && conversion.source = frame.format &&
    conversion.sourceLayout.channels = frame.layout.channels

/-- The conversion for a frame: the kept one if it fits, else a new one. -/
def conversionOf (renderer : AudioRenderer) (frame : AudioFrame) :
    Except MediaError AudioConversion :=
  match renderer.conversion.filter (fits · frame) with
  | some conversion => .ok conversion
  | none => conversionFor frame.rate frame.format frame.layout

/-- The renderer with a buffer of the given shape and length: the kept one if it has both. -/
def withBuffer (renderer : AudioRenderer) (shape : UInt32 × UInt32) (length : Nat) :
    Except MediaError AudioRenderer :=
  if renderer.shape = some shape ∧ renderer.buffer.size = length then .ok renderer
  else
    (allocate length "音频输出缓冲区").map fun buffer =>
      { renderer with
        buffer := buffer
        shape := some shape
        allocations := renderer.allocations + 1 }

/-- Prepares for a new stream. The conversion is set up at once if the engine knows its format
already. -/
def prepare (renderer : AudioRenderer) (params : StreamParams) (output : MediaType) :
    Except MediaError Unit × AudioRenderer :=
  if output.coding ≠ .float then
    (.error (.invalidMediaType (.audioOutput output.coding)), renderer)
  else
    let cleared := { renderer with conversion := none, buffer := #[], shape := none }
    match params.audio?.filter fun audio => audio.format ≠ .unspecified && 0 < audio.rate with
    | none => (.ok (), cleared)
    | some audio =>
      match conversionFor audio.rate audio.format audio.layout with
      | .ok conversion => (.ok (), { cleared with conversion := some conversion })
      | .error error => (.error error, cleared)

def render (renderer : AudioRenderer) : Frame → Except MediaError Bytes × AudioRenderer
  | .video _ => (.error (.invalidData .videoFrameForAudio), renderer)
  | .audio frame =>
    match renderer.conversionOf frame with
    | .error error => (.error error, renderer)
    | .ok conversion =>
      let renderer := { renderer with conversion := some conversion }
      match renderer.withBuffer (frame.layout.channels, frame.samples)
          (conversion.outputBytes frame.samples) with
      | .error error => (.error error, renderer)
      | .ok renderer =>
        match conversion.convertInto frame.planes frame.samples renderer.buffer with
        | (result, buffer) => (result.map fun _ => buffer, { renderer with buffer := buffer })

end AudioRenderer

end StreamDecode
