import StreamDecode.Allocation
import StreamDecode.CodecSettings
import StreamDecode.Frame
import StreamDecode.Video.Conversion

/-!
# Rendering video

A `VideoRenderer` turns video frames of any supported format into tightly packed NV12 at the size
that the engine reports. It keeps the conversion as long as size and format stay the same, and its
buffer as long as the length does.
-/

namespace StreamDecode

/-- The state of a video renderer: what it keeps from the last frame, and how many conversions it
has set up. -/
structure VideoRenderer where
  conversion : Option Nv12Conversion
  buffer : Bytes
  rebuilds : Nat
deriving DecidableEq

namespace VideoRenderer

def new : VideoRenderer := ⟨none, #[], 0⟩

/-- A buffer of a given length: the kept one if it has that length. -/
def bufferOf (renderer : VideoRenderer) (length : Nat) : Except MediaError Bytes :=
  if renderer.buffer.size = length then .ok renderer.buffer
  else allocate length "NV12 输出缓冲区"

/-- The renderer with a new conversion for a size and a format. -/
def rebuild (renderer : VideoRenderer) (size : FrameSize) (format : PixelFormat) :
    Except MediaError (Nv12Conversion × VideoRenderer) := do
  let conversion ← Nv12Conversion.create size format .nv12
  let buffer ← renderer.bufferOf conversion.outputBytes
  .ok (conversion,
    { conversion := some conversion, buffer := buffer, rebuilds := renderer.rebuilds + 1 })

/-- The conversion for a size and a format with the renderer that keeps it: the kept one if it fits,
else a new one. -/
def withConversion (renderer : VideoRenderer) (size : FrameSize) (format : PixelFormat) :
    Except MediaError (Nv12Conversion × VideoRenderer) :=
  match renderer.conversion.filter (·.fits size format) with
  | some conversion => .ok (conversion, renderer)
  | none => renderer.rebuild size format

/-- The size of the frames that the engine reports, or that of the frame if it reports none. -/
def sourceSize (params : StreamParams) (frame : VideoFrame) : FrameSize :=
  ((params.video?.map VideoParams.size).filter (!·.isEmpty)).getD frame.size

/-- The format of the frames that the engine reports, or that of the frame if it reports none. -/
def sourceFormat (params : StreamParams) (frame : VideoFrame) : PixelFormat :=
  ((params.video?.map VideoParams.format).filter (· ≠ .unspecified)).getD frame.format

/-- Prepares for a new stream. The conversion is set up at once if the engine knows size and format
already. -/
def prepare (renderer : VideoRenderer) (params : StreamParams) (output : MediaType) :
    Except MediaError Unit × VideoRenderer :=
  if output.coding ≠ .nv12 then
    (.error (.invalidMediaType (.videoOutput output.coding)), renderer)
  else
    let cleared := { renderer with conversion := none }
    match params.video?.filter fun video => video.format ≠ .unspecified && !video.size.isEmpty with
    | none => (.ok (), cleared)
    | some video =>
      match cleared.rebuild video.size video.format with
      | .ok (_, renderer) => (.ok (), renderer)
      | .error error => (.error error, cleared)

def render (renderer : VideoRenderer) (params : StreamParams) :
    Frame → Except MediaError Bytes × VideoRenderer
  | .audio _ => (.error (.invalidData .audioFrameForVideo), renderer)
  | .video frame =>
    let size := sourceSize params frame
    if frame.size ≠ size then (.error (.invalidData (.frameSize frame.size size)), renderer)
    else
      match renderer.withConversion size (sourceFormat params frame) with
      | .error error => (.error error, renderer)
      | .ok (conversion, renderer) =>
        match conversion.convertInto frame.planes frame.strides renderer.buffer with
        | (result, buffer) => (result.map fun _ => buffer, { renderer with buffer := buffer })

end VideoRenderer

end StreamDecode
