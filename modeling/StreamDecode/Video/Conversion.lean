import StreamDecode.Video.Nv12

/-!
# Video conversion

An `Nv12Conversion` is set up for one size and source format and then converts frame after frame
into a buffer that holds luma and chroma plane one after the other.
-/

namespace StreamDecode

/-- A conversion of images of one size and format to NV12. -/
structure Nv12Conversion where
  size : FrameSize
  source : PixelFormat
deriving DecidableEq, Repr

namespace Nv12Conversion

/-- Whether images of one format can be converted to another one. -/
def isSupported (source target : PixelFormat) : Bool := target = .nv12 && Nv12.isSource source

/-- The conversion for a size and two formats; the image must have pixels and the target must be
NV12. -/
def create (size : FrameSize) (source target : PixelFormat) : Except MediaError Nv12Conversion :=
  if size.isEmpty then .error (.invalidArgument (.emptyImage size))
  else if !isSupported source target then
    .error (.unsupported (.pixelConversion source target))
  else .ok ⟨size, source⟩

/-- The number of bytes of a converted image. -/
def outputBytes (conversion : Nv12Conversion) : Nat :=
  (PixelFormat.nv12.imageBytes? conversion.size).getD 0

/-- Whether the conversion was set up for a size and a format. -/
def fits (conversion : Nv12Conversion) (size : FrameSize) (source : PixelFormat) : Bool :=
  conversion.size = size && conversion.source = source

/-- The image that planes make in the size and format of the conversion. -/
def image (conversion : Nv12Conversion) (planes : List Bytes) (strides : List Nat) : Image :=
  ⟨conversion.source, conversion.size, planes, strides⟩

/-- Converts planes into a buffer, which keeps its bytes on failure. -/
def convertInto (conversion : Nv12Conversion) (planes : List Bytes) (strides : List Nat)
    (buffer : Bytes) : Except MediaError Unit × Bytes :=
  if buffer.size ≠ conversion.outputBytes then
    (.error (.invalidArgument (.imageBufferSize buffer.size conversion.outputBytes)), buffer)
  else
    let lumaLength := Nv12.lumaBytes conversion.size
    let target := ⟨buffer.extract 0 lumaLength, buffer.extract lumaLength buffer.size⟩
    match Nv12.convertInto (conversion.image planes strides) target with
    | (.ok (), planes) => (.ok (), planes.luma ++ planes.chroma)
    | (.error error, _) => (.error error, buffer)

end Nv12Conversion

end StreamDecode
