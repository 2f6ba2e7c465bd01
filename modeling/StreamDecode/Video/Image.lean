import StreamDecode.Bytes
import StreamDecode.Error

/-!
# Images in memory

An `Image` is a pixel format and a size with planes and their strides. `Image.check` refuses one
whose planes do not hold all rows; `Image.byte?` reads one byte of a row.
-/

namespace StreamDecode

/-- An image with its planes; a stride is the distance in bytes between the rows of a plane. -/
structure Image where
  format : PixelFormat
  size : FrameSize
  planes : List Bytes
  strides : List Nat
deriving DecidableEq

namespace Image

def width (image : Image) : Nat := image.size.width.toNat

def height (image : Image) : Nat := image.size.height.toNat

/-- The byte of a plane at a row and a byte offset in it. -/
def byte? (image : Image) (plane row offset : Nat) : Option UInt8 := do
  let bytes ← image.planes[plane]?
  let stride ← image.strides[plane]?
  bytes[row * stride + offset]?

/-- Whether a plane of a given length and stride holds its rows; the last row may end early. -/
def planeCovers (length stride rowBytes rows : Nat) : Bool :=
  rows = 0 || (rowBytes ≤ stride && stride * (rows - 1) + rowBytes ≤ length)

/-- What is wrong with a plane, if anything is. -/
def planeFault? (image : Image) (plane : Nat) : Option DataFault :=
  let rowBytes := (image.format.rowBytes? plane image.width).getD 0
  let rows := (image.format.rows? plane image.height).getD 0
  let length := (image.planes[plane]?.map Array.size).getD 0
  let stride := image.strides[plane]?.getD 0
  if planeCovers length stride rowBytes rows then none
  else some (.planeTooShort plane length stride rows)

/-- Refuses an image without all planes of its format, or with a plane that is too short; the first
such plane is named. -/
def check (image : Image) : Except MediaError Unit :=
  let expected := image.format.planeCount
  if image.planes.length < expected ∨ image.strides.length < expected then
    .error (.invalidData (.planesMissing image.format expected image.planes.length))
  else
    match (List.range expected).findSome? image.planeFault? with
    | some fault => .error (.invalidData fault)
    | none => .ok ()

end Image

end StreamDecode
