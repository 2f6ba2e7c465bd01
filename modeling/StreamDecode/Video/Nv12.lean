import StreamDecode.Video.Image

/-!
# Conversion to NV12

NV12 is a plane of luma bytes followed by a plane of chroma pairs, one pair for each block of two by
two pixels, both tightly packed. `Nv12.luma?` and `Nv12.chroma?` say what each byte is, pixel by
pixel and block by block; `Nv12.convert` checks the sizes and the image and tabulates them.

Colours follow BT.601 with coefficients in units of 1/256:
`Y = 77 R + 150 G + 29 B`, `Cb = -43 R - 85 G + 128 B + 128`, `Cr = 128 R - 107 G - 21 B + 128`.
-/

namespace StreamDecode.Nv12

/-- The formats that can be converted. -/
def isSource : PixelFormat → Bool
  | .unspecified => false
  | _ => true

def lumaBytes (size : FrameSize) : Nat := size.width.toNat * size.height.toNat

/-- The bytes of a row of the chroma plane. -/
def chromaRowBytes (size : FrameSize) : Nat := 2 * halfUp size.width.toNat

def chromaBytes (size : FrameSize) : Nat := chromaRowBytes size * halfUp size.height.toNat

/-! ### Colours -/

/-- Red, green and blue. -/
structure Colour where
  red : Int
  green : Int
  blue : Int
deriving DecidableEq, Repr

/-- A number clamped to a byte. -/
def clampByte (n : Int) : UInt8 := UInt8.ofNat (max 0 (min 255 n)).toNat

namespace Colour

/-- A sum of products with coefficients in units of 1/256, rounded. -/
def weigh (colour : Colour) (red green blue : Int) : Int :=
  (red * colour.red + green * colour.green + blue * colour.blue + 128) / 256

def luma (colour : Colour) : UInt8 := clampByte (colour.weigh 77 150 29)

def cb (colour : Colour) : UInt8 := clampByte (colour.weigh (-43) (-85) 128 + 128)

def cr (colour : Colour) : UInt8 := clampByte (colour.weigh 128 (-107) (-21) + 128)

/-- The mean of one part of colours, truncated. -/
def meanOf (part : Colour → Int) (colours : List Colour) : Int :=
  colours.foldl (fun total colour => total + part colour) 0 / colours.length

def mean (colours : List Colour) : Colour :=
  ⟨meanOf red colours, meanOf green colours, meanOf blue colours⟩

end Colour

/-- The mean of bytes, rounded to the nearest, halves upwards. -/
def meanByte (bytes : List UInt8) : UInt8 :=
  UInt8.ofNat
    ((bytes.foldl (fun total byte => total + byte.toNat) 0 + bytes.length / 2) / bytes.length)

/-! ### Pixels and blocks -/

/-- The colour of a pixel of an RGB image. -/
def colourAt? (image : Image) (row column : Nat) : Option Colour := do
  let red ← image.byte? 0 row (3 * column)
  let green ← image.byte? 0 row (3 * column + 1)
  let blue ← image.byte? 0 row (3 * column + 2)
  some ⟨red.toNat, green.toNat, blue.toNat⟩

/-- The pixels of a block of two by two that lie in the image, as rows and columns. -/
def blockPixels (image : Image) (blockRow blockColumn : Nat) : List (Nat × Nat) :=
  ([2 * blockRow, 2 * blockRow + 1].filter (· < image.height)).flatMap fun row =>
    ([2 * blockColumn, 2 * blockColumn + 1].filter (· < image.width)).map fun column =>
      (row, column)

def luma? (image : Image) (row column : Nat) : Option UInt8 :=
  match image.format with
  | .rgb24 => (colourAt? image row column).map Colour.luma
  | _ => image.byte? 0 row column

/-- The mean of a plane over the pixels of a block. -/
def blockMean? (image : Image) (plane blockRow blockColumn : Nat) : Option UInt8 :=
  ((blockPixels image blockRow blockColumn).mapM fun (row, column) =>
    image.byte? plane row column).map meanByte

/-- The mean colour of a block. -/
def blockColour? (image : Image) (blockRow blockColumn : Nat) : Option Colour :=
  ((blockPixels image blockRow blockColumn).mapM fun (row, column) =>
    colourAt? image row column).map Colour.mean

/-- The mean of a plane with full vertical resolution over the two rows of a block; below the image
the last row counts again. -/
def rowPairMean? (image : Image) (plane blockRow blockColumn : Nat) : Option UInt8 := do
  let upper ← image.byte? plane (2 * blockRow) blockColumn
  let lower ← image.byte? plane (min (2 * blockRow + 1) (image.height - 1)) blockColumn
  some (meanByte [upper, lower])

/-- A pair of chroma bytes. -/
def pair? (first second : Option UInt8) : Option (UInt8 × UInt8) := do
  some (← first, ← second)

/-- The chroma pair of a block. -/
def chroma? (image : Image) (blockRow blockColumn : Nat) : Option (UInt8 × UInt8) :=
  match image.format with
  | .yuv420p =>
    pair? (image.byte? 1 blockRow blockColumn) (image.byte? 2 blockRow blockColumn)
  | .yuv422p =>
    pair? (rowPairMean? image 1 blockRow blockColumn) (rowPairMean? image 2 blockRow blockColumn)
  | .yuv444p =>
    pair? (blockMean? image 1 blockRow blockColumn) (blockMean? image 2 blockRow blockColumn)
  | .nv12 =>
    pair? (image.byte? 1 blockRow (2 * blockColumn)) (image.byte? 1 blockRow (2 * blockColumn + 1))
  | .nv21 =>
    pair? (image.byte? 1 blockRow (2 * blockColumn + 1)) (image.byte? 1 blockRow (2 * blockColumn))
  | .gray8 => some (128, 128)
  | .rgb24 => (blockColour? image blockRow blockColumn).map fun colour => (colour.cb, colour.cr)
  | .unspecified => none

/-! ### Whole planes -/

/-- The two planes of an NV12 image. -/
structure Planes where
  luma : Bytes
  chroma : Bytes
deriving DecidableEq

/-- The byte of the luma plane at a position. -/
def lumaByte? (image : Image) (position : Nat) : Option UInt8 :=
  luma? image (position / image.width) (position % image.width)

/-- The byte of the chroma plane at a position: the first byte of a pair at even positions. -/
def chromaByte? (image : Image) (position : Nat) : Option UInt8 :=
  let row := position / chromaRowBytes image.size
  let offset := position % chromaRowBytes image.size
  (chroma? image row (offset / 2)).map fun pair => if offset % 2 = 0 then pair.1 else pair.2

/-- The planes of an image that holds all its rows. -/
def planes? (image : Image) : Option Planes := do
  let luma ← Bytes.tabulate? (lumaBytes image.size) (lumaByte? image)
  let chroma ← Bytes.tabulate? (chromaBytes image.size) (chromaByte? image)
  some ⟨luma, chroma⟩

/-- Converts an image for planes of the given lengths. -/
def convert (image : Image) (lumaLength chromaLength : Nat) : Except MediaError Planes :=
  if lumaLength ≠ lumaBytes image.size ∨ chromaLength ≠ chromaBytes image.size then
    .error (.invalidArgument (.nv12PlaneSizes lumaLength chromaLength image.size))
  else if !isSource image.format then
    .error (.unsupported (.pixelConversion image.format .nv12))
  else
    match image.check with
    | .error error => .error error
    | .ok () =>
      match planes? image with
      | some planes => .ok planes
      | none => .error (.internal .pixelNotReadable)

/-- Converts an image into planes, which keep their bytes on failure. -/
def convertInto (image : Image) (target : Planes) : Except MediaError Unit × Planes :=
  match convert image target.luma.size target.chroma.size with
  | .ok planes => (.ok (), planes)
  | .error error => (.error error, target)

end StreamDecode.Nv12
