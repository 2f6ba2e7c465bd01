/-!
# Pixel formats

Eight-bit image formats and the geometry of their planes: bytes a row (`PixelFormat.rowBytes?`),
rows (`PixelFormat.rows?`) and bytes of a tightly packed image (`PixelFormat.imageBytes?`). A
chroma plane of an odd width or height is rounded up.
-/

namespace StreamDecode

/-- Width and height of an image, in pixels. -/
structure FrameSize where
  width : UInt32
  height : UInt32
deriving DecidableEq, Repr

namespace FrameSize

def isEmpty (size : FrameSize) : Bool := size.width = 0 || size.height = 0

/-- The written form `width x height` without blanks. -/
def label (size : FrameSize) : String := s!"{size.width.toNat}x{size.height.toNat}"

end FrameSize

/-- The layout of an image in memory. -/
inductive PixelFormat where
  | unspecified
  | yuv420p
  | yuv422p
  | yuv444p
  | nv12
  | nv21
  | rgb24
  | gray8
deriving DecidableEq, Repr

/-- Half of `n`, rounded up. -/
def halfUp (n : Nat) : Nat := (n + 1) / 2

namespace PixelFormat

/-- How often width and height are halved for the chroma planes. -/
def subsampling : PixelFormat → Nat × Nat
  | .yuv420p | .nv12 | .nv21 => (1, 1)
  | .yuv422p => (1, 0)
  | _ => (0, 0)

def planeCount : PixelFormat → Nat
  | .unspecified => 0
  | .yuv420p | .yuv422p | .yuv444p => 3
  | .nv12 | .nv21 => 2
  | .rgb24 | .gray8 => 1

/-- The bytes of one row of a plane; none if there is no such plane. -/
def rowBytes? (format : PixelFormat) (plane width : Nat) : Option Nat :=
  match format, plane with
  | .yuv420p, 0 | .yuv422p, 0 | .yuv444p, 0 | .nv12, 0 | .nv21, 0 | .gray8, 0 => some width
  | .yuv420p, 1 | .yuv420p, 2 | .yuv422p, 1 | .yuv422p, 2 => some (halfUp width)
  | .yuv444p, 1 | .yuv444p, 2 => some width
  | .nv12, 1 | .nv21, 1 => some (2 * halfUp width)
  | .rgb24, 0 => some (3 * width)
  | _, _ => none

/-- The rows of a plane; none if there is no such plane. -/
def rows? (format : PixelFormat) (plane height : Nat) : Option Nat :=
  match format, plane with
  | .yuv420p, 0 | .yuv422p, 0 | .yuv444p, 0 | .nv12, 0 | .nv21, 0 | .rgb24, 0 | .gray8, 0 =>
    some height
  | .yuv420p, 1 | .yuv420p, 2 | .nv12, 1 | .nv21, 1 => some (halfUp height)
  | .yuv422p, 1 | .yuv422p, 2 | .yuv444p, 1 | .yuv444p, 2 => some height
  | _, _ => none

/-- Row bytes and rows of each plane of an image. -/
def planes (format : PixelFormat) (size : FrameSize) : List (Nat × Nat) :=
  (List.range format.planeCount).filterMap fun plane =>
    match format.rowBytes? plane size.width.toNat, format.rows? plane size.height.toNat with
    | some rowBytes, some rows => some (rowBytes, rows)
    | _, _ => none

/-- The bytes of a tightly packed image, counted in a word of 64 bits, which wraps around; none if
the format is not specified. -/
def imageBytes? (format : PixelFormat) (size : FrameSize) : Option Nat :=
  match format with
  | .unspecified => none
  | _ =>
    let length : UInt64 := (format.planes size).foldl
      (fun total (rowBytes, rows) => total + rowBytes.toUInt64 * rows.toUInt64) 0
    some length.toNat

/-- The number of bytes of all rows of a tightly packed image. -/
def imageLength (format : PixelFormat) (size : FrameSize) : Nat :=
  (format.planes size).foldl (fun total (rowBytes, rows) => total + rowBytes * rows) 0

theorem toNat_foldl (planes : List (Nat × Nat)) {word : UInt64} {length : Nat}
    (h : word.toNat = length % UInt64.size) :
    (planes.foldl (fun total (rowBytes, rows) =>
        total + rowBytes.toUInt64 * rows.toUInt64) word).toNat =
      planes.foldl (fun total (rowBytes, rows) => total + rowBytes * rows) length %
        UInt64.size := by
  induction planes generalizing word length with
  | nil => exact h
  | cons plane rest ih =>
    refine ih ?_
    simp [h, UInt64.size]

theorem imageBytes?_eq {format : PixelFormat} (h : format ≠ .unspecified) (size : FrameSize) :
    format.imageBytes? size = some (format.imageLength size % UInt64.size) := by
  have hlength := toNat_foldl (format.planes size) (show (0 : UInt64).toNat = 0 % _ from rfl)
  cases format with
  | unspecified => exact absurd rfl h
  | _ => exact congrArg some hlength

def name : PixelFormat → String
  | .unspecified => "none"
  | .yuv420p => "yuv420p"
  | .yuv422p => "yuv422p"
  | .yuv444p => "yuv444p"
  | .nv12 => "nv12"
  | .nv21 => "nv21"
  | .rgb24 => "rgb24"
  | .gray8 => "gray8"

def all : List PixelFormat :=
  [.unspecified, .yuv420p, .yuv422p, .yuv444p, .nv12, .nv21, .rgb24, .gray8]

theorem isSome_rowBytes? (format : PixelFormat) (plane width : Nat) :
    (format.rowBytes? plane width).isSome = decide (plane < format.planeCount) := by
  cases format <;> rcases plane with _ | _ | _ | plane <;> simp [rowBytes?, planeCount] <;>
    exact decide_eq_false (by omega)

theorem isSome_rows? (format : PixelFormat) (plane height : Nat) :
    (format.rows? plane height).isSome = decide (plane < format.planeCount) := by
  cases format <;> rcases plane with _ | _ | _ | plane <;> simp [rows?, planeCount] <;>
    exact decide_eq_false (by omega)

end PixelFormat

end StreamDecode
