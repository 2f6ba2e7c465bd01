import Mathlib.Tactic.ByContra
import StreamDecode.Video.Image

/-!
# Images that hold their rows

An image holds its rows if it has all planes of its format with their strides, and each plane with
rows is long enough: a row is not longer than the stride, and the last row ends within the plane,
with or without padding behind it. `check_eq_ok_iff` says that this is what `Image.check` asks for,
and `exists_byte?` that every byte of a row can then be read.

What an image shows is in the rows alone. `SameRows` is for two images that show the same, whatever
their strides, their padding and the planes beyond those of the format.
-/

namespace StreamDecode

namespace Image

/-- Whether a plane or a stride of the format is missing. -/
def LacksPlanes (image : Image) : Prop :=
  image.planes.length < image.format.planeCount ∨ image.strides.length < image.format.planeCount

/-- Whether a plane of the format has rows, and a row is longer than the stride or the last row goes
beyond the end of the plane. -/
def LacksRows (image : Image) (plane : Nat) : Prop :=
  ∃ bytes stride rowBytes rows,
    image.planes[plane]? = some bytes ∧ image.strides[plane]? = some stride ∧
    image.format.rowBytes? plane image.width = some rowBytes ∧
    image.format.rows? plane image.height = some rows ∧
    0 < rows ∧ (stride < rowBytes ∨ bytes.size < stride * (rows - 1) + rowBytes)

/-- Whether an image has all planes of its format with all their rows. -/
structure HoldsRows (image : Image) : Prop where
  planes : ¬ image.LacksPlanes
  rows : ∀ plane, ¬ image.LacksRows plane

variable {image : Image} {plane : Nat}

theorem not_holdsRows_iff :
    ¬ image.HoldsRows ↔ image.LacksPlanes ∨ ∃ plane, image.LacksRows plane := by
  constructor
  · intro h
    by_contra hn
    obtain ⟨hplanes, hrows⟩ := not_or.mp hn
    exact h ⟨hplanes, not_exists.mp hrows⟩
  · rintro (h | ⟨plane, h⟩) ⟨hplanes, hrows⟩
    · exact hplanes h
    · exact hrows plane h

theorem exists_rows (image : Image) (h : plane < image.format.planeCount) :
    ∃ rowBytes rows, image.format.rowBytes? plane image.width = some rowBytes ∧
      image.format.rows? plane image.height = some rows := by
  have hbytes := image.format.isSome_rowBytes? plane image.width
  have hrows := image.format.isSome_rows? plane image.height
  rw [decide_eq_true h, Option.isSome_iff_exists] at hbytes hrows
  obtain ⟨rowBytes, hbytes⟩ := hbytes
  obtain ⟨rows, hrows⟩ := hrows
  exact ⟨rowBytes, rows, hbytes, hrows⟩

theorem lt_planeCount_of_rows? {rows : Nat}
    (h : image.format.rows? plane image.height = some rows) : plane < image.format.planeCount := by
  have hrows := image.format.isSome_rows? plane image.height
  rw [h] at hrows
  exact of_decide_eq_true hrows.symm

theorem exists_plane (h : ¬ image.LacksPlanes) (hplane : plane < image.format.planeCount) :
    ∃ bytes stride, image.planes[plane]? = some bytes ∧ image.strides[plane]? = some stride := by
  unfold LacksPlanes at h
  exact ⟨_, _, List.getElem?_eq_getElem (by omega), List.getElem?_eq_getElem (by omega)⟩

/-! ## The check -/

theorem planeCovers_iff {length stride rowBytes rows : Nat} :
    planeCovers length stride rowBytes rows = true ↔
      ¬ (0 < rows ∧ (stride < rowBytes ∨ length < stride * (rows - 1) + rowBytes)) := by
  unfold planeCovers
  simp only [Bool.or_eq_true, Bool.and_eq_true, decide_eq_true_eq]
  omega

theorem planeFault?_eq_none_iff (h : ¬ image.LacksPlanes)
    (hplane : plane < image.format.planeCount) :
    image.planeFault? plane = none ↔ ¬ image.LacksRows plane := by
  obtain ⟨bytes, stride, hbytes, hstride⟩ := exists_plane h hplane
  obtain ⟨rowBytes, rows, hrowBytes, hrows⟩ := image.exists_rows hplane
  unfold planeFault? LacksRows
  simp [hbytes, hstride, hrowBytes, hrows, planeCovers_iff]

theorem not_lacksRows_of_le (h : image.format.planeCount ≤ plane) : ¬ image.LacksRows plane := by
  rintro ⟨bytes, stride, rowBytes, rows, -, -, -, hrows, -⟩
  exact absurd (lt_planeCount_of_rows? hrows) (Nat.not_lt.mpr h)

/-- What a fault says of an image: how many planes it has of those that its format has, or which is
the first plane that lacks rows, with its length and stride and the rows that it should have. -/
def Explains (image : Image) : DataFault → Prop
  | .planesMissing format expected actual =>
    image.LacksPlanes ∧ format = image.format ∧ expected = image.format.planeCount ∧
      actual = image.planes.length
  | .planeTooShort plane length stride rows =>
    ¬ image.LacksPlanes ∧ image.LacksRows plane ∧ (∀ before < plane, ¬ image.LacksRows before) ∧
      image.planes[plane]?.map Array.size = some length ∧ image.strides[plane]? = some stride ∧
      image.format.rows? plane image.height = some rows
  | _ => False

theorem not_holdsRows_of_explains {fault : DataFault} (h : image.Explains fault) :
    ¬ image.HoldsRows := by
  rintro ⟨hplanes, hrows⟩
  cases fault with
  | planesMissing format expected actual => exact hplanes h.1
  | planeTooShort plane length stride rows => exact hrows plane h.2.1
  | _ => exact h

/-- The fault that is found first names the first plane that lacks rows. -/
theorem explains_of_findSome? (h : ¬ image.LacksPlanes) {fault : DataFault}
    (hf : (List.range image.format.planeCount).findSome? image.planeFault? = some fault) :
    image.Explains fault := by
  obtain ⟨before, plane, behind, hrange, hfault, hnone⟩ := List.findSome?_eq_some_iff.mp hf
  have hplane : plane < image.format.planeCount := by
    rw [← List.mem_range, hrange]
    simp
  have hbefore : ∀ other < plane, other ∈ before := by
    rw [List.range_eq_range', List.range'_eq_append_iff] at hrange
    obtain ⟨count, -, rfl, hbehind⟩ := hrange
    obtain ⟨rfl, -⟩ := List.range'_eq_cons_iff.mp hbehind.symm
    intro other hother
    rw [List.mem_range'_1]
    omega
  have hlacks : image.LacksRows plane := by
    by_contra hn
    rw [(planeFault?_eq_none_iff h hplane).mpr hn] at hfault
    cases hfault
  obtain ⟨bytes, stride, hbytes, hstride⟩ := exists_plane h hplane
  obtain ⟨rowBytes, rows, hrowBytes, hrows⟩ := image.exists_rows hplane
  unfold planeFault? at hfault
  dsimp only at hfault
  split at hfault
  · cases hfault
  · cases hfault
    refine ⟨h, hlacks, ?_, by simp [hbytes], by simp [hstride], by simp [hrows]⟩
    intro other hother
    exact (planeFault?_eq_none_iff h (Nat.lt_trans hother hplane)).mp (hnone other (hbefore other hother))

/-- The check passes the images that hold their rows, and says what is wrong with the others. -/
theorem check_cases (image : Image) :
    image.HoldsRows ∧ image.check = .ok () ∨
      ∃ fault, image.Explains fault ∧ image.check = .error (.invalidData fault) := by
  unfold check
  dsimp only
  by_cases hlacks : image.planes.length < image.format.planeCount ∨
      image.strides.length < image.format.planeCount
  · rw [if_pos hlacks]
    exact Or.inr ⟨.planesMissing .., ⟨hlacks, rfl, rfl, rfl⟩, rfl⟩
  · rw [if_neg hlacks]
    cases hfault : (List.range image.format.planeCount).findSome? image.planeFault? with
    | none =>
      rw [List.findSome?_eq_none_iff] at hfault
      refine Or.inl ⟨⟨hlacks, fun plane => ?_⟩, rfl⟩
      by_cases hplane : plane < image.format.planeCount
      · exact (planeFault?_eq_none_iff hlacks hplane).mp (hfault plane (List.mem_range.mpr hplane))
      · exact not_lacksRows_of_le (Nat.not_lt.mp hplane)
    | some fault => exact Or.inr ⟨fault, explains_of_findSome? hlacks hfault, rfl⟩

/-! ## Reading rows -/

/-- Whether an offset is within a row of a plane of the format. -/
def InRows (image : Image) (plane row offset : Nat) : Prop :=
  ∃ rowBytes rows, image.format.rowBytes? plane image.width = some rowBytes ∧
    image.format.rows? plane image.height = some rows ∧ row < rows ∧ offset < rowBytes

theorem exists_byte? (h : image.HoldsRows) {row offset : Nat} (hin : image.InRows plane row offset) :
    ∃ byte, image.byte? plane row offset = some byte := by
  obtain ⟨rowBytes, rows, hrowBytes, hrows, hrow, hoffset⟩ := hin
  obtain ⟨bytes, stride, hbytes, hstride⟩ := exists_plane h.planes (lt_planeCount_of_rows? hrows)
  have hcovered : stride * (rows - 1) + rowBytes ≤ bytes.size := by
    by_contra hn
    exact h.rows plane ⟨bytes, stride, rowBytes, rows, hbytes, hstride, hrowBytes, hrows,
      Nat.zero_lt_of_lt hrow, Or.inr (Nat.not_le.mp hn)⟩
  have hbefore : row * stride ≤ stride * (rows - 1) := by
    rw [Nat.mul_comm]
    exact Nat.mul_le_mul_left stride (Nat.le_sub_one_of_lt hrow)
  unfold byte?
  rw [hbytes, hstride]
  exact ⟨_, Array.getElem?_eq_getElem (show row * stride + offset < bytes.size by omega)⟩

/-- Two images of one format and size with the same bytes in every row of every plane. -/
structure SameRows (image other : Image) : Prop where
  format : image.format = other.format
  size : image.size = other.size
  bytes : ∀ plane row offset, image.InRows plane row offset →
    image.byte? plane row offset = other.byte? plane row offset

/-! ### Rows of the formats

Luma planes, planes of colours and chroma planes with their resolution: which offsets are in a row. -/

section Formats

variable {row offset : Nat}

theorem inRows_luma (hf : image.format ≠ .unspecified) (hrgb : image.format ≠ .rgb24)
    (hrow : row < image.height) (hoffset : offset < image.width) : image.InRows 0 row offset := by
  refine ⟨image.width, image.height, ?_, ?_, hrow, hoffset⟩
  all_goals
    cases hformat : image.format with
    | unspecified => exact absurd hformat hf
    | rgb24 => exact absurd hformat hrgb
    | _ => rfl

theorem inRows_colour (hf : image.format = .rgb24) {part : Nat} (hpart : part < 3)
    (hrow : row < image.height) (hoffset : offset < image.width) :
    image.InRows 0 row (3 * offset + part) :=
  ⟨3 * image.width, image.height, by rw [hf]; rfl, by rw [hf]; rfl, hrow, by omega⟩

variable (hplane : plane = 1 ∨ plane = 2)
include hplane

theorem inRows_yuv420p (hf : image.format = .yuv420p) (hrow : row < halfUp image.height)
    (hoffset : offset < halfUp image.width) : image.InRows plane row offset := by
  rcases hplane with rfl | rfl <;>
    exact ⟨_, _, by rw [hf]; rfl, by rw [hf]; rfl, hrow, hoffset⟩

theorem inRows_yuv422p (hf : image.format = .yuv422p) (hrow : row < image.height)
    (hoffset : offset < halfUp image.width) : image.InRows plane row offset := by
  rcases hplane with rfl | rfl <;>
    exact ⟨_, _, by rw [hf]; rfl, by rw [hf]; rfl, hrow, hoffset⟩

theorem inRows_yuv444p (hf : image.format = .yuv444p) (hrow : row < image.height)
    (hoffset : offset < image.width) : image.InRows plane row offset := by
  rcases hplane with rfl | rfl <;>
    exact ⟨_, _, by rw [hf]; rfl, by rw [hf]; rfl, hrow, hoffset⟩

omit hplane in
theorem inRows_pairs (hf : image.format = .nv12 ∨ image.format = .nv21)
    (hrow : row < halfUp image.height) (hoffset : offset < 2 * halfUp image.width) :
    image.InRows 1 row offset := by
  rcases hf with hf | hf <;>
    exact ⟨_, _, by rw [hf]; rfl, by rw [hf]; rfl, hrow, hoffset⟩

end Formats

end Image

end StreamDecode
