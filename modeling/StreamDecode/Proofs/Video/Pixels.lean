import Mathlib.Algebra.BigOperators.Field
import Mathlib.Algebra.Order.BigOperators.Group.List
import Mathlib.Algebra.Order.Round
import Mathlib.Data.Rat.Floor
import Mathlib.Tactic.Linarith
import StreamDecode.Proofs.Video.Length
import StreamDecode.Proofs.Video.Rows

/-!
# Pixels of converted images

What an NV12 picture of an image should show is said here pixel by pixel and block by block, in
numbers and not in bytes: `lumaLevel` and `chromaLevels` take an image as a table of numbers
(`Image.level`), without strides, and means over a block as exact means over the pixels of the image
that lie in it (`blockMean`), rounded as each format asks.

`Planes.Depicts` says that two planes show just this, byte for byte. Planes that a conversion makes
do (`depicts_of_planes?`), and there is only one way to do so (`Depicts.unique`); since the numbers are
taken from the rows of the image alone (`lumaLevel_congr`, `chromaLevels_congr`), images with the
same rows have the same picture.
-/

namespace StreamDecode

namespace Image

/-- The byte of a plane at a row and an offset, `0` where there is none. -/
def byteAt (image : Image) (plane row offset : ℕ) : UInt8 := (image.byte? plane row offset).getD 0

/-- The byte of a plane at a row and an offset as a number. -/
def level (image : Image) (plane row offset : ℕ) : ℤ := (image.byteAt plane row offset).toNat

variable {image other : Image} {plane row offset : ℕ}

theorem byte?_eq_byteAt (h : image.HoldsRows) (hin : image.InRows plane row offset) :
    image.byte? plane row offset = some (image.byteAt plane row offset) := by
  obtain ⟨byte, hbyte⟩ := exists_byte? h hin
  unfold byteAt
  rw [hbyte, Option.getD_some]

theorem SameRows.level (h : image.SameRows other) (hin : image.InRows plane row offset) :
    image.level plane row offset = other.level plane row offset := by
  unfold Image.level byteAt
  rw [h.bytes plane row offset hin]

end Image

namespace Nv12

/-! ## What a picture shows -/

def clamp (n : ℤ) : ℤ := max 0 (min 255 n)

/-- The pixels of an image that lie in a block of two by two. -/
def block (image : Image) (blockRow blockColumn : ℕ) : Finset (ℕ × ℕ) :=
  (Finset.range image.height ×ˢ Finset.range image.width).filter fun pixel =>
    pixel.1 / 2 = blockRow ∧ pixel.2 / 2 = blockColumn

/-- The mean of a number over the pixels of a block. -/
def blockMean (image : Image) (blockRow blockColumn : ℕ) (number : ℕ × ℕ → ℤ) : ℚ :=
  (∑ pixel ∈ block image blockRow blockColumn, (number pixel : ℚ)) /
    (block image blockRow blockColumn).card

/-- One of the three parts of the colour of a pixel. -/
def colourPart (image : Image) (part : ℕ) (pixel : ℕ × ℕ) : ℤ :=
  image.level 0 pixel.1 (3 * pixel.2 + part)

def lumaLevel (image : Image) (row column : ℕ) : ℤ :=
  match image.format with
  | .rgb24 =>
    let red := colourPart image 0 (row, column)
    let green := colourPart image 1 (row, column)
    let blue := colourPart image 2 (row, column)
    clamp (Int.shiftRight (77 * red + 150 * green + 29 * blue + 128) 8)
  | .yuv420p | .yuv422p | .yuv444p | .nv12 | .nv21 | .gray8 => image.level 0 row column
  | .unspecified => 0

/-- The chroma of a block: the numbers of the chroma planes where they have one for a block, means
of them where they have more, and neutral or that of the mean colour where there are none. -/
def chromaLevels (image : Image) (blockRow blockColumn : ℕ) : ℤ × ℤ :=
  match image.format with
  | .yuv420p => (image.level 1 blockRow blockColumn, image.level 2 blockRow blockColumn)
  | .nv12 => (image.level 1 blockRow (2 * blockColumn), image.level 1 blockRow (2 * blockColumn + 1))
  | .nv21 => (image.level 1 blockRow (2 * blockColumn + 1), image.level 1 blockRow (2 * blockColumn))
  | .yuv422p =>
    let mean plane := ⌈((image.level plane (2 * blockRow) blockColumn +
      image.level plane (min (2 * blockRow + 1) (image.height - 1)) blockColumn : ℤ) : ℚ) / 2⌉
    (mean 1, mean 2)
  | .yuv444p =>
    let mean plane :=
      round (blockMean image blockRow blockColumn fun pixel => image.level plane pixel.1 pixel.2)
    (mean 1, mean 2)
  | .gray8 => (128, 128)
  | .rgb24 =>
    let red := ⌊blockMean image blockRow blockColumn (colourPart image 0)⌋
    let green := ⌊blockMean image blockRow blockColumn (colourPart image 1)⌋
    let blue := ⌊blockMean image blockRow blockColumn (colourPart image 2)⌋
    (clamp (Int.shiftRight (-43 * red - 85 * green + 128 * blue + 128) 8 + 128),
      clamp (Int.shiftRight (128 * red - 107 * green - 21 * blue + 128) 8 + 128))
  | .unspecified => (0, 0)

/-- The planes show an image: the luma plane has a byte for each pixel, row by row, and the chroma
plane a pair of bytes for each block. -/
structure Planes.Depicts (planes : Planes) (image : Image) : Prop where
  luma_size : planes.luma.size = image.width * image.height
  luma : ∀ row < image.height, ∀ column < image.width,
    ∃ y, planes.luma[row * image.width + column]? = some y ∧
      (y.toNat : ℤ) = lumaLevel image row column
  chroma_size : planes.chroma.size = 2 * halfUp image.width * halfUp image.height
  chroma : ∀ row < halfUp image.height, ∀ column < halfUp image.width, ∃ u v,
    planes.chroma[row * (2 * halfUp image.width) + 2 * column]? = some u ∧
    planes.chroma[row * (2 * halfUp image.width) + 2 * column + 1]? = some v ∧
    ((u.toNat : ℤ), (v.toNat : ℤ)) = chromaLevels image row column

/-! ## Bytes as numbers -/

theorem toNat_clampByte (n : ℤ) : ((clampByte n).toNat : ℤ) = clamp n := by
  unfold clampByte clamp
  have h : (max 0 (min 255 n)).toNat < 256 := by omega
  rw [UInt8.toNat_ofNat_of_lt' h]
  omega

theorem shiftRight_eight (n : ℤ) : Int.shiftRight n 8 = n / 256 := Int.shiftRight_eq_div_pow n 8

section Colour

variable (red green blue : ℤ)

theorem toNat_luma :
    ((Colour.luma ⟨red, green, blue⟩).toNat : ℤ) =
      clamp (Int.shiftRight (77 * red + 150 * green + 29 * blue + 128) 8) := by
  rw [Colour.luma, toNat_clampByte, shiftRight_eight]
  rfl

theorem toNat_cb :
    ((Colour.cb ⟨red, green, blue⟩).toNat : ℤ) =
      clamp (Int.shiftRight (-43 * red - 85 * green + 128 * blue + 128) 8 + 128) := by
  rw [Colour.cb, toNat_clampByte, shiftRight_eight]
  unfold Colour.weigh
  congr 1
  dsimp only
  omega

theorem toNat_cr :
    ((Colour.cr ⟨red, green, blue⟩).toNat : ℤ) =
      clamp (Int.shiftRight (128 * red - 107 * green - 21 * blue + 128) 8 + 128) := by
  rw [Colour.cr, toNat_clampByte, shiftRight_eight]
  unfold Colour.weigh
  congr 1
  dsimp only
  omega

end Colour

/-! ## Means -/

theorem foldl_add {α M : Type} [AddMonoid M] (number : α → M) (total : M) (items : List α) :
    items.foldl (fun total item => total + number item) total =
      total + (items.map number).sum := by
  induction items generalizing total with
  | nil => simp
  | cons item items ih => simp [ih, add_assoc]

theorem round_div (total : ℕ) {count : ℕ} (h : 0 < count) :
    round ((total : ℚ) / count) = ((total + count / 2) / count : ℕ) := by
  have hcount : (count : ℚ) ≠ 0 := by positivity
  have hhalf : (total : ℚ) / count + 1 / 2 = ((2 * total + count : ℕ) : ℚ) / (2 * count : ℕ) := by
    push_cast
    field_simp
  have hquotient : (2 * total + count) / (2 * count) = (total + count / 2) / count := by
    rw [← Nat.div_div_eq_div_mul]
    congr 1
    omega
  rw [round_eq, hhalf, Rat.floor_natCast_div_natCast, ← hquotient]
  exact (Int.natCast_ediv _ _).symm

/-- The mean of bytes is their exact mean, rounded to the nearest number and half upwards. -/
theorem toNat_meanByte {bytes : List UInt8} (h : bytes ≠ []) :
    ((meanByte bytes).toNat : ℤ) =
      round ((bytes.map fun byte => (byte.toNat : ℚ)).sum / bytes.length) := by
  have hcount : 0 < bytes.length := List.length_pos_iff.mpr h
  have hle : (bytes.map UInt8.toNat).sum ≤ bytes.length * 255 := by
    refine (List.sum_le_card_nsmul _ 255 ?_).trans_eq (by simp)
    intro n hn
    obtain ⟨byte, -, rfl⟩ := List.mem_map.mp hn
    exact Nat.le_of_lt_succ byte.toNat_lt
  have hlt : ((bytes.map UInt8.toNat).sum + bytes.length / 2) / bytes.length < 256 := by
    rw [Nat.div_lt_iff_lt_mul hcount]
    omega
  have hsum : (bytes.map fun byte => (byte.toNat : ℚ)).sum = ((bytes.map UInt8.toNat).sum : ℕ) := by
    rw [Nat.cast_list_sum, List.map_map]
    rfl
  unfold meanByte
  rw [foldl_add, zero_add, UInt8.toNat_ofNat_of_lt' hlt, hsum, round_div _ hcount]

/-- The mean of a part of colours is the exact mean, truncated. -/
theorem meanOf_eq_floor (part : Colour → ℤ) (colours : List Colour) :
    Colour.meanOf part colours =
      ⌊(colours.map fun colour => (part colour : ℚ)).sum / colours.length⌋ := by
  have hsum : (colours.map fun colour => (part colour : ℚ)).sum =
      ((colours.map part).sum : ℤ) := by
    rw [Int.cast_list_sum, List.map_map]
    rfl
  unfold Colour.meanOf
  rw [foldl_add, zero_add, hsum, Rat.floor_intCast_div_natCast]

theorem ceil_half (n : ℕ) : ⌈((n : ℤ) : ℚ) / 2⌉ = ((n + 1) / 2 : ℕ) := by
  have hlower : ((2 * ((n + 1) / 2) : ℕ) : ℚ) < (n + 2 : ℕ) := by
    rw [Nat.cast_lt]
    omega
  have hupper : (n : ℚ) ≤ (2 * ((n + 1) / 2) : ℕ) := by
    rw [Nat.cast_le]
    omega
  push_cast at hlower hupper
  rw [Int.ceil_eq_iff, Int.cast_natCast, Int.cast_natCast]
  constructor <;> linarith

/-! ## Blocks -/

theorem mem_blockPixels {image : Image} {blockRow blockColumn : ℕ} {pixel : ℕ × ℕ} :
    pixel ∈ blockPixels image blockRow blockColumn ↔ pixel ∈ block image blockRow blockColumn := by
  obtain ⟨row, column⟩ := pixel
  simp only [blockPixels, block, List.mem_flatMap, List.mem_map, List.mem_filter, List.mem_cons,
    List.not_mem_nil, or_false, decide_eq_true_eq, Prod.mk.injEq, Finset.mem_filter,
    Finset.mem_product, Finset.mem_range]
  constructor
  · rintro ⟨row, ⟨rfl | rfl, hrow⟩, column, ⟨rfl | rfl, hcolumn⟩, rfl, rfl⟩ <;> omega
  · rintro ⟨⟨hrow, hcolumn⟩, rfl, rfl⟩
    exact ⟨row, ⟨by omega, hrow⟩, column, ⟨by omega, hcolumn⟩, rfl, rfl⟩

theorem nodup_blockPixels (image : Image) (blockRow blockColumn : ℕ) :
    (blockPixels image blockRow blockColumn).Nodup := by
  have hpair (n : ℕ) : [2 * n, 2 * n + 1].Nodup := by simp
  exact ((hpair blockRow).filter _).product ((hpair blockColumn).filter _)

theorem blockMean_eq (image : Image) (blockRow blockColumn : ℕ) (number : ℕ × ℕ → ℤ) :
    blockMean image blockRow blockColumn number =
      ((blockPixels image blockRow blockColumn).map fun pixel => (number pixel : ℚ)).sum /
        (blockPixels image blockRow blockColumn).length := by
  have hblock : block image blockRow blockColumn =
      (blockPixels image blockRow blockColumn).toFinset := by
    ext pixel
    rw [List.mem_toFinset, mem_blockPixels]
  have hnodup := nodup_blockPixels image blockRow blockColumn
  unfold blockMean
  rw [hblock, List.sum_toFinset _ hnodup, List.toFinset_card_of_nodup hnodup]

theorem blockPixels_ne_nil {image : Image} {blockRow blockColumn : ℕ}
    (hrow : blockRow < halfUp image.height) (hcolumn : blockColumn < halfUp image.width) :
    blockPixels image blockRow blockColumn ≠ [] := by
  have hfirst : (2 * blockRow, 2 * blockColumn) ∈ blockPixels image blockRow blockColumn := by
    rw [mem_blockPixels, block, Finset.mem_filter, Finset.mem_product, Finset.mem_range,
      Finset.mem_range]
    unfold halfUp at hrow hcolumn
    dsimp only
    omega
  exact List.ne_nil_of_mem hfirst

/-! ## What a conversion reads -/

section Read

variable {image : Image} {row column : ℕ}

theorem mapM_blockPixels {α : Type} {read : ℕ × ℕ → Option α} (item : ℕ × ℕ → α)
    (hread : ∀ row < image.height, ∀ column < image.width,
      read (row, column) = some (item (row, column))) :
    (blockPixels image row column).mapM read = some ((blockPixels image row column).map item) := by
  rw [mapM_eq_some_iff, List.map_map]
  refine List.map_congr_left ?_
  rintro ⟨row, column⟩ hpixel
  rw [mem_blockPixels, block, Finset.mem_filter, Finset.mem_product, Finset.mem_range,
    Finset.mem_range] at hpixel
  exact hread row hpixel.1.1 column hpixel.1.2

theorem exists_blockMean {plane : ℕ}
    (hread : ∀ row < image.height, ∀ column < image.width,
      image.byte? plane row column = some (image.byteAt plane row column))
    (hrow : row < halfUp image.height) (hcolumn : column < halfUp image.width) :
    ∃ byte, blockMean? image plane row column = some byte ∧ (byte.toNat : ℤ) =
      round (blockMean image row column fun pixel => image.level plane pixel.1 pixel.2) := by
  let bytes := (blockPixels image row column).map fun pixel => image.byteAt plane pixel.1 pixel.2
  have hbytes : bytes ≠ [] := by
    simpa [bytes] using blockPixels_ne_nil hrow hcolumn
  refine ⟨meanByte bytes, ?_, ?_⟩
  · unfold blockMean?
    rw [mapM_blockPixels (fun pixel => image.byteAt plane pixel.1 pixel.2) hread]
    rfl
  · rw [toNat_meanByte hbytes, blockMean_eq, List.map_map, List.length_map]
    rfl

theorem exists_rowPairMean {plane : ℕ}
    (hread : ∀ line < image.height,
      image.byte? plane line column = some (image.byteAt plane line column))
    (hrow : row < halfUp image.height) :
    ∃ byte, rowPairMean? image plane row column = some byte ∧ (byte.toNat : ℤ) =
      ⌈((image.level plane (2 * row) column +
        image.level plane (min (2 * row + 1) (image.height - 1)) column : ℤ) : ℚ) / 2⌉ := by
  unfold halfUp at hrow
  have hupper := hread (2 * row) (by omega)
  have hlower := hread (min (2 * row + 1) (image.height - 1)) (by omega)
  refine ⟨meanByte [_, _], by unfold rowPairMean?; rw [hupper, hlower]; rfl, ?_⟩
  unfold Image.level
  rw [← Nat.cast_add, ceil_half, toNat_meanByte (List.cons_ne_nil _ _)]
  have htotal (a b : UInt8) : (([a, b].map fun byte => (byte.toNat : ℚ)).sum) / [a, b].length =
      ((a.toNat + b.toNat : ℕ) : ℚ) / (2 : ℕ) := by simp
  rw [htotal, round_div _ Nat.two_pos]

def colourOf (image : Image) (pixel : ℕ × ℕ) : Colour :=
  ⟨colourPart image 0 pixel, colourPart image 1 pixel, colourPart image 2 pixel⟩

variable (h : image.HoldsRows)
include h

theorem colourAt?_eq (hf : image.format = .rgb24) (hrow : row < image.height)
    (hcolumn : column < image.width) :
    colourAt? image row column = some (colourOf image (row, column)) := by
  have hread (part : ℕ) (hpart : part < 3) :
      image.byte? 0 row (3 * column + part) = some (image.byteAt 0 row (3 * column + part)) :=
    Image.byte?_eq_byteAt h (Image.inRows_colour hf hpart hrow hcolumn)
  unfold colourAt?
  rw [hread 1 (by omega), hread 2 (by omega)]
  rw [← Nat.add_zero (3 * column), hread 0 (by omega)]
  rfl

/-- The colour of a block is the exact mean of the colours of its pixels, part by part truncated. -/
theorem blockColour?_eq (hf : image.format = .rgb24) :
    blockColour? image row column =
      some ⟨⌊blockMean image row column (colourPart image 0)⌋,
        ⌊blockMean image row column (colourPart image 1)⌋,
        ⌊blockMean image row column (colourPart image 2)⌋⟩ := by
  let colours := (blockPixels image row column).map (colourOf image)
  have hpart (part : ℕ) (of : Colour → ℤ)
      (hof : ∀ pixel, of (colourOf image pixel) = colourPart image part pixel) :
      Colour.meanOf of colours = ⌊blockMean image row column (colourPart image part)⌋ := by
    rw [meanOf_eq_floor, blockMean_eq, List.map_map, List.length_map]
    simp only [Function.comp_def, hof]
  have hmean : blockColour? image row column = some (Colour.mean colours) := by
    unfold blockColour?
    rw [mapM_blockPixels (colourOf image) fun line hline offset hoffset =>
      colourAt?_eq h hf hline hoffset]
    rfl
  rw [hmean, Colour.mean, hpart 0 _ fun _ => rfl, hpart 1 _ fun _ => rfl, hpart 2 _ fun _ => rfl]

theorem exists_luma? (hf : image.format ≠ .unspecified) (hrow : row < image.height)
    (hcolumn : column < image.width) :
    ∃ y, luma? image row column = some y ∧ (y.toNat : ℤ) = lumaLevel image row column := by
  unfold luma? lumaLevel
  by_cases hrgb : image.format = .rgb24
  · rw [hrgb]
    dsimp only
    rw [colourAt?_eq h hrgb hrow hcolumn]
    exact ⟨_, rfl, toNat_luma ..⟩
  · have hread := Image.byte?_eq_byteAt h (Image.inRows_luma hf hrgb hrow hcolumn)
    cases hformat : image.format with
    | unspecified => exact absurd hformat hf
    | rgb24 => exact absurd hformat hrgb
    | _ => exact ⟨_, hread, rfl⟩

theorem exists_chroma? (hf : image.format ≠ .unspecified) (hrow : row < halfUp image.height)
    (hcolumn : column < halfUp image.width) :
    ∃ u v, chroma? image row column = some (u, v) ∧
      ((u.toNat : ℤ), (v.toNat : ℤ)) = chromaLevels image row column := by
  unfold chroma? chromaLevels
  cases hformat : image.format with
  | unspecified => exact absurd hformat hf
  | gray8 => exact ⟨_, _, rfl, rfl⟩
  | yuv420p =>
    have hread {plane : ℕ} (hplane : plane = 1 ∨ plane = 2) :=
      Image.byte?_eq_byteAt h (Image.inRows_yuv420p hplane hformat hrow hcolumn)
    dsimp only
    rw [hread (Or.inl rfl), hread (Or.inr rfl)]
    exact ⟨_, _, rfl, rfl⟩
  | yuv422p =>
    have hread {plane : ℕ} (hplane : plane = 1 ∨ plane = 2) (line : ℕ)
        (hline : line < image.height) :=
      Image.byte?_eq_byteAt h (Image.inRows_yuv422p hplane hformat hline hcolumn)
    obtain ⟨u, hu, hulevel⟩ := exists_rowPairMean (hread (Or.inl rfl)) hrow
    obtain ⟨v, hv, hvlevel⟩ := exists_rowPairMean (hread (Or.inr rfl)) hrow
    dsimp only
    rw [hu, hv, ← hulevel, ← hvlevel]
    exact ⟨u, v, rfl, rfl⟩
  | yuv444p =>
    have hread {plane : ℕ} (hplane : plane = 1 ∨ plane = 2) (line : ℕ)
        (hline : line < image.height) (offset : ℕ) (hoffset : offset < image.width) :=
      Image.byte?_eq_byteAt h (Image.inRows_yuv444p hplane hformat hline hoffset)
    obtain ⟨u, hu, hulevel⟩ := exists_blockMean (hread (Or.inl rfl)) hrow hcolumn
    obtain ⟨v, hv, hvlevel⟩ := exists_blockMean (hread (Or.inr rfl)) hrow hcolumn
    dsimp only
    rw [hu, hv, ← hulevel, ← hvlevel]
    exact ⟨u, v, rfl, rfl⟩
  | nv12 | nv21 =>
    have hpairs : image.format = .nv12 ∨ image.format = .nv21 := by simp [hformat]
    have hread {offset : ℕ} (hoffset : offset < 2 * halfUp image.width) :=
      Image.byte?_eq_byteAt h (Image.inRows_pairs hpairs hrow hoffset)
    dsimp only
    rw [hread (show 2 * column < _ by omega), hread (show 2 * column + 1 < _ by omega)]
    exact ⟨_, _, rfl, rfl⟩
  | rgb24 =>
    dsimp only
    rw [blockColour?_eq h hformat]
    exact ⟨_, _, rfl, Prod.ext (toNat_cb ..) (toNat_cr ..)⟩

end Read

/-! ## Whole planes -/

theorem exists_tabulate? {n : ℕ} {rule : ℕ → Option UInt8}
    (h : ∀ position < n, ∃ byte, rule position = some byte) :
    ∃ bytes, Bytes.tabulate? n rule = some bytes := by
  refine ⟨Array.ofFn fun position : Fin n => (rule position).getD 0,
    Bytes.tabulate?_eq_some_iff.mpr ⟨Array.size_ofFn, ?_⟩⟩
  intro position hposition
  obtain ⟨byte, hbyte⟩ := h position hposition
  simp [hposition, hbyte]

theorem position_within {position rowBytes rows : ℕ} (h : position < rowBytes * rows) :
    position / rowBytes < rows ∧ position % rowBytes < rowBytes :=
  ⟨Nat.div_lt_of_lt_mul h, Nat.mod_lt _ (Nat.pos_of_lt_mul_right h)⟩

theorem position_lt {row offset rowBytes rows : ℕ} (hrow : row < rows) (hoffset : offset < rowBytes) :
    row * rowBytes + offset < rowBytes * rows :=
  calc row * rowBytes + offset < (row + 1) * rowBytes := by rw [Nat.succ_mul]; omega
    _ ≤ rows * rowBytes := Nat.mul_le_mul_right rowBytes hrow
    _ = rowBytes * rows := Nat.mul_comm ..

theorem row_of_position (row : ℕ) {offset rowBytes : ℕ} (h : offset < rowBytes) :
    (row * rowBytes + offset) / rowBytes = row ∧ (row * rowBytes + offset) % rowBytes = offset :=
  (Nat.div_mod_unique (Nat.zero_lt_of_lt h)).mpr ⟨by ring, h⟩

section Planes

variable {image : Image} (h : image.HoldsRows) (hf : image.format ≠ .unspecified)
include h hf

/-- Everything that is needed of an image that holds its rows can be read. -/
theorem exists_planes? : ∃ planes, planes? image = some planes := by
  have hluma : ∀ position < lumaBytes image.size,
      ∃ byte, lumaByte? image position = some byte := by
    intro position hposition
    obtain ⟨hrow, hcolumn⟩ := position_within hposition
    obtain ⟨y, hy, -⟩ := exists_luma? h hf hrow hcolumn
    exact ⟨y, hy⟩
  have hchroma : ∀ position < chromaBytes image.size,
      ∃ byte, chromaByte? image position = some byte := by
    intro position hposition
    obtain ⟨hrow, hoffset⟩ := position_within hposition
    have hcolumn : position % chromaRowBytes image.size / 2 < halfUp image.width :=
      Nat.div_lt_of_lt_mul hoffset
    obtain ⟨u, v, huv, -⟩ := exists_chroma? h hf hrow hcolumn
    unfold chromaByte?
    dsimp only
    rw [huv]
    exact ⟨_, rfl⟩
  obtain ⟨luma, hluma⟩ := exists_tabulate? hluma
  obtain ⟨chroma, hchroma⟩ := exists_tabulate? hchroma
  refine ⟨⟨luma, chroma⟩, ?_⟩
  unfold planes?
  rw [hluma, hchroma]
  rfl

omit h hf in
theorem lumaByte?_eq (row : ℕ) {column : ℕ} (hcolumn : column < image.width) :
    lumaByte? image (row * image.width + column) = luma? image row column := by
  obtain ⟨hdiv, hmod⟩ := row_of_position row hcolumn
  rw [lumaByte?, hdiv, hmod]

omit h hf in
theorem chromaByte?_eq {row offset : ℕ} {u v : UInt8} (hoffset : offset < 2 * halfUp image.width)
    (huv : chroma? image row (offset / 2) = some (u, v)) :
    chromaByte? image (row * (2 * halfUp image.width) + offset) =
      some (if offset % 2 = 0 then u else v) := by
  obtain ⟨hdiv, hmod⟩ := row_of_position row hoffset
  unfold chromaByte? chromaRowBytes
  dsimp only [Image.width] at hdiv hmod huv ⊢
  rw [hdiv, hmod, huv]
  rfl

/-- Planes that are read off an image show the image. -/
theorem depicts_of_planes? {planes : Planes} (hp : planes? image = some planes) :
    planes.Depicts image := by
  simp only [planes?, Option.bind_eq_bind, Option.bind_eq_some_iff] at hp
  obtain ⟨luma, hluma, chroma, hchroma, hplanes⟩ := hp
  cases hplanes
  obtain ⟨hlumaSize, hlumaByte⟩ := Bytes.tabulate?_eq_some_iff.mp hluma
  obtain ⟨hchromaSize, hchromaByte⟩ := Bytes.tabulate?_eq_some_iff.mp hchroma
  refine ⟨hlumaSize, ?_, hchromaSize, ?_⟩
  · intro row hrow column hcolumn
    obtain ⟨y, hy, hlevel⟩ := exists_luma? h hf hrow hcolumn
    exact ⟨y, (hlumaByte _ (position_lt hrow hcolumn)).symm.trans
      ((lumaByte?_eq row hcolumn).trans hy), hlevel⟩
  · intro row hrow column hcolumn
    obtain ⟨u, v, huv, hlevels⟩ := exists_chroma? h hf hrow hcolumn
    have hbyte (offset : ℕ) (hoffset : offset < 2 * halfUp image.width)
        (hhalf : offset / 2 = column) :
        chroma[row * (2 * halfUp image.width) + offset]? =
          some (if offset % 2 = 0 then u else v) :=
      (hchromaByte _ (position_lt hrow hoffset)).symm.trans
        (chromaByte?_eq hoffset (by rw [hhalf, huv]))
    refine ⟨u, v, ?_, ?_, hlevels⟩
    · rw [hbyte (2 * column) (by omega) (by omega), if_pos (by omega)]
    · rw [Nat.add_assoc, hbyte (2 * column + 1) (by omega) (by omega), if_neg (by omega)]

end Planes

/-! ## One picture for the same rows -/

theorem ext_rows {bytes others : Bytes} {rowBytes rows : ℕ} (hsize : bytes.size = rowBytes * rows)
    (hothers : others.size = rowBytes * rows)
    (h : ∀ row < rows, ∀ offset < rowBytes,
      bytes[row * rowBytes + offset]? = others[row * rowBytes + offset]?) : bytes = others := by
  refine Array.ext_getElem? fun position => ?_
  by_cases hposition : position < rowBytes * rows
  · obtain ⟨hrow, hoffset⟩ := position_within hposition
    have hbyte := h _ hrow _ hoffset
    rwa [Nat.div_add_mod'] at hbyte
  · rw [Array.getElem?_eq_none (by omega), Array.getElem?_eq_none (by omega)]

theorem byte_inj {a b : UInt8} (h : (a.toNat : ℤ) = b.toNat) : a = b :=
  UInt8.toNat_inj.mp (Int.ofNat_inj.mp h)

/-- Only one pair of planes shows what an image shows. -/
theorem Planes.Depicts.unique {planes others : Planes} {image other : Image}
    (h : planes.Depicts image) (ho : others.Depicts other) (hsize : image.size = other.size)
    (hluma : ∀ row < image.height, ∀ column < image.width,
      lumaLevel image row column = lumaLevel other row column)
    (hchroma : ∀ row < halfUp image.height, ∀ column < halfUp image.width,
      chromaLevels image row column = chromaLevels other row column) : planes = others := by
  have hwidth : other.width = image.width := by unfold Image.width; rw [hsize]
  have hheight : other.height = image.height := by unfold Image.height; rw [hsize]
  have hlumas : planes.luma = others.luma := by
    refine ext_rows h.luma_size (by rw [ho.luma_size, hwidth, hheight]) ?_
    intro row hrow column hcolumn
    obtain ⟨y, hy, hlevel⟩ := h.luma row hrow column hcolumn
    obtain ⟨y', hy', hlevel'⟩ := ho.luma row (hheight ▸ hrow) column (hwidth ▸ hcolumn)
    rw [hwidth] at hy'
    rw [hy, hy', byte_inj (hlevel.trans ((hluma row hrow column hcolumn).trans hlevel'.symm))]
  have hchromas : planes.chroma = others.chroma := by
    refine ext_rows h.chroma_size (by rw [ho.chroma_size, hwidth, hheight]) ?_
    intro row hrow offset hoffset
    have hcolumn : offset / 2 < halfUp image.width := Nat.div_lt_of_lt_mul hoffset
    obtain ⟨u, v, hu, hv, hlevels⟩ := h.chroma row hrow (offset / 2) hcolumn
    obtain ⟨u', v', hu', hv', hlevels'⟩ :=
      ho.chroma row (hheight ▸ hrow) (offset / 2) (hwidth ▸ hcolumn)
    have hpair := hlevels.trans ((hchroma row hrow _ hcolumn).trans hlevels'.symm)
    obtain ⟨hul, hvl⟩ := Prod.mk.inj hpair
    rw [hwidth] at hu' hv'
    -- the first or the second byte of the pair
    rcases Nat.mod_two_eq_zero_or_one offset with hparity | hparity
    · rw [show offset = 2 * (offset / 2) by omega, hu, hu', byte_inj hul]
    · rw [show row * (2 * halfUp image.width) + offset =
        row * (2 * halfUp image.width) + 2 * (offset / 2) + 1 by omega, hv, hv', byte_inj hvl]
  cases planes
  cases others
  simp_all only

section Same

variable {image other : Image} (h : image.SameRows other) {row column : ℕ}
include h

theorem width_eq_of_sameRows : other.width = image.width := by unfold Image.width; rw [h.size]

theorem height_eq_of_sameRows : other.height = image.height := by unfold Image.height; rw [h.size]

theorem blockMean_congr {number otherNumber : ℕ × ℕ → ℤ}
    (hn : ∀ row < image.height, ∀ column < image.width,
      number (row, column) = otherNumber (row, column)) :
    blockMean image row column number = blockMean other row column otherNumber := by
  have hblock : block other row column = block image row column := by
    unfold block
    rw [width_eq_of_sameRows h, height_eq_of_sameRows h]
  unfold blockMean
  rw [hblock]
  congr 1
  refine Finset.sum_congr rfl ?_
  rintro ⟨row, column⟩ hpixel
  rw [block, Finset.mem_filter, Finset.mem_product, Finset.mem_range, Finset.mem_range] at hpixel
  rw [hn row hpixel.1.1 column hpixel.1.2]

theorem colourPart_congr (hf : image.format = .rgb24) {part : ℕ} (hpart : part < 3)
    (hrow : row < image.height) (hcolumn : column < image.width) :
    colourPart image part (row, column) = colourPart other part (row, column) :=
  h.level (Image.inRows_colour hf hpart hrow hcolumn)

theorem lumaLevel_congr (hrow : row < image.height) (hcolumn : column < image.width) :
    lumaLevel image row column = lumaLevel other row column := by
  unfold lumaLevel
  rw [← h.format]
  cases hf : image.format with
  | unspecified => rfl
  | rgb24 =>
    dsimp only
    rw [colourPart_congr h hf (show 0 < 3 by omega) hrow hcolumn,
      colourPart_congr h hf (show 1 < 3 by omega) hrow hcolumn,
      colourPart_congr h hf (show 2 < 3 by omega) hrow hcolumn]
  | _ => exact h.level (Image.inRows_luma (by rw [hf]; nofun) (by rw [hf]; nofun) hrow hcolumn)

theorem chromaLevels_congr (hrow : row < halfUp image.height)
    (hcolumn : column < halfUp image.width) :
    chromaLevels image row column = chromaLevels other row column := by
  unfold chromaLevels
  rw [← h.format, height_eq_of_sameRows h]
  cases hf : image.format with
  | unspecified => rfl
  | gray8 => rfl
  | yuv420p =>
    have hlevel {plane : ℕ} (hplane : plane = 1 ∨ plane = 2) :=
      h.level (Image.inRows_yuv420p hplane hf hrow hcolumn)
    dsimp only
    rw [hlevel (Or.inl rfl), hlevel (Or.inr rfl)]
  | yuv422p =>
    have hlevel {plane : ℕ} (hplane : plane = 1 ∨ plane = 2) {line : ℕ}
        (hline : line < image.height) := h.level (Image.inRows_yuv422p hplane hf hline hcolumn)
    unfold halfUp at hrow
    have hupper : 2 * row < image.height := by omega
    have hlower : min (2 * row + 1) (image.height - 1) < image.height := by omega
    dsimp only
    rw [hlevel (Or.inl rfl) hupper, hlevel (Or.inl rfl) hlower, hlevel (Or.inr rfl) hupper,
      hlevel (Or.inr rfl) hlower]
  | yuv444p =>
    have hmean {plane : ℕ} (hplane : plane = 1 ∨ plane = 2) :
        (blockMean image row column fun pixel => image.level plane pixel.1 pixel.2) =
          blockMean other row column fun pixel => other.level plane pixel.1 pixel.2 :=
      blockMean_congr h fun line hline offset hoffset =>
        h.level (Image.inRows_yuv444p hplane hf hline hoffset)
    dsimp only
    rw [hmean (Or.inl rfl), hmean (Or.inr rfl)]
  | nv12 | nv21 =>
    have hpairs : image.format = .nv12 ∨ image.format = .nv21 := by simp [hf]
    have hlevel {offset : ℕ} (hoffset : offset < 2 * halfUp image.width) :=
      h.level (Image.inRows_pairs hpairs hrow hoffset)
    dsimp only
    rw [hlevel (show 2 * column < _ by omega), hlevel (show 2 * column + 1 < _ by omega)]
  | rgb24 =>
    have hmean {part : ℕ} (hpart : part < 3) :
        blockMean image row column (colourPart image part) =
          blockMean other row column (colourPart other part) :=
      blockMean_congr h fun line hline offset hoffset => colourPart_congr h hf hpart hline hoffset
    dsimp only
    rw [hmean (show 0 < 3 by omega), hmean (show 1 < 3 by omega), hmean (show 2 < 3 by omega)]

end Same

end Nv12

end StreamDecode
