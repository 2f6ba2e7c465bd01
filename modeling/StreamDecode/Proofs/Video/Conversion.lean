import StreamDecode.Proofs.Video.Pixels

/-!
# Outcomes of conversions

A conversion to NV12 refuses planes of other lengths first, then a format that it does not know, then
an image that does not hold its rows, and in each of these cases it leaves the planes as they are;
any other image it shows. `outcome_convertInto` says this once, with one constructor for each case.

Read off it are when which error is returned (`convertInto_exact`), for conversions into planes and
into the buffer that both share, and that the strides, the padding and the further planes of an image
do not count (`convertInto_depicts`).
-/

namespace StreamDecode

namespace Nv12

/-- Whether the planes have the lengths for an image: a byte for each pixel, and a pair of bytes for
each block. -/
def Planes.Fits (planes : Planes) (image : Image) : Prop :=
  planes.luma.size = image.width * image.height ∧
    planes.chroma.size = 2 * halfUp image.width * halfUp image.height

theorem not_fits_iff {planes : Planes} {image : Image} :
    ¬ planes.Fits image ↔
      planes.luma.size ≠ lumaBytes image.size ∨ planes.chroma.size ≠ chromaBytes image.size :=
  Decidable.not_and_iff_not_or_not

/-- What a conversion of an image into planes answers, and the planes that it leaves. -/
inductive Outcome (image : Image) (target : Planes) : Except MediaError Unit × Planes → Prop
  | planeSizes (hsizes : ¬ target.Fits image) :
    Outcome image target
      (.error (.invalidArgument
        (.nv12PlaneSizes target.luma.size target.chroma.size image.size)), target)
  | format (hsizes : target.Fits image) (hformat : image.format = .unspecified) :
    Outcome image target (.error (.unsupported (.pixelConversion image.format .nv12)), target)
  | data {fault : DataFault} (hsizes : target.Fits image) (hformat : image.format ≠ .unspecified)
      (hfault : image.Explains fault) :
    Outcome image target (.error (.invalidData fault), target)
  | picture {planes : Planes} (hsizes : target.Fits image) (hformat : image.format ≠ .unspecified)
      (hrows : image.HoldsRows) (hdepicts : planes.Depicts image) :
    Outcome image target (.ok (), planes)

theorem isSource_iff {format : PixelFormat} : isSource format = true ↔ format ≠ .unspecified := by
  cases format <;> simp [isSource]

/-- A conversion ends in one of the four ways. -/
theorem outcome_convertInto (image : Image) (target : Planes) :
    Outcome image target (convertInto image target) := by
  unfold convertInto convert
  by_cases hsizes : target.Fits image
  · rw [if_neg (mt not_fits_iff.mpr (not_not_intro hsizes))]
    by_cases hformat : image.format = .unspecified
    · rw [if_pos (by rw [hformat]; rfl)]
      exact Outcome.format hsizes hformat
    · rw [if_neg (by rw [isSource_iff.mpr hformat]; decide)]
      rcases image.check_cases with ⟨hrows, hcheck⟩ | ⟨fault, hfault, hcheck⟩
      · obtain ⟨planes, hplanes⟩ := exists_planes? hrows hformat
        rw [hcheck, hplanes]
        exact Outcome.picture hsizes hformat hrows (depicts_of_planes? hrows hformat hplanes)
      · rw [hcheck]
        exact Outcome.data hsizes hformat hfault
  · rw [if_pos (not_fits_iff.mp hsizes)]
    exact Outcome.planeSizes hsizes

/-! ## When a conversion is refused -/

/-- What a conversion asks for can be read: the bytes of all rows, and with them those of every pixel
and of every block, lie within their planes, and every block that a mean is taken over has a pixel. -/
structure Readable (image : Image) : Prop where
  rows : ∀ plane row offset, image.InRows plane row offset → (image.byte? plane row offset).isSome
  luma : ∀ row < image.height, ∀ column < image.width, (luma? image row column).isSome
  chroma : ∀ row < halfUp image.height, ∀ column < halfUp image.width,
    (chroma? image row column).isSome
  blocks : ∀ row < halfUp image.height, ∀ column < halfUp image.width,
    blockPixels image row column ≠ []

theorem readable_of_holdsRows {image : Image} (h : image.HoldsRows)
    (hf : image.format ≠ .unspecified) : Readable image := by
  refine ⟨?_, ?_, ?_, fun row hrow column hcolumn => blockPixels_ne_nil hrow hcolumn⟩
  · intro plane row offset hin
    rw [Image.byte?_eq_byteAt h hin]
    rfl
  · intro row hrow column hcolumn
    obtain ⟨y, hy, -⟩ := exists_luma? h hf hrow hcolumn
    rw [hy]
    rfl
  · intro row hrow column hcolumn
    obtain ⟨u, v, huv, -⟩ := exists_chroma? h hf hrow hcolumn
    rw [huv]
    rfl

/-- Which answer a conversion of an image into planes has, and which planes it leaves. -/
structure Exact (image : Image) (target : Planes) (answer : Except MediaError Unit)
    (after : Planes) : Prop where
  invalidArgument : (∃ blame, answer = .error (.invalidArgument blame)) ↔ ¬ target.Fits image
  unsupported : (∃ blame, answer = .error (.unsupported blame)) ↔
    target.Fits image ∧ image.format = .unspecified
  invalidData : (∃ fault, answer = .error (.invalidData fault)) ↔
    target.Fits image ∧ image.format ≠ .unspecified ∧
      (image.LacksPlanes ∨ ∃ plane, image.LacksRows plane)
  ok : answer = .ok () ↔
    target.Fits image ∧ image.format ≠ .unspecified ∧ image.HoldsRows
  explained : ∀ fault, answer = .error (.invalidData fault) → image.Explains fault
  kept : ∀ error, answer = .error error → after = target
  readable : answer = .ok () → Readable image

theorem Outcome.exact {image : Image} {target after : Planes} {answer : Except MediaError Unit}
    (h : Outcome image target (answer, after)) : Exact image target answer after := by
  cases h with
  | planeSizes hsizes => constructor <;> simp [hsizes]
  | format hsizes hformat => constructor <;> simp [hsizes, hformat]
  | data hsizes hformat hfault =>
    have hrows := Image.not_holdsRows_of_explains hfault
    constructor <;> simp [hsizes, hformat, hrows, hfault, ← Image.not_holdsRows_iff]
  | picture hsizes hformat hrows hdepicts =>
    have hreadable := readable_of_holdsRows hrows hformat
    constructor <;> simp [hsizes, hformat, hrows, hreadable, ← Image.not_holdsRows_iff]

end Nv12

namespace Nv12Conversion

/-- The planes that share a buffer. -/
def parts (conversion : Nv12Conversion) (buffer : Bytes) : Nv12.Planes :=
  ⟨buffer.extract 0 (Nv12.lumaBytes conversion.size),
    buffer.extract (Nv12.lumaBytes conversion.size) buffer.size⟩

variable {conversion : Nv12Conversion} {buffer : Bytes}

theorem fits_parts
    (hlength : Nv12.lumaBytes conversion.size + Nv12.chromaBytes conversion.size < UInt64.size)
    (h : buffer.size = conversion.outputBytes) (planes : List Bytes) (strides : List Nat) :
    (conversion.parts buffer).Fits (conversion.image planes strides) := by
  have houtput := outputBytes_of_lt hlength
  constructor
  · show (buffer.extract 0 _).size = Nv12.lumaBytes conversion.size
    rw [Array.size_extract]
    omega
  · show (buffer.extract _ buffer.size).size = Nv12.chromaBytes conversion.size
    rw [Array.size_extract]
    omega

/-- A conversion into a buffer of its length answers like one into the planes that share the buffer,
and an error leaves the buffer as it is. -/
theorem convertInto_parts (h : buffer.size = conversion.outputBytes) (planes : List Bytes)
    (strides : List Nat) :
    (conversion.convertInto planes strides buffer).1 =
      (Nv12.convertInto (conversion.image planes strides) (conversion.parts buffer)).1 ∧
    ∀ error, (conversion.convertInto planes strides buffer).1 = .error error →
      (conversion.convertInto planes strides buffer).2 = buffer := by
  unfold convertInto
  rw [if_neg (not_not_intro h)]
  cases hinto : Nv12.convertInto (conversion.image planes strides) (conversion.parts buffer) with
  | mk answer after =>
    unfold parts at hinto
    dsimp only
    rw [hinto]
    cases answer with
    | error error => exact ⟨rfl, fun _ _ => rfl⟩
    | ok => exact ⟨rfl, fun error herror => nomatch herror⟩

theorem source_of_create {size : FrameSize} {source target : PixelFormat}
    (h : create size source target = .ok conversion) : conversion.source ≠ .unspecified := by
  unfold create at h
  split at h
  · cases h
  split at h
  · cases h
  next hsupported =>
  cases h
  rw [← Nv12.isSource_iff]
  simp only [isSupported, Bool.not_eq_true', Bool.not_eq_false, Bool.and_eq_true] at hsupported
  exact hsupported.2

end Nv12Conversion

/-- A conversion into planes returns an error exactly when there is a reason for it, the reasons
being taken in a fixed order, and then it leaves the planes as they are; otherwise everything that it
reads is there. A conversion that was created, into a buffer of its length, never finds fault with
the lengths, if a word counts the bytes of the picture. -/
theorem convertInto_exact :
    (∀ image target, Nv12.Exact image target
      (Nv12.convertInto image target).1 (Nv12.convertInto image target).2) ∧
    ∀ size source target conversion, Nv12Conversion.create size source target = .ok conversion →
      Nv12.lumaBytes conversion.size + Nv12.chromaBytes conversion.size < UInt64.size →
      ∀ planes strides buffer, buffer.size = conversion.outputBytes →
        Nv12.lumaBytes conversion.size ≤ buffer.size ∧
        (∀ blame,
          (conversion.convertInto planes strides buffer).1 ≠ .error (.invalidArgument blame)) ∧
        ((conversion.convertInto planes strides buffer).1 = .ok () ↔
          (conversion.image planes strides).HoldsRows) ∧
        ∀ error, (conversion.convertInto planes strides buffer).1 = .error error →
          (conversion.convertInto planes strides buffer).2 = buffer := by
  have hexact : ∀ image target, Nv12.Exact image target
      (Nv12.convertInto image target).1 (Nv12.convertInto image target).2 :=
    fun image target => (Nv12.outcome_convertInto image target).exact
  refine ⟨hexact, ?_⟩
  intro size source target conversion hcreate hlength planes strides buffer hbuffer
  have hparts := Nv12Conversion.fits_parts hlength hbuffer planes strides
  have hformat : (conversion.image planes strides).format ≠ .unspecified :=
    Nv12Conversion.source_of_create hcreate
  obtain ⟨hanswer, hkept⟩ := Nv12Conversion.convertInto_parts hbuffer planes strides
  obtain h := hexact (conversion.image planes strides) (conversion.parts buffer)
  refine ⟨?_, ?_, ?_, hkept⟩
  · rw [hbuffer, Nv12Conversion.outputBytes_of_lt hlength]
    exact Nat.le_add_right _ _
  · intro blame hblame
    rw [hanswer] at hblame
    exact h.invalidArgument.mp ⟨blame, hblame⟩ hparts
  · rw [hanswer, h.ok]
    exact ⟨fun hall => hall.2.2, fun hrows => ⟨hparts, hformat, hrows⟩⟩

/-! ## What a picture is taken from -/

namespace Nv12

theorem depicts_of_convertInto {image : Image} {target planes : Planes}
    (h : convertInto image target = (.ok (), planes)) : planes.Depicts image := by
  have houtcome := outcome_convertInto image target
  rw [h] at houtcome
  cases houtcome with
  | picture hsizes hformat hrows hdepicts => exact hdepicts

/-- Converted planes show the image, and they are those of any image of the same format and size that
can be converted and has the same bytes in its rows: strides, padding, what is behind the last row
and further planes do not count. -/
theorem convertInto_depicts {image : Image} {target planes : Planes}
    (h : convertInto image target = (.ok (), planes)) :
    planes.Depicts image ∧
      ∀ other otherTarget otherPlanes, image.SameRows other →
        convertInto other otherTarget = (.ok (), otherPlanes) → otherPlanes = planes := by
  have hdepicts := depicts_of_convertInto h
  refine ⟨hdepicts, ?_⟩
  intro other otherTarget otherPlanes hsame hother
  refine (hdepicts.unique (depicts_of_convertInto hother) hsame.size ?_ ?_).symm
  · intro row hrow column hcolumn
    exact lumaLevel_congr hsame hrow hcolumn
  · intro row hrow column hcolumn
    exact chromaLevels_congr hsame hrow hcolumn

/-- A picture of three by three pixels, packed. -/
def packedSquare : Image :=
  ⟨.yuv422p, ⟨3, 3⟩, [#[10, 20, 30, 40, 50, 60, 70, 80, 90], #[1, 2, 4, 7, 9, 13],
    #[200, 201, 203, 206, 208, 212]], [3, 2, 2]⟩

/-- The same picture with padding behind the rows and a further plane. -/
def paddedSquare : Image :=
  ⟨.yuv422p, ⟨3, 3⟩, [#[10, 20, 30, 99, 40, 50, 60, 98, 70, 80, 90],
    #[1, 2, 97, 4, 7, 96, 9, 13], #[200, 201, 203, 206, 208, 212, 95, 94], #[93]], [4, 3, 2, 0]⟩

theorem sameRows_square : paddedSquare.SameRows packedSquare := by
  refine ⟨rfl, rfl, ?_⟩
  rintro plane row offset ⟨rowBytes, rows, hrowBytes, hrows, hrow, hoffset⟩
  have hluma : ∀ row < 3, ∀ offset < 3,
      paddedSquare.byte? 0 row offset = packedSquare.byte? 0 row offset := by decide
  have hchroma : ∀ plane < 3, 0 < plane → ∀ row < 3, ∀ offset < 2,
      paddedSquare.byte? plane row offset = packedSquare.byte? plane row offset := by decide
  have hplane : plane < 3 := Image.lt_planeCount_of_rows? hrows
  rcases plane with _ | _ | _ | plane
  · cases hrowBytes
    cases hrows
    exact hluma row hrow offset hoffset
  · cases hrowBytes
    cases hrows
    exact hchroma 1 hplane Nat.one_pos row hrow offset hoffset
  · cases hrowBytes
    cases hrows
    exact hchroma 2 hplane Nat.two_pos row hrow offset hoffset
  · cases hrowBytes

/-- The picture is converted to the same planes with padding and without. -/
theorem convertInto_depicts_square :
    ∃ planes : Planes,
      convertInto paddedSquare ⟨Bytes.zeros 9, Bytes.zeros 8⟩ = (.ok (), planes) ∧
      planes.chroma = #[3, 202, 5, 204, 9, 208, 13, 212] ∧ planes.Depicts paddedSquare ∧
      convertInto packedSquare ⟨Bytes.zeros 9, Bytes.zeros 8⟩ = (.ok (), planes) := by
  have hpadded : convertInto paddedSquare ⟨Bytes.zeros 9, Bytes.zeros 8⟩ =
      (.ok (), ⟨#[10, 20, 30, 40, 50, 60, 70, 80, 90], #[3, 202, 5, 204, 9, 208, 13, 212]⟩) := by
    decide +kernel
  have hpacked : convertInto packedSquare ⟨Bytes.zeros 9, Bytes.zeros 8⟩ =
      (.ok (), (convertInto packedSquare ⟨Bytes.zeros 9, Bytes.zeros 8⟩).2) := by
    decide +kernel
  obtain ⟨hdepicts, hsame⟩ := convertInto_depicts hpadded
  refine ⟨_, hpadded, rfl, hdepicts, ?_⟩
  rw [hpacked, hsame packedSquare _ _ sameRows_square hpacked]

end Nv12

end StreamDecode
