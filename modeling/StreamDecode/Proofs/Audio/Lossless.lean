import Mathlib.Data.Rat.Cast.CharZero
import Mathlib.Algebra.Field.Rat
import StreamDecode.Proofs.Audio.Mixing

/-!
# Integer samples are converted without loss

An integer sample is read as a whole number of at most 32 bits divided by a power of two
(`value?_decode`), so that nothing is rounded. Writing multiplies by this power again, and what is
then rounded to a whole number and clamped is a whole number in the range of the encoding already:
the bytes are those that were read (`encode_decode`).

A conversion between formats of one integer encoding that keeps the channels thus only brings samples
into another order: converting them one by one gives their bytes interleaved, and where the source is
interleaved as well, this is what a copy gives (`convertInto_lossless`).
-/

namespace StreamDecode

namespace Binary

/-- The number that a finite binary number stands for. -/
def value? : Binary → Option ℚ
  | .finite negative m e => some ((signedMantissa negative m : ℚ) * 2 ^ e)
  | _ => none

theorem scale_scale (x : Binary) (j k : Int) : (x.scale j).scale k = x.scale (j + k) := by
  cases x with
  | finite negative m e => simp [scale, Int.add_assoc]
  | _ => rfl

theorem scale_zero (x : Binary) : x.scale 0 = x := by
  cases x with
  | finite negative m e => simp [scale]
  | _ => rfl

theorem signedMantissa_ofInt (n : Int) : signedMantissa (decide (n < 0)) n.natAbs = n := by
  unfold signedMantissa
  by_cases h : n < 0
  · rw [decide_eq_true h, if_pos rfl]
    omega
  · rw [decide_eq_false h, if_neg Bool.false_ne_true]
    omega

theorem roundTo_of_lt {p m : Nat} (negative : Bool) (e : Int) (h : bitLength m ≤ p) :
    roundTo p negative m e = .finite negative m e := by
  unfold roundTo
  dsimp only
  rw [Nat.sub_eq_zero_of_le h, shiftRightEven_zero, Int.natCast_zero, Int.add_zero]

theorem bitLength_le {m p : Nat} (h : m < 2 ^ p) : bitLength m ≤ p := by
  unfold bitLength
  by_cases hm : m = 0
  · simp [hm]
  · rw [if_neg hm]
    exact (Nat.log2_lt hm).mpr h

/-- Whole numbers whose sum has at most 53 bits are added without rounding. -/
theorem add_ofInt {a b : Int} (h : (a + b).natAbs < 2 ^ doublePrecision) :
    (ofInt a).add (ofInt b) = ofInt (a + b) := by
  unfold ofInt add
  dsimp only
  simp only [Int.min_self, Int.sub_self, Int.toNat_zero, Nat.shiftLeft_zero, signedMantissa_ofInt]
  by_cases hzero : a + b = 0
  · -- opposite terms are not both negative
    have hsign : (decide (a < 0) && decide (b < 0)) = decide ((0 : Int) < 0) := by
      rw [Bool.and_eq_decide]
      exact decide_eq_decide.mpr (by simp only [decide_eq_true_eq]; omega)
    rw [if_pos hzero, hzero, hsign]
    rfl
  · rw [if_neg hzero]
    exact roundTo_of_lt _ _ (bitLength_le h)

theorem toIntWithin_ofInt (lo hi n : Int) : (ofInt n).toIntWithin lo hi = max lo (min hi n) := by
  unfold ofInt toIntWithin roundHalfUp
  dsimp only
  rw [if_pos (Int.le_refl 0), Int.toNat_zero, Nat.shiftLeft_zero, signedMantissa_ofInt]

/-- A signed word within the bounds is not clamped, and its low bits are the word. -/
theorem toNat_signedWord {word size : Nat} {lo hi : Int} (hlo : lo ≤ -(size / 2 : Int))
    (hhi : ((size : Int) + 1) / 2 ≤ hi + 1) (h : word < size) :
    ((ofInt ((word : Int).bmod size)).toIntWithin lo hi % size).toNat = word := by
  have hbelow : -(size / 2 : Int) ≤ (word : Int).bmod size := Int.le_bmod (by omega)
  have habove : (word : Int).bmod size < ((size : Int) + 1) / 2 := Int.bmod_lt (by omega)
  rw [toIntWithin_ofInt, Int.min_eq_right (by omega), Int.max_eq_right (by omega), Int.bmod_emod,
    Int.emod_eq_of_lt (by omega) (by omega), Int.toNat_natCast]

theorem value?_ofInt_scale (n k : Int) : ((ofInt n).scale k).value? = some ((n : ℚ) * 2 ^ k) := by
  unfold ofInt scale value?
  dsimp only
  rw [signedMantissa_ofInt, Int.zero_add]

end Binary

theorem littleEndian_ofLittleEndian (bytes : List UInt8) :
    littleEndian bytes.length (ofLittleEndian bytes) = bytes := by
  induction bytes with
  | nil => rfl
  | cons byte bytes ih =>
    have hbyte := byte.toNat_lt
    have hlow : UInt8.ofNat (byte.toNat + 256 * ofLittleEndian bytes) = byte := by
      apply UInt8.toNat_inj.mp
      rw [UInt8.toNat_ofNat']
      omega
    have hhigh : (byte.toNat + 256 * ofLittleEndian bytes) / 256 = ofLittleEndian bytes := by omega
    rw [ofLittleEndian, List.length_cons, littleEndian, hlow, hhigh, ih]

namespace SampleEncoding

/-- The number of binary places of an integer sample. -/
def places : SampleEncoding → Nat
  | .u8 => 7
  | .s16 => 15
  | .s32 | .f32 => 31

/-- The whole number that the bytes of an integer sample stand for; 8 bits count from the middle, and
wider words are signed. -/
def wholeNumber (encoding : SampleEncoding) (bytes : List UInt8) : Int :=
  match encoding with
  | .u8 => (ofLittleEndian bytes : Int) - 0x80
  | .s16 => (ofLittleEndian bytes : Int).bmod 0x10000
  | .s32 | .f32 => (ofLittleEndian bytes : Int).bmod 0x100000000

variable {encoding : SampleEncoding} {bytes : List UInt8}

theorem decode_eq (h : encoding ≠ .f32) (bytes : List UInt8) :
    encoding.decode bytes =
      (Binary.ofInt (encoding.wholeNumber bytes)).scale (-encoding.places) := by
  cases encoding with
  | f32 => exact absurd rfl h
  | _ => rfl

theorem ofLittleEndian_lt_of_length (hlength : bytes.length = encoding.width) :
    ofLittleEndian bytes < 256 ^ encoding.width := by
  rw [← hlength]
  exact ofLittleEndian_lt bytes

/-- The range of the whole numbers is not symmetric: it has one more below zero. -/
theorem wholeNumber_bounds (h : encoding ≠ .f32) (hlength : bytes.length = encoding.width) :
    -2 ^ encoding.places ≤ encoding.wholeNumber bytes ∧
      encoding.wholeNumber bytes < 2 ^ encoding.places := by
  have hlt := ofLittleEndian_lt_of_length hlength
  cases encoding with
  | u8 =>
    show -2 ^ 7 ≤ (ofLittleEndian bytes : Int) - 0x80 ∧ (ofLittleEndian bytes : Int) - 0x80 < 2 ^ 7
    have hlt : ofLittleEndian bytes < 256 := hlt
    omega
  | s16 =>
    have hbelow := Int.le_bmod (x := (ofLittleEndian bytes : Int)) (m := 0x10000) (by decide)
    have habove := Int.bmod_lt (x := (ofLittleEndian bytes : Int)) (m := 0x10000) (by decide)
    show -2 ^ 15 ≤ (ofLittleEndian bytes : Int).bmod 0x10000 ∧
      (ofLittleEndian bytes : Int).bmod 0x10000 < 2 ^ 15
    omega
  | s32 =>
    have hbelow := Int.le_bmod (x := (ofLittleEndian bytes : Int)) (m := 0x100000000) (by decide)
    have habove := Int.bmod_lt (x := (ofLittleEndian bytes : Int)) (m := 0x100000000) (by decide)
    show -2 ^ 31 ≤ (ofLittleEndian bytes : Int).bmod 0x100000000 ∧
      (ofLittleEndian bytes : Int).bmod 0x100000000 < 2 ^ 31
    omega
  | f32 => exact absurd rfl h

theorem natAbs_wholeNumber_le (h : encoding ≠ .f32) (hlength : bytes.length = encoding.width) :
    (encoding.wholeNumber bytes).natAbs ≤ 2 ^ 31 := by
  have hbounds := wholeNumber_bounds h hlength
  cases encoding <;> simp only [places] at hbounds <;> omega

/-- Reading is exact: the value is the whole number over the power of two. -/
theorem value?_decode (h : encoding ≠ .f32) (bytes : List UInt8) :
    (encoding.decode bytes).value? =
      some ((encoding.wholeNumber bytes : ℚ) / 2 ^ encoding.places) := by
  rw [decode_eq h, Binary.value?_ofInt_scale, zpow_neg, zpow_natCast, div_eq_mul_inv]

theorem scale_decode (h : encoding ≠ .f32) (bytes : List UInt8) :
    (encoding.decode bytes).scale encoding.places = .ofInt (encoding.wholeNumber bytes) := by
  rw [decode_eq h, Binary.scale_scale, Int.add_left_neg, Binary.scale_zero]

theorem encodeWord_decode (h : encoding ≠ .f32) (hlength : bytes.length = encoding.width) :
    encoding.encodeWord (encoding.decode bytes) = ofLittleEndian bytes := by
  have hscale := scale_decode h bytes
  have hlt := ofLittleEndian_lt_of_length hlength
  cases encoding with
  | u8 =>
    have hlt : ofLittleEndian bytes < 256 := hlt
    have hsum : (ofLittleEndian bytes : Int) - 0x80 + 128 = ofLittleEndian bytes := by omega
    show ((((decode .u8 bytes).scale 7).add (.ofInt 128)).toIntWithin 0 255).toNat = _
    rw [show (decode .u8 bytes).scale 7 = .ofInt ((ofLittleEndian bytes : Int) - 0x80) from hscale,
      Binary.add_ofInt, hsum, Binary.toIntWithin_ofInt]
    · omega
    · rw [hsum]
      show ofLittleEndian bytes < 2 ^ 53
      omega
  | s16 =>
    show (((decode .s16 bytes).scale 15).toIntWithin (-0x8000) 0x7fff % 0x10000).toNat = _
    rw [show (decode .s16 bytes).scale 15 = .ofInt ((ofLittleEndian bytes : Int).bmod 0x10000)
      from hscale]
    exact Binary.toNat_signedWord (by decide) (by decide) hlt
  | s32 =>
    show (((decode .s32 bytes).scale 31).toIntWithin (-0x80000000) 0x7fffffff % 0x100000000).toNat = _
    rw [show (decode .s32 bytes).scale 31 = .ofInt ((ofLittleEndian bytes : Int).bmod 0x100000000)
      from hscale]
    exact Binary.toNat_signedWord (by decide) (by decide) hlt
  | f32 => exact absurd rfl h

/-- Integer samples are read and written without loss. -/
theorem encode_decode (h : encoding ≠ .f32) (hlength : bytes.length = encoding.width) :
    encoding.encode (encoding.decode bytes) = bytes := by
  unfold encode
  rw [encodeWord_decode h hlength, ← hlength, littleEndian_ofLittleEndian]

theorem ext_bytesAt {data other : Bytes} {count : Nat} (hdata : data.size = count * encoding.width)
    (hother : other.size = count * encoding.width)
    (h : ∀ position < count, encoding.bytesAt data position = encoding.bytesAt other position) :
    data = other := by
  refine Array.ext (hdata.trans hother.symm) ?_
  intro i hi hi'
  have hwidth : 0 < encoding.width := by cases encoding <;> decide
  have hposition : i / encoding.width < count := by
    rw [hdata, Nat.mul_comm] at hi
    exact Nat.div_lt_of_lt_mul hi
  have hsplit : i / encoding.width * encoding.width + i % encoding.width = i :=
    Nat.div_add_mod' _ _
  have hoffset := Nat.mod_lt i hwidth
  have hread : ∀ (bytes : Bytes) (hb : i < bytes.size),
      (encoding.bytesAt bytes (i / encoding.width))[i % encoding.width]? = some bytes[i] := by
    intro bytes hb
    unfold bytesAt
    rw [Array.getElem?_toList, Array.getElem?_extract_of_lt (by omega)]
    simp only [hsplit]
  have hboth := hread data hi
  rw [h _ hposition, hread other hi'] at hboth
  exact (Option.some.inj hboth).symm

theorem length_bytesAt {data : Bytes} {position : Nat}
    (h : position * encoding.width + encoding.width ≤ data.size) :
    (encoding.bytesAt data position).length = encoding.width := by
  unfold bytesAt
  rw [Array.length_toList, Array.size_extract]
  omega

end SampleEncoding

/-! ## Conversions that keep encoding and channels -/

namespace AudioConversion

/-- Bytes that are the source samples of a block, channel after channel and instant after instant. -/
structure Interleaves (conversion : AudioConversion) (encoding : SampleEncoding)
    (planes : List Bytes) (samples : UInt32) (bytes : Bytes) : Prop where
  size : bytes.size = samples.toNat * conversion.sourceChannels * encoding.width
  sample : ∀ instant < samples.toNat, ∀ channel < conversion.sourceChannels,
    encoding.bytesAt bytes (instant * conversion.sourceChannels + channel) =
      conversion.sourceBytes encoding planes instant channel

/-- Source and target have one integer encoding and as many channels. -/
structure KeepsSamples (conversion : AudioConversion) (encoding : SampleEncoding) : Prop where
  integer : encoding ≠ .f32
  source : conversion.source.encoding? = some encoding
  target : conversion.target.encoding? = some encoding
  channels : conversion.targetLayout.channels = conversion.sourceLayout.channels

variable {conversion : AudioConversion} {encoding : SampleEncoding} {planes : List Bytes}
  {samples : UInt32}

theorem Interleaves.unique {bytes other : Bytes}
    (h : conversion.Interleaves encoding planes samples bytes)
    (hother : conversion.Interleaves encoding planes samples other) : bytes = other := by
  refine SampleEncoding.ext_bytesAt h.size hother.size ?_
  intro position hposition
  have hchannels : 0 < conversion.sourceChannels := Nat.pos_of_lt_mul_left hposition
  have hinstant : position / conversion.sourceChannels < samples.toNat := by
    rw [Nat.mul_comm] at hposition
    exact Nat.div_lt_of_lt_mul hposition
  have hchannel := Nat.mod_lt position hchannels
  rw [← Nat.div_add_mod' position conversion.sourceChannels, h.sample _ hinstant _ hchannel,
    hother.sample _ hinstant _ hchannel]

theorem KeepsSamples.targetChannels (h : conversion.KeepsSamples encoding) :
    conversion.targetChannels = conversion.sourceChannels :=
  congrArg UInt32.toNat h.channels

theorem length_sourceBytes (hsource : conversion.source.encoding? = some encoding)
    (hholds : conversion.HoldsSamples planes samples) {instant channel : Nat}
    (hinstant : instant < samples.toNat) (hchannel : channel < conversion.sourceChannels) :
    (conversion.sourceBytes encoding planes instant channel).length = encoding.width := by
  obtain ⟨bytes, hbytes, hsize⟩ := hholds _ (planeOf_lt hchannel)
  unfold sourceBytes
  rw [List.getD_eq_getElem?_getD, hbytes]
  exact SampleEncoding.length_bytesAt ((end_le_planeLength hsource hinstant hchannel).trans hsize)

/-- Converting samples one by one gives their bytes interleaved. -/
theorem KeepsSamples.interleaves_outputSamples? (h : conversion.KeepsSamples encoding)
    (hc : conversion.Created) (hholds : conversion.HoldsSamples planes samples) :
    ∃ chunks, conversion.outputSamples? planes samples = some chunks ∧
      conversion.Interleaves encoding planes samples chunks.flatten.toArray := by
  obtain ⟨chunks, hchunks, hlength, hmixed⟩ :=
    converted_of_outputSamples? h.source h.target hc.sources hholds
  refine ⟨chunks, hchunks, ?_, ?_⟩
  · rw [List.size_toArray, hlength]
    unfold outputLength SampleFormat.width
    rw [h.targetChannels, h.target]
    rfl
  · intro instant hinstant channel hchannel
    have hsample := hmixed instant hinstant channel (h.targetChannels ▸ hchannel)
    rw [h.targetChannels, mix_same _ hchannel,
      SampleEncoding.encode_decode h.integer
        (length_sourceBytes h.source hholds hinstant hchannel)] at hsample
    exact hsample

theorem KeepsSamples.interleaves_copy (h : conversion.KeepsSamples encoding)
    (hplanar : conversion.source.isPlanar = false)
    (hholds : conversion.HoldsSamples planes samples) :
    conversion.Interleaves encoding planes samples
      ((planes.getD 0 #[]).extract 0 (conversion.planeLength samples)) := by
  obtain ⟨first, hfirst, hsize⟩ := hholds 0 (by simp [sourcePlanes, hplanar])
  have hbytes : conversion.planeLength samples =
      samples.toNat * conversion.sourceChannels * encoding.width := by
    unfold planeLength SampleFormat.width
    rw [hplanar, h.source]
    rfl
  refine ⟨?_, ?_⟩
  · rw [List.getD_eq_getElem?_getD, hfirst, Option.getD_some, Array.size_extract,
      Nat.min_eq_left hsize, Nat.sub_zero, hbytes]
  · intro instant hinstant channel hchannel
    have hend := end_le_planeLength h.source hinstant hchannel
    have hposition : conversion.positionOf instant channel =
        instant * conversion.sourceChannels + channel := by
      simp [positionOf, hplanar]
    have hplane : conversion.planeOf channel = 0 := by
      simp [planeOf, hplanar]
    unfold sourceBytes
    rw [hposition] at hend ⊢
    rw [hplane]
    exact encoding.bytesAt_extract _ hend

/-- Where samples are kept, the source has no longer planes than the target. -/
theorem KeepsSamples.fits (h : conversion.KeepsSamples encoding) (hc : conversion.Created)
    (hlength : conversion.outputLength samples < UInt64.size) : conversion.Fits samples := by
  have hwidths : conversion.source.width = conversion.target.width := by
    unfold SampleFormat.width
    rw [h.source, h.target]
  have hplanes : conversion.outputLength samples =
      conversion.sourcePlanes * conversion.planeLength samples := by
    unfold outputLength sourcePlanes planeLength
    rw [h.targetChannels, ← hwidths]
    split
    · rw [← Nat.mul_assoc, Nat.mul_comm conversion.sourceChannels]
    · rw [Nat.one_mul]
  exact ⟨hlength, (hplanes ▸ Nat.le_mul_of_pos_left _ hc.sourcePlanes_pos).trans_lt hlength⟩

theorem KeepsSamples.output?_eq (h : conversion.KeepsSamples encoding) (hc : conversion.Created)
    (hfits : conversion.Fits samples)
    (hholds : conversion.HoldsSamples planes samples) {bytes : Bytes}
    (hbytes : conversion.Interleaves encoding planes samples bytes) :
    conversion.output? planes samples = some bytes := by
  unfold output?
  by_cases hpass : conversion.isPassthrough = true
  · have hcopy := h.interleaves_copy (hc.isPlanar_of_isPassthrough hpass) hholds
    obtain ⟨first, hfirst, -⟩ := hholds 0 hc.sourcePlanes_pos
    rw [List.getD_eq_getElem?_getD, hfirst] at hcopy
    rw [if_pos hpass, hfirst, hfits.planeBytes]
    exact congrArg some (hcopy.unique hbytes)
  · obtain ⟨chunks, hchunks, hwritten⟩ := h.interleaves_outputSamples? hc hholds
    obtain rfl := hwritten.unique hbytes
    have hsize := length_outputSamples hchunks
    rw [← hfits.outputBytes, ← List.size_toArray] at hsize
    rw [if_neg hpass, hchunks, Option.map_some, Option.filter_some, if_pos (decide_eq_true hsize)]

/-- **Integer samples are converted without loss.** Every sample is read exactly, as a number of at
most 32 bits over a power of two, and written as it was read. So converting one by one interleaves the
bytes of all channels, which determines the result; and so does every conversion into a buffer whose
length a word counts, which copies the samples where they are interleaved already. -/
theorem convertInto_lossless {sourceRate targetRate : UInt32} {source target : SampleFormat}
    {sourceLayout targetLayout : ChannelLayout}
    (hcreate : create sourceRate source sourceLayout targetRate target targetLayout = .ok conversion)
    (hkeeps : conversion.KeepsSamples encoding) (hholds : conversion.HoldsSamples planes samples) :
    (∀ sample : List UInt8, sample.length = encoding.width →
      (encoding.decode sample).value? =
        some ((encoding.wholeNumber sample : ℚ) / 2 ^ encoding.places) ∧
      (encoding.wholeNumber sample).natAbs ≤ 2 ^ 31 ∧
      encoding.encode (encoding.decode sample) = sample) ∧
    ∃ bytes, conversion.Interleaves encoding planes samples bytes ∧
      (∀ other, conversion.Interleaves encoding planes samples other → other = bytes) ∧
      (conversion.outputSamples? planes samples).map (·.flatten.toArray) = some bytes ∧
      (conversion.outputLength samples < UInt64.size →
        (conversion.isPassthrough = true →
          (planes.getD 0 #[]).extract 0 (conversion.planeBytes samples) = bytes) ∧
        ∀ buffer : Bytes, buffer.size = conversion.outputBytes samples →
          conversion.convertInto planes samples buffer = (.ok (), bytes)) := by
  have hc := created_of_create hcreate
  refine ⟨?_, ?_⟩
  · intro sample hlength
    exact ⟨SampleEncoding.value?_decode hkeeps.integer sample,
      SampleEncoding.natAbs_wholeNumber_le hkeeps.integer hlength,
      SampleEncoding.encode_decode hkeeps.integer hlength⟩
  · obtain ⟨chunks, hchunks, hwritten⟩ := hkeeps.interleaves_outputSamples? hc hholds
    refine ⟨_, hwritten, fun other hother => hother.unique hwritten, ?_, fun hlength => ?_⟩
    · rw [hchunks]
      rfl
    have hfits := hkeeps.fits hc hlength
    refine ⟨?_, ?_⟩
    · intro hpass
      rw [hfits.planeBytes]
      exact (hkeeps.interleaves_copy (hc.isPlanar_of_isPassthrough hpass) hholds).unique hwritten
    · intro buffer hsize
      unfold convertInto convert
      rw [if_neg (not_not_intro hsize), (covers_iff hfits).mpr hholds,
        hkeeps.output?_eq hc hfits hholds hwritten]
      rfl

/-- Two planes of signed words are interleaved. -/
def interleaving : AudioConversion := ⟨48000, .s16Planar, .stereo, .s16, .stereo⟩

/-- The least and the greatest word, in one order on the left and in the other on the right. -/
def extremes : List Bytes := [#[0, 128, 255, 127], #[255, 127, 0, 128]]

theorem convertInto_lossless_extremes :
    create 48000 .s16Planar .stereo 48000 .s16 .stereo = .ok interleaving ∧
    interleaving.KeepsSamples .s16 ∧ interleaving.HoldsSamples extremes 2 ∧
    interleaving.convertInto extremes 2 (Bytes.zeros 8) =
      (.ok (), #[0, 128, 255, 127, 255, 127, 0, 128]) := by
  have hcreate : create 48000 .s16Planar .stereo 48000 .s16 .stereo = .ok interleaving := by decide
  have hkeeps : interleaving.KeepsSamples .s16 := ⟨by decide, rfl, rfl, rfl⟩
  have hholds : interleaving.HoldsSamples extremes 2 :=
    (covers_iff ⟨by decide, by decide⟩).mp (by decide)
  obtain ⟨-, bytes, -, hunique, -, hword⟩ := convertInto_lossless hcreate hkeeps hholds
  have hbytes : #[0, 128, 255, 127, 255, 127, 0, 128] = bytes := by
    refine hunique _ ⟨rfl, ?_⟩
    show ∀ instant < 2, ∀ channel < 2, _ = _
    decide
  refine ⟨hcreate, hkeeps, hholds, ?_⟩
  rw [hbytes]
  exact (hword (by decide)).2 (Bytes.zeros 8) rfl

end AudioConversion

end StreamDecode
