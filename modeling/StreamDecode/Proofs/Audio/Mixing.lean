import Mathlib.Algebra.BigOperators.Group.List.Lemmas
import Mathlib.Tactic.SplitIfs
import StreamDecode.Proofs.Audio.Length

/-!
# Mixing of channels

What a conversion writes for each instant and target channel: `mix` says which value the source
channels give, and `AudioConversion.sourceBytes` from which bytes a source channel is read, in one
plane for all channels or in a plane for each.

A block holds its samples if every plane that the source has is there and long enough
(`HoldsSamples`). If no length wraps around, that is all that a conversion asks for besides the
length of its buffer: it refuses every other block (`outcome_convertInto`), and of a block that holds
its samples everything that it reads is there. Bytes behind the samples and further planes do not
count (`convertInto_mixes`).
-/

namespace StreamDecode

/-! ## Samples one after the other -/

namespace SampleEncoding

/-- The bytes of the sample at a position. -/
def bytesAt (encoding : SampleEncoding) (data : Bytes) (position : Nat) : List UInt8 :=
  (data.extract (position * encoding.width) (position * encoding.width + encoding.width)).toList

variable (encoding : SampleEncoding)

/-- In bytes made of samples, the bytes at the position of a sample are this sample. -/
theorem bytesAt_flatten {chunks : List (List UInt8)}
    (hchunks : ∀ chunk ∈ chunks, chunk.length = encoding.width) {position : Nat}
    (hposition : position < chunks.length) :
    encoding.bytesAt chunks.flatten.toArray position = chunks[position] := by
  have hlengths : chunks.map List.length = List.replicate chunks.length encoding.width :=
    List.map_eq_replicate_iff.mpr hchunks
  have hbefore : ((chunks.map List.length).take position).sum = position * encoding.width := by
    rw [hlengths, List.take_replicate, List.sum_replicate_nat, Nat.min_eq_left hposition.le]
  have hbehind : ((chunks.map List.length).take (position + 1)).sum =
      position * encoding.width + encoding.width := by
    rw [hlengths, List.take_replicate, List.sum_replicate_nat, Nat.min_eq_left hposition,
      Nat.succ_mul]
  unfold bytesAt
  rw [Array.toList_extract, List.extract_eq_take_drop, ← List.drop_take, ← hbehind, ← hbefore]
  exact List.drop_take_succ_flatten_eq_getElem chunks position hposition

theorem bytesAt_extract (data : Bytes) {position stop : Nat}
    (hstop : position * encoding.width + encoding.width ≤ stop) :
    encoding.bytesAt (data.extract 0 stop) position = encoding.bytesAt data position := by
  unfold bytesAt
  rw [Array.extract_extract, Nat.zero_add, Nat.zero_add, Nat.min_eq_left hstop]

end SampleEncoding

/-! ## Mixing -/

/-- The mean of values: their sum from the first one on, divided by their number. -/
def Binary.mean (values : List Binary) : Binary :=
  (values.foldl Binary.add .zero).divNat values.length

/-- The value of a target channel for given values of the source channels: a single source channel
feeds all targets, a single target channel has the mean, and otherwise channels keep their place and
those that are missing are silent. -/
def mix (sources targets : Nat) (source : Nat → Binary) (channel : Nat) : Binary :=
  if sources = 1 then source 0
  else if targets = 1 then .mean ((List.range sources).map source)
  else if channel < sources then source channel
  else .zero

theorem mix_congr {sources targets channel : Nat} {source other : Nat → Binary}
    (h : ∀ channel < sources, source channel = other channel) :
    mix sources targets source channel = mix sources targets other channel := by
  unfold mix
  by_cases hone : sources = 1
  · rw [if_pos hone, if_pos hone, h 0 (by omega)]
  · rw [if_neg hone, if_neg hone]
    have hmap : (List.range sources).map source = (List.range sources).map other :=
      List.map_congr_left fun channel hm => h channel (List.mem_range.mp hm)
    rw [hmap]
    by_cases hchannel : channel < sources
    · rw [if_pos hchannel, if_pos hchannel, h channel hchannel]
    · rw [if_neg hchannel, if_neg hchannel]

theorem mix_same {channels channel : Nat} (source : Nat → Binary) (h : channel < channels) :
    mix channels channels source channel = source channel := by
  unfold mix
  by_cases hone : channels = 1
  · rw [if_pos hone]
    congr 1
    omega
  · rw [if_neg hone, if_neg hone, if_pos h]

namespace AudioConversion

variable (conversion : AudioConversion)

/-- The plane in which the samples of a source channel are. -/
def planeOf (channel : Nat) : Nat := if conversion.source.isPlanar then channel else 0

/-- The position of a source sample in its plane. -/
def positionOf (instant channel : Nat) : Nat :=
  if conversion.source.isPlanar then instant else instant * conversion.sourceChannels + channel

/-- The bytes of the source sample of a channel at an instant. -/
def sourceBytes (encoding : SampleEncoding) (planes : List Bytes) (instant channel : Nat) :
    List UInt8 :=
  encoding.bytesAt (planes.getD (conversion.planeOf channel) #[])
    (conversion.positionOf instant channel)

/-- Whether planes hold a number of samples: each plane of the source is there and long enough. -/
def HoldsSamples (planes : List Bytes) (samples : UInt32) : Prop :=
  ∀ plane < conversion.sourcePlanes, ∃ bytes,
    planes[plane]? = some bytes ∧ conversion.planeLength samples ≤ bytes.size

/-- Whether a plane of the source is missing or too short for a number of samples. -/
def LacksSamples (planes : List Bytes) (samples : UInt32) : Prop :=
  ∃ plane < conversion.sourcePlanes, ∀ bytes,
    planes[plane]? = some bytes → bytes.size < conversion.planeLength samples

/-- Two blocks with the same samples: whatever is behind them in a plane, and whatever further planes
there are. -/
def SameSamples (samples : UInt32) (planes other : List Bytes) : Prop :=
  ∀ plane < conversion.sourcePlanes,
    planes[plane]?.map (·.extract 0 (conversion.planeLength samples)) =
      other[plane]?.map (·.extract 0 (conversion.planeLength samples))

variable {conversion} {planes other : List Bytes} {samples : UInt32}

theorem not_holdsSamples_iff :
    ¬ conversion.HoldsSamples planes samples ↔ conversion.LacksSamples planes samples := by
  unfold HoldsSamples LacksSamples
  simp only [not_forall, not_exists, not_and, Nat.not_le, exists_prop]

theorem covers_iff (hfits : conversion.Fits samples) :
    conversion.covers planes samples = true ↔ conversion.HoldsSamples planes samples := by
  unfold covers HoldsSamples
  rw [hfits.planeBytes, Bool.and_eq_true, decide_eq_true_eq, List.all_eq_true]
  constructor
  · rintro ⟨hplanes, hall⟩ plane hplane
    have hlength : plane < planes.length := by omega
    refine ⟨planes[plane], List.getElem?_eq_getElem hlength, ?_⟩
    exact of_decide_eq_true (hall _ (List.mem_take_iff_getElem.mpr ⟨plane, by omega, rfl⟩))
  · intro h
    have hplanes : conversion.sourcePlanes ≤ planes.length := by
      by_contra hn
      obtain ⟨bytes, hbytes, -⟩ := h planes.length (Nat.not_le.mp hn)
      simp at hbytes
    refine ⟨hplanes, ?_⟩
    intro bytes hm
    obtain ⟨plane, hplane, rfl⟩ := List.mem_take_iff_getElem.mp hm
    obtain ⟨found, hfound, hsize⟩ := h plane (by omega)
    rw [List.getElem?_eq_getElem (by omega)] at hfound
    rw [Option.some.inj hfound]
    exact decide_eq_true hsize

/-! ## Reading -/

section Reading

variable {encoding : SampleEncoding} {instant channel : Nat}

theorem planeOf_lt (hchannel : channel < conversion.sourceChannels) :
    conversion.planeOf channel < conversion.sourcePlanes := by
  unfold planeOf sourcePlanes
  split
  · exact hchannel
  · exact Nat.one_pos

/-- Every sample of the block ends within the bytes that its plane must have. -/
theorem end_le_planeLength (hencoding : conversion.source.encoding? = some encoding)
    (hinstant : instant < samples.toNat) (hchannel : channel < conversion.sourceChannels) :
    conversion.positionOf instant channel * encoding.width + encoding.width ≤
      conversion.planeLength samples := by
  have hwidth : conversion.source.width = encoding.width := by
    unfold SampleFormat.width
    rw [hencoding]
    rfl
  have hposition : conversion.positionOf instant channel + 1 ≤
      if conversion.source.isPlanar then samples.toNat
      else samples.toNat * conversion.sourceChannels := by
    unfold positionOf
    split
    · exact hinstant
    · rw [Nat.mul_comm instant]
      exact Nat.mul_add_lt_mul_of_lt_of_lt hinstant hchannel
  have hbytes := Nat.mul_le_mul_right encoding.width hposition
  rw [Nat.succ_mul] at hbytes
  unfold planeLength
  rw [hwidth]
  split at hbytes <;> rename_i hplanar <;> simp only [hplanar] <;> exact hbytes

theorem sourceSample?_eq (hencoding : conversion.source.encoding? = some encoding)
    (h : conversion.HoldsSamples planes samples) (hinstant : instant < samples.toNat)
    (hchannel : channel < conversion.sourceChannels) :
    conversion.sourceSample? planes instant channel =
      some (encoding.decode (conversion.sourceBytes encoding planes instant channel)) := by
  obtain ⟨bytes, hbytes, hsize⟩ := h _ (planeOf_lt hchannel)
  have hend := (end_le_planeLength hencoding hinstant hchannel).trans hsize
  unfold sourceBytes
  rw [List.getD_eq_getElem?_getD, hbytes]
  unfold sourceSample?
  rw [hencoding]
  show (planes[conversion.planeOf channel]?.bind fun plane =>
    if conversion.positionOf instant channel * encoding.width + encoding.width ≤ plane.size then _
    else none) = _
  rw [hbytes]
  exact if_pos hend

theorem meanSample?_eq (hencoding : conversion.source.encoding? = some encoding)
    (h : conversion.HoldsSamples planes samples) (hinstant : instant < samples.toNat) :
    conversion.meanSample? planes instant =
      some (.mean ((List.range conversion.sourceChannels).map fun channel =>
        encoding.decode (conversion.sourceBytes encoding planes instant channel))) := by
  have hread : (List.range conversion.sourceChannels).mapM
      (conversion.sourceSample? planes instant) =
      some ((List.range conversion.sourceChannels).map fun channel =>
        encoding.decode (conversion.sourceBytes encoding planes instant channel)) := by
    rw [mapM_eq_some_iff, List.map_map]
    refine List.map_congr_left ?_
    intro channel hm
    exact sourceSample?_eq hencoding h hinstant (List.mem_range.mp hm)
  unfold meanSample?
  rw [hread]
  simp [Binary.mean]

theorem outputSample?_eq (hencoding : conversion.source.encoding? = some encoding)
    (hsources : 0 < conversion.sourceChannels) (h : conversion.HoldsSamples planes samples)
    (hinstant : instant < samples.toNat) :
    conversion.outputSample? planes instant channel =
      some (mix conversion.sourceChannels conversion.targetChannels
        (fun channel => encoding.decode (conversion.sourceBytes encoding planes instant channel))
        channel) := by
  unfold outputSample? mix
  by_cases hone : conversion.sourceChannels = 1
  · rw [if_pos hone, if_pos hone]
    exact sourceSample?_eq hencoding h hinstant hsources
  rw [if_neg hone, if_neg hone]
  by_cases hmean : conversion.targetChannels = 1
  · rw [if_pos hmean, if_pos hmean]
    exact meanSample?_eq hencoding h hinstant
  rw [if_neg hmean, if_neg hmean]
  by_cases hchannel : channel < conversion.sourceChannels
  · rw [if_pos hchannel, if_pos hchannel]
    exact sourceSample?_eq hencoding h hinstant hchannel
  · rw [if_neg hchannel, if_neg hchannel]

end Reading

/-! ## Writing -/

/-- What a conversion writes for a block: on a copy the bytes of the source, and otherwise at the place
of each instant and target channel the value that is mixed from the source samples. -/
structure Converted (conversion : AudioConversion) (planes : List Bytes) (samples : UInt32)
    (bytes : Bytes) : Prop where
  size : bytes.size = conversion.outputBytes samples
  copied : conversion.isPassthrough = true →
    bytes = (planes.getD 0 #[]).extract 0 (conversion.planeBytes samples)
  mixed : conversion.isPassthrough = false → ∀ encoding written,
    conversion.source.encoding? = some encoding → conversion.target.encoding? = some written →
      ∀ instant < samples.toNat, ∀ channel < conversion.targetChannels,
        written.bytesAt bytes (instant * conversion.targetChannels + channel) =
          written.encode (mix conversion.sourceChannels conversion.targetChannels
            (fun channel =>
              encoding.decode (conversion.sourceBytes encoding planes instant channel)) channel)

/-- What `AudioConversion.create` checks. -/
structure Created (conversion : AudioConversion) : Prop where
  source : conversion.source.encoding? ≠ none
  target : conversion.target.encoding? ≠ none
  interleaved : conversion.target.isPlanar = false
  sources : 0 < conversion.sourceChannels
  targets : 0 < conversion.targetChannels

theorem created_of_create {sourceRate targetRate : UInt32} {source target : SampleFormat}
    {sourceLayout targetLayout : ChannelLayout}
    (h : create sourceRate source sourceLayout targetRate target targetLayout = .ok conversion) :
    conversion.Created := by
  unfold create at h
  split_ifs at h with hrate hformats hplanar hchannels
  cases h
  obtain ⟨hsource, htarget⟩ := not_or.mp hformats
  obtain ⟨hsources, htargets⟩ := not_or.mp hchannels
  refine ⟨hsource, htarget, by simpa using hplanar, ?_, ?_⟩
  · exact UInt32.lt_iff_toNat_lt.mp (UInt32.pos_iff_ne_zero.mpr hsources)
  · exact UInt32.lt_iff_toNat_lt.mp (UInt32.pos_iff_ne_zero.mpr htargets)

theorem Created.sourcePlanes_pos (hc : conversion.Created) : 0 < conversion.sourcePlanes := by
  unfold sourcePlanes
  split
  · exact hc.sources
  · exact Nat.one_pos

theorem Created.isPlanar_of_isPassthrough (hc : conversion.Created)
    (hpass : conversion.isPassthrough = true) : conversion.source.isPlanar = false := by
  simp only [isPassthrough, Bool.and_eq_true, decide_eq_true_eq] at hpass
  rw [hpass.1, hc.interleaved]

section Writing

variable {encoding written : SampleEncoding} {instant channel : Nat}

theorem targetPosition_lt (hinstant : instant < samples.toNat)
    (hchannel : channel < conversion.targetChannels) :
    instant * conversion.targetChannels + channel <
      samples.toNat * conversion.targetChannels := by
  rw [Nat.mul_comm instant]
  exact Nat.mul_add_lt_mul_of_lt_of_lt hinstant hchannel

theorem instant_lt_of_position {position : Nat}
    (h : position < samples.toNat * conversion.targetChannels) :
    position / conversion.targetChannels < samples.toNat := by
  rw [Nat.mul_comm] at h
  exact Nat.div_lt_of_lt_mul h

theorem outputSamples?_eq (hsource : conversion.source.encoding? = some encoding)
    (htarget : conversion.target.encoding? = some written)
    (hsources : 0 < conversion.sourceChannels) (h : conversion.HoldsSamples planes samples) :
    conversion.outputSamples? planes samples =
      some ((List.range (samples.toNat * conversion.targetChannels)).map fun position =>
        written.encode (mix conversion.sourceChannels conversion.targetChannels
          (fun channel => encoding.decode (conversion.sourceBytes encoding planes
            (position / conversion.targetChannels) channel))
          (position % conversion.targetChannels))) := by
  unfold outputSamples?
  rw [htarget]
  show List.mapM _ _ = _
  rw [mapM_eq_some_iff, List.map_map]
  refine List.map_congr_left ?_
  intro position hm
  have hinstant := instant_lt_of_position (List.mem_range.mp hm)
  dsimp only [Function.comp_apply]
  rw [outputSample?_eq hsource hsources h hinstant]
  rfl

/-- The written samples of a block are what is mixed, each at the place of its instant and channel. -/
theorem converted_of_outputSamples? (hsource : conversion.source.encoding? = some encoding)
    (htarget : conversion.target.encoding? = some written)
    (hsources : 0 < conversion.sourceChannels) (h : conversion.HoldsSamples planes samples) :
    ∃ chunks, conversion.outputSamples? planes samples = some chunks ∧
      chunks.flatten.length = conversion.outputLength samples ∧
      ∀ instant < samples.toNat, ∀ channel < conversion.targetChannels,
        written.bytesAt chunks.flatten.toArray (instant * conversion.targetChannels + channel) =
          written.encode (mix conversion.sourceChannels conversion.targetChannels
            (fun channel =>
              encoding.decode (conversion.sourceBytes encoding planes instant channel)) channel) := by
  have hsamples := outputSamples?_eq hsource htarget hsources h
  refine ⟨_, hsamples, length_outputSamples hsamples, ?_⟩
  intro instant hinstant channel hchannel
  have hposition := targetPosition_lt hinstant hchannel
  obtain ⟨hdiv, hmod⟩ := (Nat.div_mod_unique (Nat.zero_lt_of_lt hchannel)).mpr
    ⟨Nat.add_comm channel (conversion.targetChannels * instant), hchannel⟩
  rw [Nat.mul_comm conversion.targetChannels] at hdiv hmod
  rw [written.bytesAt_flatten _ (by simpa using hposition), List.getElem_map, List.getElem_range,
    hdiv, hmod]
  intro chunk hm
  obtain ⟨position, -, rfl⟩ := List.mem_map.mp hm
  exact SampleEncoding.length_encode _ _

end Writing

theorem exists_output? (hc : conversion.Created) (hfits : conversion.Fits samples)
    (h : conversion.HoldsSamples planes samples) :
    ∃ bytes, conversion.output? planes samples = some bytes ∧
      conversion.Converted planes samples bytes := by
  obtain ⟨encoding, hsource⟩ := Option.ne_none_iff_exists'.mp hc.source
  obtain ⟨written, htarget⟩ := Option.ne_none_iff_exists'.mp hc.target
  unfold output?
  by_cases hpass : conversion.isPassthrough = true
  · rw [if_pos hpass]
    obtain ⟨first, hfirst, hsize⟩ := h 0 hc.sourcePlanes_pos
    rw [hfirst]
    refine ⟨_, rfl, ?_, ?_, ?_⟩
    · rw [Array.size_extract, hfits.planeBytes, Nat.min_eq_left hsize, Nat.sub_zero,
        ← hfits.planeBytes]
      exact planeBytes_of_passthrough hpass (hc.isPlanar_of_isPassthrough hpass)
    · intro
      rw [List.getD_eq_getElem?_getD, hfirst]
      rfl
    · intro hn
      rw [hpass] at hn
      cases hn
  · rw [if_neg hpass]
    obtain ⟨chunks, hchunks, hlength, hmixed⟩ :=
      converted_of_outputSamples? hsource htarget hc.sources h
    have hsize : chunks.flatten.toArray.size = conversion.outputBytes samples := by
      rw [List.size_toArray, hlength, hfits.outputBytes]
    rw [hchunks, Option.map_some, Option.filter_some, if_pos (decide_eq_true hsize)]
    refine ⟨_, rfl, hsize, fun hp => absurd hp hpass, ?_⟩
    intro _ other otherWritten hother hwritten
    cases hsource.symm.trans hother
    cases htarget.symm.trans hwritten
    exact hmixed

/-! ## Outcomes -/

/-- What a conversion of a block into a buffer answers, and the buffer that it leaves. -/
inductive Outcome (conversion : AudioConversion) (planes : List Bytes) (samples : UInt32)
    (buffer : Bytes) : Except MediaError Unit × Bytes → Prop
  | bufferSize (hsize : buffer.size ≠ conversion.outputBytes samples) :
    Outcome conversion planes samples buffer
      (.error (.invalidArgument
        (.audioBufferSize buffer.size (conversion.outputBytes samples))), buffer)
  | data (hsize : buffer.size = conversion.outputBytes samples)
      (hlacks : conversion.LacksSamples planes samples) :
    Outcome conversion planes samples buffer
      (.error (.invalidData
        (.samplesMissing conversion.sourcePlanes (conversion.planeBytes samples))), buffer)
  | converted {bytes : Bytes} (hsize : buffer.size = conversion.outputBytes samples)
      (hholds : conversion.HoldsSamples planes samples)
      (hconverted : conversion.Converted planes samples bytes) :
    Outcome conversion planes samples buffer (.ok (), bytes)

/-- A conversion ends in one of the three ways. -/
theorem outcome_convertInto (hc : conversion.Created) (hfits : conversion.Fits samples)
    (planes : List Bytes) (buffer : Bytes) :
    conversion.Outcome planes samples buffer (conversion.convertInto planes samples buffer) := by
  unfold convertInto convert
  by_cases hsize : buffer.size = conversion.outputBytes samples
  · rw [if_neg (not_not_intro hsize)]
    by_cases hholds : conversion.HoldsSamples planes samples
    · obtain ⟨bytes, hbytes, hconverted⟩ := exists_output? hc hfits hholds
      rw [(covers_iff hfits).mpr hholds, hbytes]
      exact Outcome.converted hsize hholds hconverted
    · rw [Bool.eq_false_iff.mpr (mt (covers_iff hfits).mp hholds)]
      exact Outcome.data hsize (not_holdsSamples_iff.mp hholds)
  · rw [if_pos hsize]
    exact Outcome.bufferSize hsize

/-- Everything that a conversion reads lies within the planes, and everything that it writes within a
buffer of the given length. -/
structure InBounds (conversion : AudioConversion) (planes : List Bytes) (samples : UInt32)
    (length : Nat) : Prop where
  read : ∀ instant < samples.toNat, ∀ channel < conversion.sourceChannels,
    (conversion.sourceSample? planes instant channel).isSome
  copied : conversion.isPassthrough = true →
    ∃ first, planes[0]? = some first ∧ conversion.planeBytes samples ≤ first.size
  written : ∀ instant < samples.toNat, ∀ channel < conversion.targetChannels,
    (instant * conversion.targetChannels + channel) * conversion.target.width +
      conversion.target.width ≤ length

theorem inBounds_of_holdsSamples (hc : conversion.Created) (hfits : conversion.Fits samples)
    (h : conversion.HoldsSamples planes samples) :
    conversion.InBounds planes samples (conversion.outputBytes samples) := by
  obtain ⟨encoding, hsource⟩ := Option.ne_none_iff_exists'.mp hc.source
  refine ⟨?_, ?_, ?_⟩
  · intro instant hinstant channel hchannel
    rw [sourceSample?_eq hsource h hinstant hchannel]
    rfl
  · intro
    rw [hfits.planeBytes]
    exact h 0 hc.sourcePlanes_pos
  · intro instant hinstant channel hchannel
    rw [hfits.outputBytes, ← Nat.succ_mul]
    exact Nat.mul_le_mul_right _ (targetPosition_lt hinstant hchannel)

/-- Which answer a conversion into a buffer has, and what it leaves there. -/
structure Exact (conversion : AudioConversion) (planes : List Bytes) (samples : UInt32)
    (buffer : Bytes) (answer : Except MediaError Unit) (after : Bytes) : Prop where
  invalidArgument : (∃ blame, answer = .error (.invalidArgument blame)) ↔
    buffer.size ≠ conversion.outputBytes samples
  invalidData : (∃ fault, answer = .error (.invalidData fault)) ↔
    buffer.size = conversion.outputBytes samples ∧ conversion.LacksSamples planes samples
  ok : answer = .ok () ↔
    buffer.size = conversion.outputBytes samples ∧ ¬ conversion.LacksSamples planes samples
  kept : ∀ error, answer = .error error → after = buffer
  inBounds : answer = .ok () → conversion.InBounds planes samples buffer.size
  converted : answer = .ok () → conversion.Converted planes samples after

theorem Outcome.exact (hc : conversion.Created) (hfits : conversion.Fits samples)
    {buffer after : Bytes} {answer : Except MediaError Unit}
    (h : conversion.Outcome planes samples buffer (answer, after)) :
    conversion.Exact planes samples buffer answer after := by
  cases h with
  | bufferSize hsize => constructor <;> simp [hsize]
  | data hsize hlacks => constructor <;> simp [hsize, hlacks]
  | converted hsize hholds hconverted =>
    have hbounds := inBounds_of_holdsSamples hc hfits hholds
    constructor <;> simp [hsize, hholds, hconverted, hbounds, ← not_holdsSamples_iff]

/-! ## What a block is converted from -/

theorem SameSamples.symm (h : conversion.SameSamples samples planes other) :
    conversion.SameSamples samples other planes :=
  fun plane hplane => (h plane hplane).symm

theorem HoldsSamples.of_same (h : conversion.HoldsSamples planes samples)
    (hsame : conversion.SameSamples samples planes other) :
    conversion.HoldsSamples other samples := by
  intro plane hplane
  obtain ⟨bytes, hbytes, hsize⟩ := h plane hplane
  have hextract := hsame plane hplane
  rw [hbytes] at hextract
  obtain ⟨found, hfound, hcut⟩ := Option.map_eq_some_iff.mp hextract.symm
  refine ⟨found, hfound, ?_⟩
  have hsizes := congrArg Array.size hcut
  rw [Array.size_extract, Array.size_extract] at hsizes
  omega

theorem sourceBytes_congr {encoding : SampleEncoding}
    (hencoding : conversion.source.encoding? = some encoding)
    (hsame : conversion.SameSamples samples planes other) {instant channel : Nat}
    (hinstant : instant < samples.toNat) (hchannel : channel < conversion.sourceChannels) :
    conversion.sourceBytes encoding planes instant channel =
      conversion.sourceBytes encoding other instant channel := by
  have hend := end_le_planeLength hencoding hinstant hchannel
  have hcut := congrArg (Option.getD · #[]) (hsame _ (planeOf_lt hchannel))
  have hgetD : ∀ planes : List Bytes,
      (planes[conversion.planeOf channel]?.map
        (·.extract 0 (conversion.planeLength samples))).getD #[] =
      (planes.getD (conversion.planeOf channel) #[]).extract 0 (conversion.planeLength samples) := by
    intro planes
    rw [List.getD_eq_getElem?_getD]
    cases planes[conversion.planeOf channel]? with
    | none => simp
    | some bytes => rfl
  rw [hgetD, hgetD] at hcut
  unfold sourceBytes
  rw [← encoding.bytesAt_extract _ hend, hcut, encoding.bytesAt_extract _ hend]

theorem output?_congr (hc : conversion.Created) (hfits : conversion.Fits samples)
    (h : conversion.HoldsSamples planes samples)
    (hsame : conversion.SameSamples samples planes other) :
    conversion.output? planes samples = conversion.output? other samples := by
  obtain ⟨encoding, hsource⟩ := Option.ne_none_iff_exists'.mp hc.source
  obtain ⟨written, htarget⟩ := Option.ne_none_iff_exists'.mp hc.target
  unfold output?
  by_cases hpass : conversion.isPassthrough = true
  · rw [if_pos hpass, if_pos hpass, hfits.planeBytes]
    exact hsame 0 hc.sourcePlanes_pos
  · rw [if_neg hpass, if_neg hpass, outputSamples?_eq hsource htarget hc.sources h,
      outputSamples?_eq hsource htarget hc.sources (h.of_same hsame)]
    refine congrArg (fun chunks => ((some chunks).map _).filter _) (List.map_congr_left ?_)
    intro position hm
    have hinstant := instant_lt_of_position (List.mem_range.mp hm)
    refine congrArg written.encode (mix_congr ?_)
    intro channel hchannel
    rw [sourceBytes_congr hsource hsame hinstant hchannel]

theorem convert_congr (hc : conversion.Created) (hfits : conversion.Fits samples)
    (hsame : conversion.SameSamples samples planes other) (length : Nat) :
    conversion.convert planes samples length = conversion.convert other samples length := by
  unfold convert
  by_cases h : conversion.HoldsSamples planes samples
  · rw [(covers_iff hfits).mpr h, (covers_iff hfits).mpr (h.of_same hsame),
      output?_congr hc hfits h hsame]
  · have hother : ¬ conversion.HoldsSamples other samples := fun hn => h (hn.of_same hsame.symm)
    rw [Bool.eq_false_iff.mpr (mt (covers_iff hfits).mp h),
      Bool.eq_false_iff.mpr (mt (covers_iff hfits).mp hother)]
    rfl

/-- If no length wraps around, a conversion that was created refuses a buffer of another length, then
a block that lacks samples, and leaves the buffer as it is; any other block it mixes. The answer and
what it writes are those for every block with the same samples and every other buffer of this
length. -/
theorem convertInto_mixes {sourceRate targetRate : UInt32} {source target : SampleFormat}
    {sourceLayout targetLayout : ChannelLayout}
    (h : create sourceRate source sourceLayout targetRate target targetLayout = .ok conversion)
    (hfits : conversion.Fits samples) (planes : List Bytes) (buffer : Bytes) :
    conversion.Exact planes samples buffer (conversion.convertInto planes samples buffer).1
        (conversion.convertInto planes samples buffer).2 ∧
      ∀ other otherBuffer, conversion.SameSamples samples planes other →
        buffer.size = otherBuffer.size →
          (conversion.convertInto other samples otherBuffer).1 =
            (conversion.convertInto planes samples buffer).1 ∧
          ((conversion.convertInto planes samples buffer).1 = .ok () →
            (conversion.convertInto other samples otherBuffer).2 =
              (conversion.convertInto planes samples buffer).2) := by
  have hc := created_of_create h
  refine ⟨(outcome_convertInto hc hfits planes buffer).exact hc hfits, ?_⟩
  intro other otherBuffer hsame hsize
  unfold convertInto
  rw [← hsize, ← convert_congr hc hfits hsame]
  cases conversion.convert planes samples buffer.size with
  | ok bytes => exact ⟨rfl, fun _ => rfl⟩
  | error error => exact ⟨rfl, nofun⟩

/-- From two planes to a single channel. -/
def downmix : AudioConversion := ⟨48000, .s16Planar, .stereo, .s16, .mono⟩

/-- Two instants in two planes: the values 3, -32768 on the left and 4, -32768 on the right. -/
def packedPair : List Bytes := [#[3, 0, 0, 128], #[4, 0, 0, 128]]

/-- The same samples with bytes behind them and a third plane. -/
def paddedPair : List Bytes := [#[3, 0, 0, 128, 77], #[4, 0, 0, 128, 1, 2, 3], #[9]]

/-- The mean of 3 and 4 is rounded away from zero, and bytes behind the samples do not count. -/
theorem convertInto_mixes_downmix :
    create 48000 .s16Planar .stereo 48000 .s16 .mono = .ok downmix ∧ downmix.Fits 2 ∧
    downmix.SameSamples 2 paddedPair packedPair ∧
    downmix.convertInto paddedPair 2 (Bytes.zeros 4) = (.ok (), #[4, 0, 0, 128]) ∧
    downmix.Converted paddedPair 2 #[4, 0, 0, 128] ∧
    downmix.convertInto packedPair 2 #[1, 1, 1, 1] = (.ok (), #[4, 0, 0, 128]) := by
  have hcreate : create 48000 .s16Planar .stereo 48000 .s16 .mono = .ok downmix := by decide
  have hfits : downmix.Fits 2 := ⟨by decide, by decide⟩
  have hsame : downmix.SameSamples 2 paddedPair packedPair := by
    show ∀ plane < 2, _ = _
    decide
  have hpadded : downmix.convertInto paddedPair 2 (Bytes.zeros 4) = (.ok (), #[4, 0, 0, 128]) := by
    decide +kernel
  obtain ⟨hexact, hother⟩ := convertInto_mixes hcreate hfits paddedPair (Bytes.zeros 4)
  obtain ⟨hanswer, hbytes⟩ := hother packedPair #[1, 1, 1, 1] hsame rfl
  rw [hpadded] at hexact hanswer hbytes
  exact ⟨hcreate, hfits, hsame, hpadded, hexact.converted rfl, Prod.ext hanswer (hbytes rfl)⟩

end AudioConversion

end StreamDecode
