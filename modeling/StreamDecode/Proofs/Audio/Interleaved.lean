import StreamDecode.Engine.Pcm
import StreamDecode.Proofs.Audio.Mixing
import StreamDecode.Proofs.Renderer.Rendering

/-!
# Interleaved audio as floats

Between formats with the same channels, interleaved samples are converted one by one in the order in
which they stand, whatever the number of channels and the arrangement of the speakers:
`AudioConversion.convert_interleaved`. Floats stay as they are.

`PcmEncoding.toFloat` is what becomes of the data of a packet of uncompressed audio.
-/

namespace StreamDecode

/-! ## One sample after the other -/

namespace SampleEncoding

/-- The sample at a position as a float. -/
def floatAt (encoding : SampleEncoding) (data : Bytes) (position : Nat) : List UInt8 :=
  f32.encode (encoding.decode (encoding.bytesAt data position))

/-- A number of samples as floats. -/
def floats (encoding : SampleEncoding) (data : Bytes) (count : Nat) : Bytes :=
  ((List.range count).flatMap (encoding.floatAt data)).toArray

variable (encoding : SampleEncoding) (data : Bytes)

theorem length_floatAt (position : Nat) : (encoding.floatAt data position).length = 4 :=
  length_encode _ _

theorem size_floats (count : Nat) : (encoding.floats data count).size = 4 * count := by
  unfold floats
  rw [List.size_toArray, List.length_flatMap]
  simp [length_floatAt, Nat.mul_comm]

theorem extract_floats {count position : Nat} (hp : position < count) :
    ((encoding.floats data count).extract (4 * position) (4 * position + 4)).toList =
      encoding.floatAt data position := by
  have hchunks : ∀ chunk ∈ (List.range count).map (encoding.floatAt data),
      chunk.length = f32.width := by
    intro chunk hm
    obtain ⟨position, -, rfl⟩ := List.mem_map.mp hm
    exact encoding.length_floatAt data position
  have hsample := f32.bytesAt_flatten hchunks (by simpa using hp)
  rw [List.getElem_map, List.getElem_range] at hsample
  unfold floats
  rw [List.flatMap_def, Nat.mul_comm]
  exact hsample

end SampleEncoding

/-! ## Conversions that keep the channels -/

namespace AudioConversion

/-- The source has one plane in a known encoding, the target are floats, and the channels stay. -/
structure KeepsChannels (conversion : AudioConversion) (encoding : SampleEncoding) : Prop where
  source : conversion.source.encoding? = some encoding
  interleaved : conversion.source.isPlanar = false
  target : conversion.target = .f32
  channels : conversion.targetLayout.channels = conversion.sourceLayout.channels
  positive : 0 < conversion.sourceChannels

namespace KeepsChannels

variable {conversion : AudioConversion} {encoding : SampleEncoding} {data : Bytes}

theorem targetChannels (h : conversion.KeepsChannels encoding) :
    conversion.targetChannels = conversion.sourceChannels :=
  congrArg UInt32.toNat h.channels

theorem planeLength (h : conversion.KeepsChannels encoding) (samples : UInt32) :
    conversion.planeLength samples =
      samples.toNat * conversion.sourceChannels * encoding.width := by
  unfold AudioConversion.planeLength SampleFormat.width
  rw [h.interleaved, h.source]
  rfl

theorem outputLength (h : conversion.KeepsChannels encoding) (samples : UInt32) :
    conversion.outputLength samples = 4 * (samples.toNat * conversion.sourceChannels) := by
  unfold AudioConversion.outputLength
  rw [h.target, h.targetChannels, Nat.mul_comm]
  rfl

/-- No source sample is wider than a float. -/
theorem fits (h : conversion.KeepsChannels encoding) {samples : UInt32}
    (hlength : 4 * (samples.toNat * conversion.sourceChannels) < UInt64.size) :
    conversion.Fits samples := by
  have hwidth : encoding.width ≤ 4 := by
    cases encoding <;> decide
  refine ⟨h.outputLength samples ▸ hlength, ?_⟩
  rw [h.planeLength, Nat.mul_comm]
  exact (Nat.mul_le_mul_right _ hwidth).trans_lt hlength

theorem holdsSamples (h : conversion.KeepsChannels encoding) {samples : UInt32}
    (hdata : data.size = conversion.planeLength samples) :
    conversion.HoldsSamples [data] samples := by
  intro plane hplane
  unfold AudioConversion.sourcePlanes at hplane
  rw [h.interleaved] at hplane
  obtain rfl : plane = 0 := Nat.lt_one_iff.mp hplane
  exact ⟨data, rfl, Nat.le_of_eq hdata.symm⟩

/-- The samples of a source with one plane stand in the order of instants and channels. -/
theorem sourceBytes (h : conversion.KeepsChannels encoding) (position : Nat) :
    conversion.sourceBytes encoding [data] (position / conversion.sourceChannels)
        (position % conversion.sourceChannels) = encoding.bytesAt data position := by
  unfold AudioConversion.sourceBytes planeOf positionOf
  rw [h.interleaved]
  show encoding.bytesAt data _ = _
  rw [if_neg Bool.false_ne_true, Nat.div_add_mod']

theorem outputSamples? (h : conversion.KeepsChannels encoding) {samples : UInt32}
    (hdata : data.size = conversion.planeLength samples) :
    conversion.outputSamples? [data] samples =
      some ((List.range (samples.toNat * conversion.sourceChannels)).map
        (encoding.floatAt data)) := by
  have htarget : conversion.target.encoding? = some .f32 := by
    rw [h.target]
    rfl
  rw [outputSamples?_eq h.source htarget h.positive (h.holdsSamples hdata), h.targetChannels]
  refine congrArg some (List.map_congr_left ?_)
  intro position _
  rw [mix_same _ (Nat.mod_lt position h.positive), h.sourceBytes]
  rfl

/-- Floats are copied, and other samples are converted one by one. -/
theorem convert (h : conversion.KeepsChannels encoding) {samples : UInt32}
    (hfits : conversion.Fits samples) (hdata : data.size = conversion.planeLength samples) :
    conversion.convert [data] samples (conversion.outputBytes samples) =
      .ok (if conversion.source = .f32 then data
        else encoding.floats data (samples.toNat * conversion.sourceChannels)) := by
  have hpass : conversion.isPassthrough = decide (conversion.source = .f32) := by
    unfold isPassthrough
    rw [h.target, h.channels, decide_eq_true rfl, Bool.and_true]
  unfold AudioConversion.convert output?
  rw [if_neg (not_not_intro rfl), (covers_iff hfits).mpr (h.holdsSamples hdata), hpass,
    h.outputSamples? hdata]
  by_cases hsource : conversion.source = .f32
  · rw [if_pos hsource, decide_eq_true hsource, hfits.planeBytes, ← hdata]
    show Except.ok (data.extract 0 data.size) = _
    rw [Array.extract_size]
  · have hsize : (encoding.floats data (samples.toNat * conversion.sourceChannels)).size =
        conversion.outputBytes samples := by
      rw [SampleEncoding.size_floats, hfits.outputBytes, h.outputLength]
    unfold SampleEncoding.floats at hsize ⊢
    rw [List.flatMap_def] at hsize ⊢
    rw [if_neg hsource, decide_eq_false hsource, if_neg Bool.false_ne_true, Option.map_some,
      Option.filter_some, if_pos (decide_eq_true hsize)]
    rfl

end KeepsChannels

end AudioConversion

/-! ## Rendering -/

namespace PcmEncoding

/-- The encoding of a single sample. -/
def sample : PcmEncoding → SampleEncoding
  | .s16 => .s16
  | .f32 => .f32

/-- The data of a packet as floats. -/
def toFloat : PcmEncoding → Bytes → Bytes
  | .s16, data => SampleEncoding.s16.floats data (data.size / SampleEncoding.s16.width)
  | .f32, data => data

theorem encoding?_sampleFormat (encoding : PcmEncoding) :
    encoding.sampleFormat.encoding? = some encoding.sample := by
  cases encoding <;> rfl

theorem size_toFloat {encoding : PcmEncoding} {data : Bytes} {count : Nat}
    (h : data.size = count * encoding.sample.width) :
    (encoding.toFloat data).size = 4 * count := by
  cases encoding with
  | s16 =>
    show (SampleEncoding.s16.floats data (data.size / 2)).size = _
    have hcount : data.size = count * 2 := h
    rw [SampleEncoding.size_floats, hcount, Nat.mul_div_cancel _ Nat.two_pos]
  | f32 => exact h.trans (Nat.mul_comm _ _)

end PcmEncoding

namespace AudioRenderer

theorem keepsChannels_conversionFor (rate : UInt32) (encoding : PcmEncoding)
    {layout : ChannelLayout} (hchannels : 0 < layout.channels) :
    ∃ conversion, conversionFor rate encoding.sampleFormat layout = .ok conversion ∧
      conversion.KeepsChannels encoding.sample ∧ conversion.source = encoding.sampleFormat ∧
      conversion.sourceChannels = layout.channels.toNat := by
  have hencoding := encoding.encoding?_sampleFormat
  have hsource := channels_sourceLayoutFor layout
  refine ⟨_, conversionFor_eq_ok_iff.mpr ⟨?_, ?_, rfl⟩, ⟨hencoding, ?_, rfl, ?_, ?_⟩, rfl,
    congrArg UInt32.toNat hsource⟩
  · rw [hencoding]
    nofun
  · exact UInt32.pos_iff_ne_zero.mp hchannels
  · cases encoding <;> rfl
  · exact (ChannelLayout.channels_standard _).trans hsource.symm
  · show 0 < (sourceLayoutFor layout).channels.toNat
    rw [hsource]
    exact UInt32.lt_iff_toNat_lt.mp hchannels

/-- The frame of a packet with whole blocks is rendered to the samples of the packet as floats, if
there is memory for them. -/
theorem rendering_pcm {engine : PcmEngine} (hchannels : 0 < engine.layout.channels)
    {packet : Packet} {blocks : UInt32}
    (hlength : 4 * (blocks.toNat * engine.layout.channels.toNat) < UInt64.size)
    (hdata : packet.data.size =
      blocks.toNat * engine.layout.channels.toNat * engine.encoding.sample.width) :
    rendering (.audio (engine.frame packet blocks)) =
      (allocate (4 * (blocks.toNat * engine.layout.channels.toNat)) "音频输出缓冲区").map fun _ =>
        engine.encoding.toFloat packet.data := by
  obtain ⟨conversion, hconversion, hkeeps, hsource, hsame⟩ :=
    keepsChannels_conversionFor engine.rate engine.encoding hchannels
  have hplane : packet.data.size = conversion.planeLength blocks := by
    rw [hkeeps.planeLength, hsame, hdata]
  have hfits := hkeeps.fits (hsame.symm ▸ hlength)
  have hconverted := hkeeps.convert hfits hplane
  show (do
    let conversion ← conversionFor engine.rate engine.encoding.sampleFormat engine.layout
    let buffer ← allocate (conversion.outputBytes blocks) "音频输出缓冲区"
    conversion.convert [packet.data] blocks buffer.size) = _
  rw [hconversion]
  dsimp only [bind, Except.bind]
  rw [hfits.outputBytes, hkeeps.outputLength, hsame] at hconverted ⊢
  rcases Nat.lt_or_ge maxBufferLength (4 * (blocks.toNat * engine.layout.channels.toNat)) with
    hl | hl
  · rw [allocate_of_lt _ hl]
    rfl
  · rw [allocate_of_le _ hl]
    dsimp only [Except.map]
    rw [Bytes.size_zeros, hconverted, hsource]
    cases hencoding : engine.encoding with
    | s16 =>
      rw [hencoding] at hdata
      have hcount : packet.data.size / 2 = blocks.toNat * engine.layout.channels.toNat := by
        rw [hdata]
        exact Nat.mul_div_cancel _ Nat.two_pos
      rw [if_neg (show PcmEncoding.sampleFormat .s16 ≠ .f32 from nofun), ← hcount]
      rfl
    | f32 => rfl

end AudioRenderer

end StreamDecode
