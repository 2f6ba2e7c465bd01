import StreamDecode.Proofs.Audio.Interleaved
import StreamDecode.Proofs.Pipeline.Relay

/-!
# Uncompressed audio from end to end

With the built-in engines, interleaved audio is relayed: a pushed packet of whole blocks becomes one
sample, its samples as floats with its own time, and every other one is refused without a trace
(`PcmEncoding.render`). `relayed_pcm` says so for both encodings, for every number of channels and
every rate, and for every sequence of pushes and pulls; neither earlier packets nor the speakers of
the output type play a part.
-/

namespace StreamDecode

namespace PcmEncoding

/-- The coding of a media type. -/
def coding : PcmEncoding → Coding
  | .s16 => .pcm
  | .f32 => .floatPcm

/-- What pushed audio becomes, with blocks of one sample for each channel. -/
def render (encoding : PcmEncoding) (channels rate : UInt32) (sample : Sample) :
    Except MediaError Sample :=
  if maxBufferLength < sample.data.size then
    .error (.outOfMemory (.tooLong "数据包缓冲区" sample.data.size))
  else do
    let block := UInt32.ofNat encoding.sampleFormat.width * channels
    let blocks ← PcmEngine.blockCount sample.data.size block
    let _ ← allocate (4 * (blocks.toNat * channels.toNat)) "音频输出缓冲区"
    .ok
      { data := encoding.toFloat sample.data
        time := sample.time
        duration :=
          if 0 < sample.duration then sample.duration
          else samplesDuration blocks ⟨1, rate.toInt32⟩ }

end PcmEncoding

/-! ## The engine -/

namespace PcmEngine

/-- An idle engine for an encoding, with a number of channels and a rate. -/
structure Interleaved (engine : PcmEngine) (encoding : PcmEncoding) (channels rate : UInt32) :
    Prop extends engine.Idle where
  encoding_eq : engine.encoding = encoding
  channels_eq : engine.layout.channels = channels
  rate_eq : engine.rate = rate
  blockAlign : engine.blockAlign = UInt32.ofNat encoding.sampleFormat.width * channels

variable {engine : PcmEngine} {encoding : PcmEncoding} {channels rate : UInt32}

theorem Interleaved.timeBase (h : engine.Interleaved encoding channels rate) (hrate : 0 < rate) :
    engine.timeBase = ⟨1, rate.toInt32⟩ := by
  unfold PcmEngine.timeBase
  rw [h.rate_eq, if_neg (UInt32.pos_iff_ne_zero.mp hrate)]

/-- The duration of a frame of audio is that of its packet, if it has one, and else that of its
samples. -/
theorem sampleDuration_frame {blocks : UInt32} (packet : Packet) (hblocks : blocks ≠ 0)
    (timeBase : Ratio) :
    (Frame.audio (engine.frame packet blocks)).sampleDuration packet timeBase =
      if 0 < packet.duration then packet.duration else samplesDuration blocks timeBase := by
  unfold Frame.sampleDuration
  by_cases hd : 0 < packet.duration
  · rw [if_pos hd, if_pos hd]
  · have hnone : ¬ 0 < (Frame.audio (engine.frame packet blocks)).duration := by
      show ¬ (0 : Int64) < 0
      decide
    rw [if_neg hd, if_neg hd, if_neg hnone]
    show (Option.map _ (if blocks = 0 then none else some blocks)).getD 0 = _
    rw [if_neg hblocks]
    rfl

theorem toNat_block {encoding : PcmEncoding} {channels : UInt32}
    (hblock : encoding.sample.width * channels.toNat < UInt32.size) :
    (UInt32.ofNat encoding.sampleFormat.width * channels).toNat =
      encoding.sample.width * channels.toNat := by
  cases encoding <;> exact toNat_blockAlign _ hblock

/-- Samples that there is memory for are not too many to be counted as floats. -/
theorem floats_lt_size_of_le (encoding : PcmEncoding) {count : Nat}
    (h : count * encoding.sample.width ≤ maxBufferLength) : 4 * count < UInt64.size := by
  have hwidth : 2 ≤ encoding.sample.width := by
    cases encoding <;> decide
  have htwo := (Nat.mul_le_mul_left count hwidth).trans h
  calc 4 * count = 2 * (count * 2) := by omega
    _ ≤ 2 * maxBufferLength := Nat.mul_le_mul_left 2 htwo
    _ < UInt64.size := by decide

theorem Interleaved.made (h : engine.Interleaved encoding channels rate)
    (hchannels : 0 < channels) (hrate : 0 < rate)
    (hblock : encoding.sample.width * channels.toNat < UInt32.size) (packet : Packet)
    (hpacket : packet.isEmpty = false) (hmemory : packet.data.size ≤ maxBufferLength)
    (hbase : packet.timeBase = .hundredNanos) :
    Session.made .audio engine engine.frameOf packet = (do
      let blocks ← blockCount packet.data.size
        (UInt32.ofNat encoding.sampleFormat.width * channels)
      let _ ← allocate (4 * (blocks.toNat * channels.toNat)) "音频输出缓冲区"
      .ok
        { data := encoding.toFloat packet.data
          time := packet.time
          duration :=
            if 0 < packet.duration then packet.duration
            else samplesDuration blocks ⟨1, rate.toInt32⟩ }) := by
  unfold Session.made frameOf
  rw [h.blockAlign]
  cases hcount : blockCount packet.data.size
      (UInt32.ofNat encoding.sampleFormat.width * channels) with
  | error error => rfl
  | ok blocks =>
    have hlength := (mul_of_blockCount hcount).symm
    rw [toNat_block hblock] at hlength
    have hblocks : blocks ≠ 0 := by
      rintro rfl
      rw [UInt32.toNat_zero, Nat.zero_mul] at hlength
      rw [Packet.isEmpty, Array.isEmpty_iff_size_eq_zero.mpr hlength] at hpacket
      cases hpacket
    have hrendered : Renderer.rendering .audio (Engine.params engine)
        (.audio (engine.frame packet blocks)) =
          (allocate (4 * (blocks.toNat * channels.toNat)) "音频输出缓冲区").map fun _ =>
            encoding.toFloat packet.data := by
      obtain rfl := h.channels_eq
      obtain rfl := h.encoding_eq
      rw [Nat.mul_comm engine.encoding.sample.width, ← Nat.mul_assoc] at hlength
      exact AudioRenderer.rendering_pcm hchannels
        (floats_lt_size_of_le engine.encoding (hlength ▸ hmemory)) hlength
    have htime : (Frame.audio (engine.frame packet blocks)).sampleTime packet = packet.time :=
      Frame.sampleTime_of_packet rfl hbase
    dsimp only [bind, Except.bind, Except.map]
    rw [hrendered]
    cases allocate (4 * (blocks.toNat * channels.toNat)) "音频输出缓冲区" with
    | error error => rfl
    | ok buffer =>
      dsimp only [Except.map]
      rw [htime, sampleDuration_frame packet hblocks,
        show Engine.timeBase engine = _ from h.timeBase hrate]

theorem Interleaved.render (h : engine.Interleaved encoding channels rate)
    (hchannels : 0 < channels) (hrate : 0 < rate)
    (hblock : encoding.sample.width * channels.toNat < UInt32.size) (sample : Sample)
    (hdata : sample.data.isEmpty = false) :
    encoding.render channels rate sample =
      sample.packet >>= Session.made .audio engine engine.frameOf := by
  unfold PcmEncoding.render Sample.packet
  rcases Nat.lt_or_ge maxBufferLength sample.data.size with hlong | hfits
  · rw [if_pos hlong, allocate_of_lt _ hlong]
    rfl
  · rw [if_neg (Nat.not_lt.mpr hfits), allocate_of_le _ hfits]
    exact (h.made hchannels hrate hblock
      ⟨sample.data, sample.time, sample.duration, .hundredNanos⟩ hdata hfits rfl).symm

theorem Interleaved.prepare (h : engine.Interleaved encoding channels rate)
    (hchannels : 0 < channels) (hrate : 0 < rate) {output : MediaType}
    (hkind : output.kind = .audio) (hcoding : output.coding = .float) :
    ∃ renderer, (Renderer.forOutput output).prepare engine.params output = (.ok (), renderer) := by
  have hlayout : 0 < engine.layout.channels := h.channels_eq ▸ hchannels
  obtain ⟨conversion, hconversion, -⟩ :=
    AudioRenderer.keepsChannels_conversionFor engine.rate engine.encoding hlayout
  have hknown :
      (engine.encoding.sampleFormat ≠ .unspecified && decide (0 < engine.rate)) = true := by
    rw [h.rate_eq, decide_eq_true hrate]
    cases engine.encoding <;> rfl
  have hprepared : AudioRenderer.new.prepare engine.params output =
      (.ok (), { AudioRenderer.new with conversion := some conversion }) := by
    have hfilter : engine.params.audio?.filter
        (fun audio => audio.format ≠ .unspecified && decide (0 < audio.rate)) =
          engine.params.audio? := Option.filter_some_pos hknown
    unfold AudioRenderer.prepare
    rw [if_neg (not_not_intro hcoding), hfilter]
    dsimp only [PcmEngine.params, StreamParams.audio?]
    rw [hconversion]
    rfl
  refine ⟨.audio { AudioRenderer.new with conversion := some conversion }, ?_⟩
  unfold Renderer.forOutput
  rw [hkind]
  exact congrArg (Prod.map id Renderer.audio) hprepared

end PcmEngine

/-! ## The session -/

namespace CodecSettings

theorem positive?_of_pos {input : MediaType} {key : AttributeKey} {value : UInt32}
    (h : input.u32? key = some value) (hpositive : 0 < value) :
    positive? input key = some value := by
  unfold positive?
  rw [h]
  exact Option.filter_some_pos (decide_eq_true hpositive)

theorem channels_layoutFor (channels : UInt32) (output : MediaType) :
    (layoutFor channels output).channels = channels := by
  unfold layoutFor
  cases hs : ((output.u32? .channelMask).bind ChannelLayout.ofSpeakers?).filter
      (·.channels = channels) with
  | none => exact ChannelLayout.channels_standard channels
  | some layout => exact of_decide_eq_true (Option.filter_eq_some_iff.mp hs).2

end CodecSettings

section Session

variable (ε : Type) [Engine ε] {input output : MediaType} {encoding : PcmEncoding}
  {channels rate : UInt32}

omit [Engine ε] in
/-- The settings for interleaved audio; a codec header is passed on as it is. -/
theorem settingsFor_interleaved (hkind : input.kind = .audio)
    (hcoding : input.coding = encoding.coding)
    (hchannels : input.u32? .channelCount = some channels) (hpositive : 0 < channels)
    (hrate : input.u32? .sampleRate = some rate) (hfast : 0 < rate) (output : MediaType) :
    ∃ header bitRate params,
      (EngineRegistry.builtin : EngineRegistry (AnyEngine ε)).settingsFor input output =
        .ok ⟨encoding.codec, header, bitRate, .audio params⟩ ∧
      params.rate = rate ∧ params.layout.channels = channels := by
  have hparams : ∃ bitRate params,
      CodecSettings.audioParams encoding.codec input output = .ok (bitRate, params) ∧
        params.rate = rate ∧ params.layout.channels = channels := by
    unfold CodecSettings.audioParams
    rw [CodecSettings.positive?_of_pos hchannels hpositive,
      CodecSettings.positive?_of_pos hrate hfast]
    exact ⟨_, _, rfl, rfl, CodecSettings.channels_layoutFor channels output⟩
  obtain ⟨bitRate, params, hparams, hsame⟩ := hparams
  have hcodec : input.coding.codec? = some encoding.codec := by
    rw [hcoding]
    cases encoding <;> rfl
  have hcodecKind : encoding.codec.kind = input.kind := by
    rw [hkind]
    cases encoding <;> rfl
  have hprepare : ∀ header, (EngineRegistry.builtin : EngineRegistry (AnyEngine ε)).prepareHeader
      encoding.codec header = .ok header := by
    intro header
    cases encoding <;> rfl
  obtain ⟨header, hsettings⟩ :=
    EngineRegistry.settingsFor_of_header hcodec hcodecKind hprepare output
  rw [hkind] at hsettings
  dsimp only at hsettings
  rw [hparams] at hsettings
  exact ⟨header, bitRate, params, hsettings, hsame⟩

theorem openEngine_interleaved (encoding : PcmEncoding) (header : Bytes) (bitRate : UInt64)
    {params : AudioParams} (hrate : params.rate = rate) (hfast : 0 < rate)
    (hchannels : params.layout.channels = channels) (hpositive : 0 < channels) :
    ∃ engine : PcmEngine,
      (EngineRegistry.builtin : EngineRegistry (AnyEngine ε)).openEngine
          ⟨encoding.codec, header, bitRate, .audio params⟩ = .ok (.pcm engine) ∧
        engine.Interleaved encoding channels rate := by
  obtain ⟨engine, hopened, hinterleaved⟩ : ∃ engine : PcmEngine,
      (PcmEngine.new encoding).configure ⟨encoding.codec, header, bitRate, .audio params⟩ =
        (.ok (), engine) ∧ engine.Interleaved encoding channels rate := by
    unfold PcmEngine.configure StreamParams.audio?
    dsimp only
    rw [hrate, if_neg (UInt32.pos_iff_ne_zero.mp hfast), hchannels,
      if_neg (UInt32.pos_iff_ne_zero.mp hpositive)]
    exact ⟨_, rfl, ⟨rfl, rfl, rfl⟩, rfl, hchannels, rfl, rfl⟩
  have hcreated : (EngineRegistry.builtin : EngineRegistry (AnyEngine ε)).create encoding.codec =
      .ok (.pcm (.new encoding)) := by
    cases encoding <;> rfl
  exact ⟨engine, EngineRegistry.openEngine_of_configure hcreated
    (congrArg (Prod.map id AnyEngine.pcm) hopened), hinterleaved⟩

theorem create_interleaved (hkind : input.kind = .audio) (hcoding : input.coding = encoding.coding)
    (hchannels : input.u32? .channelCount = some channels) (hpositive : 0 < channels)
    (hrate : input.u32? .sampleRate = some rate) (hfast : 0 < rate)
    (hout : output.kind = .audio) (hfloat : output.coding = .float) :
    ∃ session : Session (AnyEngine ε), ∃ engine : PcmEngine,
      Session.create .builtin input output = .ok session ∧
      session.Relays .audio engine.frameOf ∧ session.engine = .pcm engine ∧
      engine.Interleaved encoding channels rate := by
  obtain ⟨header, bitRate, params, hsettings, hparamsRate, hparamsChannels⟩ :=
    settingsFor_interleaved ε hkind hcoding hchannels hpositive hrate hfast output
  obtain ⟨engine, hopened, hinterleaved⟩ :=
    openEngine_interleaved ε encoding header bitRate hparamsRate hfast
      hparamsChannels hpositive
  obtain ⟨renderer, hprepared⟩ := hinterleaved.prepare hpositive hfast hout hfloat
  obtain ⟨session, hcreated, hrelays, hengine⟩ := Session.relays_create (hkind.trans hout.symm)
    hsettings hopened hprepared (AnyEngine.repackages_pcm hinterleaved.repackages)
    (by intro hvideo; rw [hout] at hvideo; cases hvideo)
  rw [hout] at hrelays
  exact ⟨session, engine, hcreated, hrelays, hengine, hinterleaved⟩

end Session

/-! ## Runs -/

/-- The samples of uncompressed audio as floats, four bytes each, with the time of the audio and
with its duration if it has one: floats as they are, and 16-bit integers one by one. -/
structure Sample.IsFloatOf (made : Sample) (encoding : PcmEncoding) (audio : Sample) : Prop where
  length : made.data.size = 4 * (audio.data.size / encoding.sample.width)
  floats : encoding = .f32 → made.data = audio.data
  integers : encoding = .s16 → ∀ k < audio.data.size / 2,
    (made.data.extract (4 * k) (4 * k + 4)).toList =
      SampleEncoding.f32.encode
        (SampleEncoding.s16.decode (audio.data.extract (k * 2) (k * 2 + 2)).toList)
  time : made.time = audio.time
  duration : 0 < audio.duration → made.duration = audio.duration

namespace PcmEncoding

open PcmEngine

variable {encoding : PcmEncoding} {channels : UInt32} {audio : Sample}

theorem render_of_whole
    (hblock : encoding.sample.width * channels.toNat < UInt32.size)
    (hwhole : audio.data.size % (encoding.sample.width * channels.toNat) = 0)
    (hcount : audio.data.size / (encoding.sample.width * channels.toNat) < UInt32.size)
    (hmemory : 4 * (audio.data.size / encoding.sample.width) ≤ maxBufferLength) (rate : UInt32) :
    ∃ made, encoding.render channels rate audio = .ok made ∧ made.IsFloatOf encoding audio := by
  have hblocks : blockCount audio.data.size (UInt32.ofNat encoding.sampleFormat.width * channels) =
      .ok (UInt32.ofNat (audio.data.size / (encoding.sample.width * channels.toNat))) := by
    unfold blockCount
    rw [toNat_block hblock, if_neg (not_not_intro hwhole), if_neg (Nat.not_le.mpr hcount)]
  have hwidth : 0 < encoding.sample.width ∧ encoding.sample.width ≤ 4 := by
    cases encoding <;> decide
  -- the samples of all channels
  have hsamples :
      audio.data.size = audio.data.size / encoding.sample.width * encoding.sample.width :=
    (Nat.div_mul_cancel (Nat.dvd_trans (Nat.dvd_mul_right _ _)
      (Nat.dvd_of_mod_eq_zero hwhole))).symm
  have hchannels : audio.data.size / (encoding.sample.width * channels.toNat) * channels.toNat =
      audio.data.size / encoding.sample.width := by
    rw [← Nat.div_div_eq_div_mul]
    refine Nat.div_mul_cancel ?_
    refine Nat.dvd_of_mul_dvd_mul_right hwidth.1 ?_
    rw [← hsamples, Nat.mul_comm]
    exact Nat.dvd_of_mod_eq_zero hwhole
  have hfits : audio.data.size ≤ maxBufferLength := by
    calc audio.data.size
        = audio.data.size / encoding.sample.width * encoding.sample.width := hsamples
      _ ≤ audio.data.size / encoding.sample.width * 4 := Nat.mul_le_mul_left _ hwidth.2
      _ ≤ maxBufferLength := Nat.mul_comm _ 4 ▸ hmemory
  unfold render
  rw [if_neg (Nat.not_lt.mpr hfits)]
  dsimp only
  rw [hblocks]
  dsimp only [bind, Except.bind]
  rw [UInt32.toNat_ofNat_of_lt' hcount, hchannels, allocate_of_le _ hmemory]
  refine ⟨_, rfl, size_toFloat hsamples, ?_, ?_, rfl, fun hd => if_pos hd⟩
  · rintro rfl
    rfl
  · rintro rfl k hk
    exact SampleEncoding.extract_floats .s16 audio.data hk

theorem render_of_ragged (hblock : encoding.sample.width * channels.toNat < UInt32.size)
    (hragged : audio.data.size % (encoding.sample.width * channels.toNat) ≠ 0)
    (hl : audio.data.size ≤ maxBufferLength) (rate : UInt32) :
    encoding.render channels rate audio =
      .error (.invalidData
        (.notWholeBlocks audio.data.size (encoding.sample.width * channels.toNat))) := by
  unfold render
  rw [if_neg (Nat.not_lt.mpr hl)]
  dsimp only
  unfold blockCount
  rw [toNat_block hblock, if_pos hragged]
  rfl

end PcmEncoding

namespace Pipeline

variable {ε : Type} [Engine ε]

/-- **Uncompressed audio.** After any run of a pipeline with the built-in engines that has left an
input type for interleaved audio, a float output type and no session, every sequence of pushes and
pulls finds a queue: whole blocks are accepted and become one sample, their samples as floats with
their time and duration; any other data is refused as invalid and leaves no trace. No pull brings a
format change, and the samples are delivered in the order of the accepted pushes. -/
theorem relayed_pcm (config : PipelineConfig) (history : List Call) {input output : MediaType}
    (encoding : PcmEncoding) {channels rate : UInt32}
    (hs : ((new (.builtin : EngineRegistry (AnyEngine ε)) config).run history).2.session = none)
    (hinput : ((new (.builtin : EngineRegistry (AnyEngine ε)) config).run
      history).2.negotiation.input = some input)
    (houtput : ((new (.builtin : EngineRegistry (AnyEngine ε)) config).run
      history).2.negotiation.output = some output)
    (hcoding : input.coding = encoding.coding)
    (hchannels : input.u32? .channelCount = some channels) (hpositive : 0 < channels)
    (hrate : input.u32? .sampleRate = some rate) (hfast : 0 < rate)
    (hblock : encoding.sample.width * channels.toNat < UInt32.size)
    (hfloat : output.coding = .float) (calls : List FlowCall) :
    let pipeline := ((new (.builtin : EngineRegistry (AnyEngine ε)) config).run history).2
    let block := encoding.sample.width * channels.toNat
    pipeline.RelayedRun (encoding.render channels rate) calls ∧ ∀ audio : Sample,
      (audio.data.size % block = 0 → audio.data.size / block < UInt32.size →
        4 * (audio.data.size / encoding.sample.width) ≤ maxBufferLength →
        ∃ made, encoding.render channels rate audio = .ok made ∧ made.IsFloatOf encoding audio) ∧
      (audio.data.size % block ≠ 0 → audio.data.size ≤ maxBufferLength →
        ∃ fault, encoding.render channels rate audio = .error (.invalidData fault)) := by
  intro pipeline block
  have hstems : pipeline.StemsFrom _ :=
    (stemsFrom_new (.builtin : EngineRegistry (AnyEngine ε)) config).run history
  have hkind : input.kind = .audio := by
    rw [← (Negotiation.validateInput_eq_ok_iff.mp (hstems.input input hinput)).1, hcoding]
    cases encoding <;> rfl
  have hout : output.kind = .audio := by
    have hcoding : output.coding = Negotiation.outputCoding output.kind :=
      hstems.isOutput output houtput
    rw [hfloat] at hcoding
    cases hk : output.kind with
    | audio => rfl
    | video =>
      rw [hk] at hcoding
      cases hcoding
  obtain ⟨session, engine, hcreated, hrelays, hengine, hinterleaved⟩ :=
    create_interleaved ε hkind hcoding hchannels hpositive hrate hfast hout hfloat
  have hrender : ∀ sample : Sample, sample.data.isEmpty = false →
      encoding.render channels rate sample =
        sample.packet >>= Session.made .audio session.engine engine.frameOf := by
    intro sample hdata
    rw [hengine]
    exact hinterleaved.render hpositive hfast hblock sample hdata
  refine ⟨(relays_of_types _ config history hs hinput houtput hcreated hrelays
    hrender).relayedRun calls, ?_⟩
  exact fun audio => ⟨fun hwhole hcount hmemory =>
    PcmEncoding.render_of_whole hblock hwhole hcount hmemory rate, fun hragged hl =>
    ⟨_, PcmEncoding.render_of_ragged hblock hragged hl rate⟩⟩

/-! ### Two channels of integers -/

/-- One block of two channels is pushed, then half a block, and then the host pulls twice. -/
theorem relayed_pcm_stereo :
    let registry : EngineRegistry (AnyEngine ScriptedEngine) := .builtin
    let history := commitBoth (.audio .pcm 2 8000) (.audio .float 2 8000)
    (((new registry .standard).run history).2.run
        [.push 0 ⟨#[0, 64, 0, 192], 40, 1250⟩ 0, .push 0 ⟨#[0, 64], 50, 1250⟩ 0, .pull [.empty],
          .pull [.empty]]).1 =
      [.ok (.pushed .accepted), ⟨.error (.invalidData (.notWholeBlocks 2 4)), []⟩,
        (PullOutcome.delivered ⟨#[0, 0, 0, 63, 0, 0, 0, 191], 40, 1250⟩).answer .empty,
        PullOutcome.needMoreInput.answer .empty] := by
  intro registry history
  obtain ⟨h, -⟩ := @relayed_pcm ScriptedEngine _ .standard history (.audio .pcm 2 8000)
    (.audio .float 2 8000) .s16 2 8000 rfl rfl rfl rfl rfl (by decide) rfl (by decide) (by decide)
    rfl
    [.push ⟨#[0, 64, 0, 192], 40, 1250⟩ rfl, .push ⟨#[0, 64], 50, 1250⟩ rfl, .pull .empty rfl,
      .pull .empty rfl]
  exact h.answers

end Pipeline

end StreamDecode
