import StreamDecode.Proofs.Pipeline.Relay
import StreamDecode.Proofs.Video.Planar

/-!
# Uncompressed video from end to end

With the built-in engines, planar 4:2:0 pictures are relayed: a pushed picture that has just the
bytes of its size becomes one sample, its NV12 form with its own time, and every other one is
refused without a trace (`Nv12.renderPlanar`). `relayed_rawVideo` says so for every size and every
sequence of pushes and pulls.
-/

namespace StreamDecode

open Nv12

/-- What a pushed picture in planar 4:2:0 becomes. -/
def Nv12.renderPlanar (size : FrameSize) (sample : Sample) : Except MediaError Sample :=
  if maxBufferLength < sample.data.size then
    .error (.outOfMemory (.tooLong "数据包缓冲区" sample.data.size))
  else if sample.data.size ≠ lumaBytes size + chromaBytes size then
    .error (.invalidData (.imageLength sample.data.size (lumaBytes size + chromaBytes size)))
  else
    .ok
      { data := packPlanar size sample.data
        time := sample.time
        duration := if 0 < sample.duration then sample.duration else 0 }

/-! ## The engine -/

namespace RawVideoEngine

/-- An idle engine for planar pictures of a size. -/
structure Planar (engine : RawVideoEngine) (size : FrameSize) : Prop extends engine.Idle where
  size_eq : engine.size = size
  format : engine.format = .yuv420p
  imageBytes : engine.imageBytes = lumaBytes size + chromaBytes size
  planes : engine.planes = PixelFormat.yuv420p.planes size

variable {engine : RawVideoEngine} {size : FrameSize}

theorem Planar.frameSize?_params (h : engine.Planar size) (hpixels : size.isEmpty = false) :
    engine.params.frameSize? = some size := by
  show (some engine.size).filter (!·.isEmpty) = _
  rw [h.size_eq, Option.filter_some_pos (by simp [hpixels])]

theorem Planar.prepare (h : engine.Planar size) (hpixels : size.isEmpty = false)
    (hl : lumaBytes size + chromaBytes size ≤ maxBufferLength) {output : MediaType}
    (hkind : output.kind = .video) (hcoding : output.coding = .nv12) :
    ∃ renderer, (Renderer.forOutput output).prepare engine.params output = (.ok (), renderer) := by
  have hparams : engine.params =
      .video ⟨size, .yuv420p, engine.frameRate, .one⟩ := by
    unfold RawVideoEngine.params
    rw [h.size_eq, h.format]
  obtain ⟨next, hprepared⟩ := VideoRenderer.sound_new.prepare_planar hpixels hl hcoding
    engine.frameRate .one
  refine ⟨.video next, ?_⟩
  unfold Renderer.forOutput
  rw [hkind, hparams]
  exact congrArg (Prod.map id Renderer.video) hprepared

theorem sampleDuration_frame (engine : RawVideoEngine) (packet : Packet) (timeBase : Ratio) :
    (Frame.video (engine.frame packet)).sampleDuration packet timeBase =
      if 0 < packet.duration then packet.duration else 0 := by
  unfold Frame.sampleDuration
  by_cases hd : 0 < packet.duration
  · rw [if_pos hd, if_pos hd]
  · have hframe : ¬ 0 < (Frame.video (engine.frame packet)).duration := hd
    rw [if_neg hd, if_neg hd, if_neg hframe]
    rfl

theorem Planar.made (h : engine.Planar size) (hpixels : size.isEmpty = false)
    (hl : lumaBytes size + chromaBytes size ≤ maxBufferLength) (packet : Packet)
    (hbase : packet.timeBase = .hundredNanos) :
    Session.made .video engine engine.frameOf packet =
      if packet.data.size ≠ lumaBytes size + chromaBytes size then
        .error (.invalidData (.imageLength packet.data.size (lumaBytes size + chromaBytes size)))
      else
        .ok
          { data := packPlanar size packet.data
            time := packet.time
            duration := if 0 < packet.duration then packet.duration else 0 } := by
  unfold Session.made frameOf
  rw [h.imageBytes]
  by_cases hdata : packet.data.size = lumaBytes size + chromaBytes size
  · obtain rfl := h.size_eq
    have hrendered : Renderer.rendering .video (Engine.params engine)
        (.video (engine.frame packet)) = .ok (packPlanar engine.size packet.data) :=
      VideoRenderer.rendering_planar h.format h.planes hpixels hl hdata
    have htime : (Frame.video (engine.frame packet)).sampleTime packet = packet.time :=
      Frame.sampleTime_of_packet rfl hbase
    rw [if_neg (not_not_intro hdata), if_neg (not_not_intro hdata)]
    dsimp only [bind, Except.bind]
    rw [hrendered]
    dsimp only
    rw [htime, sampleDuration_frame]
  · rw [if_pos hdata, if_pos hdata]
    rfl

theorem Planar.render (h : engine.Planar size) (hpixels : size.isEmpty = false)
    (hl : lumaBytes size + chromaBytes size ≤ maxBufferLength) (sample : Sample) :
    renderPlanar size sample =
      sample.packet >>= Session.made .video engine engine.frameOf := by
  unfold renderPlanar Sample.packet
  rcases Nat.lt_or_ge maxBufferLength sample.data.size with hlong | hfits
  · rw [if_pos hlong, allocate_of_lt _ hlong]
    rfl
  · rw [if_neg (Nat.not_lt.mpr hfits), allocate_of_le _ hfits]
    exact (h.made hpixels hl ⟨sample.data, sample.time, sample.duration, .hundredNanos⟩ rfl).symm

end RawVideoEngine

/-! ## The session -/

section Session

variable (ε : Type) [Engine ε] {input output : MediaType} {size : FrameSize}

omit [Engine ε] in
/-- The settings for planar pictures; a codec header is passed on as it is. -/
theorem settingsFor_planar (hkind : input.kind = .video) (hcoding : input.coding = .i420)
    (hsize : input.frameSize? = some size) (hpixels : size.isEmpty = false) (output : MediaType) :
    ∃ header bitRate frameRate pixelAspect,
      (EngineRegistry.builtin : EngineRegistry (AnyEngine ε)).settingsFor input output =
        .ok ⟨.rawVideo, header, bitRate, .video ⟨size, .yuv420p, frameRate, pixelAspect⟩⟩ := by
  have hparams : ∃ bitRate frameRate pixelAspect, CodecSettings.videoParams .rawVideo input =
      .ok (bitRate, ⟨size, .yuv420p, frameRate, pixelAspect⟩) := by
    unfold CodecSettings.videoParams
    rw [hsize, Option.filter_some_pos (by simp [hpixels])]
    exact ⟨_, _, _, rfl⟩
  obtain ⟨bitRate, frameRate, pixelAspect, hparams⟩ := hparams
  have hcodec : input.coding.codec? = some .rawVideo := by
    rw [hcoding]
    rfl
  have hprepare : ∀ header, (EngineRegistry.builtin : EngineRegistry (AnyEngine ε)).prepareHeader
      .rawVideo header = .ok header := fun _ => rfl
  obtain ⟨header, hsettings⟩ :=
    EngineRegistry.settingsFor_of_header hcodec hkind.symm hprepare output
  rw [hkind] at hsettings
  dsimp only at hsettings
  rw [hparams] at hsettings
  exact ⟨header, bitRate, frameRate, pixelAspect, hsettings⟩

theorem openEngine_planar (header : Bytes) (bitRate : UInt64) (hpixels : size.isEmpty = false)
    (hmemory : lumaBytes size + chromaBytes size ≤ maxBufferLength) (frameRate pixelAspect : Ratio) :
    ∃ engine : RawVideoEngine,
      (EngineRegistry.builtin : EngineRegistry (AnyEngine ε)).openEngine
          ⟨.rawVideo, header, bitRate, .video ⟨size, .yuv420p, frameRate, pixelAspect⟩⟩ =
        .ok (.rawVideo engine) ∧ engine.Planar size := by
  have hopened : RawVideoEngine.new.configure
      ⟨.rawVideo, header, bitRate, .video ⟨size, .yuv420p, frameRate, pixelAspect⟩⟩ =
        (.ok (), ⟨size, .yuv420p, frameRate, lumaBytes size + chromaBytes size,
          PixelFormat.yuv420p.planes size, none, true, false⟩) := by
    unfold RawVideoEngine.configure StreamParams.video?
    dsimp only
    rw [hpixels, if_neg Bool.false_ne_true, if_neg PixelFormat.noConfusion, imageBytes?_planar hmemory]
  exact ⟨_,
    EngineRegistry.openEngine_of_configure rfl (congrArg (Prod.map id AnyEngine.rawVideo) hopened),
    ⟨rfl, rfl, rfl⟩, rfl, rfl, rfl, rfl⟩

theorem create_planar (hkind : input.kind = .video) (hi420 : input.coding = .i420)
    (hsize : input.frameSize? = some size) (hpixels : size.isEmpty = false)
    (hmemory : lumaBytes size + chromaBytes size ≤ maxBufferLength)
    (hout : output.kind = .video) (hnv12 : output.coding = .nv12) :
    ∃ session : Session (AnyEngine ε), ∃ engine : RawVideoEngine,
      Session.create .builtin input output = .ok session ∧
      session.Relays .video engine.frameOf ∧ session.engine = .rawVideo engine ∧
      engine.Planar size := by
  obtain ⟨header, bitRate, frameRate, pixelAspect, hsettings⟩ :=
    settingsFor_planar ε hkind hi420 hsize hpixels output
  obtain ⟨engine, hopened, hplanar⟩ :=
    openEngine_planar ε header bitRate hpixels hmemory frameRate pixelAspect
  obtain ⟨renderer, hprepared⟩ := hplanar.prepare hpixels hmemory hout hnv12
  have hreported : ∀ reported, engine.params.frameSize? = some reported →
      input.frameSize? = some reported := by
    intro reported hr
    rw [← hr, hplanar.frameSize?_params hpixels, hsize]
  obtain ⟨session, hcreated, hrelays, hengine⟩ := Session.relays_create (hkind.trans hout.symm)
    hsettings hopened hprepared (AnyEngine.repackages_rawVideo hplanar.repackages)
    fun _ => hreported
  rw [hout] at hrelays
  exact ⟨session, engine, hcreated, hrelays, hengine, hplanar⟩

end Session

/-! ## Runs -/

/-- The picture in planar 4:2:0 that a sample holds, as NV12: luma as it is, then the bytes of the
two chroma planes in turn, with the time of the picture and with its duration if it has one. -/
structure Sample.IsNv12Of (made : Sample) (size : FrameSize) (picture : Sample) : Prop where
  length : made.data.size = picture.data.size
  luma : ∀ i < lumaBytes size, made.data[i]? = picture.data[i]?
  firstChroma : ∀ k < chromaPlaneBytes size,
    made.data[lumaBytes size + 2 * k]? = picture.data[lumaBytes size + k]?
  secondChroma : ∀ k < chromaPlaneBytes size,
    made.data[lumaBytes size + (2 * k + 1)]? =
      picture.data[lumaBytes size + chromaPlaneBytes size + k]?
  time : made.time = picture.time
  duration : made.duration = if 0 < picture.duration then picture.duration else 0

theorem Nv12.renderPlanar_of_size {size : FrameSize} {picture : Sample}
    (hmemory : lumaBytes size + chromaBytes size ≤ maxBufferLength)
    (hdata : picture.data.size = lumaBytes size + chromaBytes size) :
    ∃ made, renderPlanar size picture = .ok made ∧ made.IsNv12Of size picture := by
  unfold renderPlanar
  rw [if_neg (by omega), if_neg (not_not_intro hdata)]
  refine ⟨_, rfl, size_packPlanar hdata, ?_, ?_, ?_, rfl, rfl⟩
  · exact fun i hi => luma_packPlanar hdata hi
  · intro k hk
    show (packPlanar size picture.data)[lumaBytes size + 2 * k]? = _
    rw [chroma_packPlanar hdata (by rw [chromaBytes_eq]; omega), Nat.mul_mod_right, Nat.zero_mul,
      Nat.add_zero, Nat.mul_div_cancel_left _ Nat.two_pos]
  · intro k hk
    have hodd : (2 * k + 1) % 2 = 1 := by omega
    have hhalf : (2 * k + 1) / 2 = k := by omega
    show (packPlanar size picture.data)[lumaBytes size + (2 * k + 1)]? = _
    rw [chroma_packPlanar hdata (by rw [chromaBytes_eq]; omega), hodd, hhalf, Nat.one_mul]

theorem Nv12.renderPlanar_of_ne {size : FrameSize} {picture : Sample}
    (hl : picture.data.size ≤ maxBufferLength)
    (hdata : picture.data.size ≠ lumaBytes size + chromaBytes size) :
    renderPlanar size picture =
      .error (.invalidData
        (.imageLength picture.data.size (lumaBytes size + chromaBytes size))) := by
  unfold renderPlanar
  rw [if_neg (Nat.not_lt.mpr hl), if_pos hdata]

namespace Pipeline

variable {ε : Type} [Engine ε]

/-- **Uncompressed video.** After any run of a pipeline with the built-in engines that has left an
I420 input type, an NV12 output type and no session, every sequence of pushes and pulls finds a
queue: a picture that has just the bytes of the frame size is accepted and becomes one sample, its
NV12 form with its time and duration; any other one is refused as invalid data and leaves no trace.
No pull brings a format change, and samples are delivered in the order of the accepted pushes. -/
theorem relayed_rawVideo (config : PipelineConfig) (history : List Call) {input output : MediaType}
    {size : FrameSize}
    (hs : ((new (.builtin : EngineRegistry (AnyEngine ε)) config).run history).2.session = none)
    (hinput : ((new (.builtin : EngineRegistry (AnyEngine ε)) config).run
      history).2.negotiation.input = some input)
    (houtput : ((new (.builtin : EngineRegistry (AnyEngine ε)) config).run
      history).2.negotiation.output = some output)
    (hi420 : input.coding = .i420) (hsize : input.frameSize? = some size)
    (hpixels : size.isEmpty = false) (hnv12 : output.coding = .nv12)
    (hmemory : size.width.toNat * size.height.toNat +
      2 * (halfUp size.width.toNat * halfUp size.height.toNat) ≤ maxBufferLength)
    (calls : List FlowCall) :
    let pipeline := ((new (.builtin : EngineRegistry (AnyEngine ε)) config).run history).2
    let length := size.width.toNat * size.height.toNat +
      2 * (halfUp size.width.toNat * halfUp size.height.toNat)
    pipeline.RelayedRun (renderPlanar size) calls ∧ ∀ picture : Sample,
      (picture.data.size = length →
        ∃ made, renderPlanar size picture = .ok made ∧ made.IsNv12Of size picture) ∧
      (picture.data.size ≠ length → picture.data.size ≤ maxBufferLength →
        ∃ fault, renderPlanar size picture = .error (.invalidData fault)) := by
  intro pipeline length
  have hstems : pipeline.StemsFrom _ :=
    (stemsFrom_new (.builtin : EngineRegistry (AnyEngine ε)) config).run history
  have hlength : length = lumaBytes size + chromaBytes size := by
    rw [chromaBytes_eq]
    rfl
  have hmemory : lumaBytes size + chromaBytes size ≤ maxBufferLength := hlength ▸ hmemory
  have hkind : input.kind = .video := by
    rw [← (Negotiation.validateInput_eq_ok_iff.mp (hstems.input input hinput)).1, hi420]
    rfl
  have hout : output.kind = .video := by
    have hcoding : output.coding = Negotiation.outputCoding output.kind :=
      hstems.isOutput output houtput
    rw [hnv12] at hcoding
    cases hk : output.kind with
    | video => rfl
    | audio =>
      rw [hk] at hcoding
      cases hcoding
  obtain ⟨session, engine, hcreated, hrelays, hengine, hplanar⟩ :=
    create_planar ε hkind hi420 hsize hpixels hmemory hout hnv12
  have hrender : ∀ sample : Sample, sample.data.isEmpty = false → renderPlanar size sample =
      sample.packet >>= Session.made .video session.engine engine.frameOf := by
    intro sample _
    rw [hengine]
    exact hplanar.render hpixels hmemory sample
  refine ⟨(relays_of_types _ config history hs hinput houtput hcreated hrelays
    hrender).relayedRun calls, ?_⟩
  rw [hlength]
  exact fun picture => ⟨renderPlanar_of_size hmemory, fun hdata hl =>
    ⟨_, renderPlanar_of_ne hl hdata⟩⟩

/-! ### A picture of odd width -/

/-- A picture of three by one is pushed, then one that is a byte too short, and then the host pulls
twice. -/
theorem relayed_rawVideo_odd :
    let registry : EngineRegistry (AnyEngine ScriptedEngine) := .builtin
    let history := commitBoth (.video .i420 ⟨3, 1⟩) (.video .nv12 ⟨3, 1⟩)
    (((new registry .standard).run history).2.run
        [.push 0 ⟨#[1, 2, 3, 4, 5, 6, 7], 40, 10⟩ 0, .push 0 ⟨#[1, 2, 3, 4, 5, 6], 50, 10⟩ 0,
          .pull [.empty], .pull [.empty]]).1 =
      [.ok (.pushed .accepted), ⟨.error (.invalidData (.imageLength 6 7)), []⟩,
        (PullOutcome.delivered ⟨#[1, 2, 3, 4, 6, 5, 7], 40, 10⟩).answer .empty,
        PullOutcome.needMoreInput.answer .empty] := by
  intro registry history
  obtain ⟨h, -⟩ := @relayed_rawVideo ScriptedEngine _ .standard history (.video .i420 ⟨3, 1⟩)
    (.video .nv12 ⟨3, 1⟩) ⟨3, 1⟩ rfl rfl rfl rfl rfl rfl rfl (by decide)
    [.push ⟨#[1, 2, 3, 4, 5, 6, 7], 40, 10⟩ rfl, .push ⟨#[1, 2, 3, 4, 5, 6], 50, 10⟩ rfl,
      .pull .empty rfl, .pull .empty rfl]
  exact h.answers

end Pipeline

end StreamDecode
