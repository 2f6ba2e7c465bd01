import StreamDecode.Proofs.Engine.Repackaging
import StreamDecode.Proofs.Session.Outcomes

/-!
# Sessions with the PCM engine

The PCM engine has at most one frame, and a session receives it at once. So between two operations
the engine is as it was when it was opened, except that it remembers the end of a stream
(`Session.PlaysPcm`), and this holds from the opening of a session through every sequence of
operations (`PlaysPcm.run`), whatever other engines there are.

A packet therefore has one of four outcomes (`Session.PcmOutcome`): it ends the stream, its data is
refused, its frame cannot be rendered, or there is one sample more in the queue.
-/

namespace StreamDecode

/-! ## Opening -/

theorem exists_of_bind_eq_ok {α β : Type} {result : Except MediaError α}
    {f : α → Except MediaError β} {made : β} (h : result >>= f = .ok made) :
    ∃ value, result = .ok value ∧ f value = .ok made := by
  cases result with
  | error error => cases h
  | ok value => exact ⟨value, rfl, h⟩

theorem CodecSettings.sampleRate_of_audioParams {codec : Codec} {input output : MediaType}
    {made : UInt64 × AudioParams} (h : audioParams codec input output = .ok made) :
    input.u32? .sampleRate = some made.2.rate := by
  unfold audioParams at h
  split at h
  · cases h
  · cases h
  · next channels rate hchannels hrate =>
    cases h
    exact (Option.filter_eq_some_iff.mp hrate).1

theorem EngineRegistry.audio_of_settingsFor {σ : Type} {registry : EngineRegistry σ}
    {input output : MediaType} {settings : CodecSettings} {params : AudioParams}
    (h : registry.settingsFor input output = .ok settings)
    (hparams : settings.params.audio? = some params) :
    input.kind = .audio ∧ input.u32? .sampleRate = some params.rate := by
  unfold settingsFor CodecSettings.ofTypes at h
  split at h
  · split at h
    · cases h
    · -- with a codec header and without, the parameters are made in the same way
      dsimp only at h
      split at h
      all_goals
        obtain ⟨header, -, h⟩ := exists_of_bind_eq_ok h
        split at h
        · next hkind =>
          obtain ⟨made, hmade, h⟩ := exists_of_bind_eq_ok h
          cases h
          obtain rfl := Option.some.inj hparams
          exact ⟨hkind, CodecSettings.sampleRate_of_audioParams hmade⟩
        · obtain ⟨made, -, h⟩ := exists_of_bind_eq_ok h
          cases h
          cases hparams
  · cases h

namespace PcmEngine

/-- An engine as opening leaves it. -/
structure Fresh (engine : PcmEngine) : Prop extends engine.Idle where
  rate : engine.rate ≠ 0
  channels : engine.layout.channels ≠ 0
  blockAlign : engine.blockAlign =
    UInt32.ofNat engine.encoding.sampleFormat.width * engine.layout.channels

variable {engine : PcmEngine}

theorem Fresh.timeBase (h : engine.Fresh) : engine.timeBase = ⟨1, engine.rate.toInt32⟩ := by
  unfold PcmEngine.timeBase
  rw [if_neg h.rate]

theorem fresh_of_configure {created : PcmEngine} {settings : CodecSettings}
    (h : created.configure settings = (.ok (), engine)) :
    engine.Fresh ∧
      ∃ params, settings.params.audio? = some params ∧ params.rate = engine.rate := by
  unfold configure at h
  cases hparams : settings.params.audio? with
  | none =>
    rw [hparams] at h
    cases h
  | some params =>
    rw [hparams] at h
    dsimp only at h
    split_ifs at h with hrate hchannels
    · cases h
    · cases h
    · cases h
      exact ⟨⟨⟨rfl, rfl, rfl⟩, hrate, hchannels, rfl⟩, params, rfl, rfl⟩

/-- An engine that was opened takes packets, also when the stream has ended. -/
theorem Fresh.sendPacket (h : engine.Fresh) (ended : Bool) (packet : Packet) :
    PcmEngine.sendPacket { engine with ended := ended } packet =
      if packet.isEmpty then (.ok (), { engine with ended := true })
      else
        match blockCount packet.data.size engine.blockAlign with
        | .error error => (.error error, { engine with ended := ended })
        | .ok blocks =>
          (.ok (), { engine with
            output := some (engine.frame packet blocks), ended := ended }) := by
  unfold PcmEngine.sendPacket
  rw [h.opened, h.output]
  rfl

/-- The sample of a frame with the given bytes. -/
def sampleOf (engine : PcmEngine) (packet : Packet) (blocks : UInt32) (data : Bytes) : Sample where
  data := data
  time := (Frame.audio (engine.frame packet blocks)).sampleTime packet
  duration := (Frame.audio (engine.frame packet blocks)).sampleDuration packet engine.timeBase

end PcmEngine

section Sessions

variable {ε : Type} [Engine ε]

namespace AnyEngine

theorem receiveFrame_pcm_none {engine : PcmEngine} (h : engine.output = none) :
    ∃ error, error.isDrained = true ∧
      Engine.receiveFrame (.pcm engine : AnyEngine ε) = (.error error, .pcm engine) := by
  have hreceive : engine.receiveFrame =
      (.error (if engine.ended then .endOfStream else .needMoreData), engine) := by
    unfold PcmEngine.receiveFrame
    rw [h]
  refine ⟨_, ?_, congrArg (Prod.map id AnyEngine.pcm) hreceive⟩
  cases engine.ended <;> rfl

theorem receiveFrame_pcm_some {engine : PcmEngine} {frame : AudioFrame}
    (h : engine.output = some frame) :
    Engine.receiveFrame (.pcm engine : AnyEngine ε) =
      (.ok (.audio frame), .pcm { engine with output := none }) := by
  have hreceive : engine.receiveFrame = (.ok (.audio frame), { engine with output := none }) := by
    unfold PcmEngine.receiveFrame
    rw [h]
  exact congrArg (Prod.map id AnyEngine.pcm) hreceive

theorem configure_pcm {created : AnyEngine ε} {engine : PcmEngine} {settings : CodecSettings}
    (h : Engine.configure created settings = (.ok (), .pcm engine)) :
    ∃ before : PcmEngine, before.configure settings = (.ok (), engine) := by
  cases created with
  | pcm before =>
    refine ⟨before, ?_⟩
    obtain ⟨hresult, hengine⟩ := Prod.mk.inj h
    exact Prod.ext hresult (AnyEngine.pcm.inj hengine)
  | rawVideo before => cases (Prod.mk.inj h).2
  | host before => cases (Prod.mk.inj h).2

end AnyEngine

namespace Session

/-! ## Between two operations -/

/-- The engine is the given one, as it was opened or at the end of a stream, and it would be opened
again in the same way. -/
structure PlaysPcm (origin : PcmEngine) (session : Session (AnyEngine ε)) : Prop where
  fresh : origin.Fresh
  engine : ∃ ended, session.engine = .pcm { origin with ended := ended }
  reopens : session.registry.openEngine session.settings = .ok (.pcm origin)
  serves : session.renderer.Serves .audio
  unchanged : session.sizeChanged = false

variable {session : Session (AnyEngine ε)} {origin : PcmEngine} {packet : Packet}

theorem noteFrameSize_pcm {engine : PcmEngine} (h : session.engine = .pcm engine) :
    session.noteFrameSize = session := by
  have hnone : session.reportedSize? = none := by
    unfold reportedSize?
    rw [h]
    split <;> rfl
  unfold noteFrameSize
  rw [hnone]

/-- A session with a PCM engine plays what the engine was opened for, at the rate of the input. -/
theorem playsPcm_create {registry : EngineRegistry (AnyEngine ε)} {input output : MediaType}
    (h : create registry input output = .ok session) (hengine : session.engine = .pcm origin) :
    session.PlaysPcm origin ∧ input.u32? .sampleRate = some origin.rate := by
  have hserves := serves_create h
  obtain ⟨hkind, settings, engine, renderer, hsettings, hopen, -, rfl⟩ := create_eq_ok_iff.mp h
  obtain rfl : engine = .pcm origin := (engine_noteFrameSize _).symm.trans hengine
  rw [noteFrameSize_pcm rfl] at hserves ⊢
  obtain ⟨entry, -, created, -, hconfigured⟩ := EngineRegistry.openEngine_eq_ok hopen
  obtain ⟨before, hbefore⟩ := AnyEngine.configure_pcm hconfigured
  obtain ⟨hfresh, params, hparams, hrate⟩ := PcmEngine.fresh_of_configure hbefore
  obtain ⟨haudio, hinput⟩ := EngineRegistry.audio_of_settingsFor hsettings hparams
  rw [← hkind, haudio] at hserves
  exact ⟨⟨hfresh, ⟨origin.ended, rfl⟩, hopen, hserves, rfl⟩, hrate ▸ hinput⟩

/-! ## One packet -/

/-- The four outcomes of a packet. -/
inductive PcmOutcome (origin : PcmEngine) (session : Session (AnyEngine ε)) (packet : Packet) :
    Except MediaError DecodeStatus → Session (AnyEngine ε) → Prop
  /-- An empty packet ends the stream. -/
  | ended (hpacket : packet.isEmpty = true) :
    PcmOutcome origin session packet (.ok .needMoreInput)
      { session with engine := .pcm { origin with ended := true } }
  /-- The data is not whole blocks, or too many. -/
  | refused {error : MediaError} (hpacket : packet.isEmpty = false)
      (hblocks : PcmEngine.blockCount packet.data.size origin.blockAlign = .error error) :
    PcmOutcome origin session packet (.error error) session
  /-- The frame cannot be rendered. -/
  | rejected {blocks : UInt32} {error : MediaError} {renderer : Renderer}
      (hpacket : packet.isEmpty = false)
      (hblocks : PcmEngine.blockCount packet.data.size origin.blockAlign = .ok blocks)
      (hrender : session.renderer.render origin.params (.audio (origin.frame packet blocks)) =
        (.error error, renderer)) :
    PcmOutcome origin session packet (.error error) { session with renderer := renderer }
  /-- There is a sample. -/
  | queued {blocks : UInt32} {data : Bytes} {renderer : Renderer} (hpacket : packet.isEmpty = false)
      (hblocks : PcmEngine.blockCount packet.data.size origin.blockAlign = .ok blocks)
      (hrender : session.renderer.render origin.params (.audio (origin.frame packet blocks)) =
        (.ok data, renderer)) :
    PcmOutcome origin session packet (.ok .queued)
      { session with
        renderer := renderer
        queue := session.queue ++ [origin.sampleOf packet blocks data] }

namespace PlaysPcm

theorem idle (h : session.PlaysPcm origin) :
    ∃ error, error.isDrained = true ∧
      Engine.receiveFrame session.engine = (.error error, session.engine) := by
  obtain ⟨ended, hengine⟩ := h.engine
  rw [hengine]
  exact AnyEngine.receiveFrame_pcm_none h.fresh.output

theorem decode_of_empty (h : session.PlaysPcm origin) (hpacket : packet.isEmpty = true) :
    session.decode packet =
      (.ok .needMoreInput, { session with engine := .pcm { origin with ended := true } }) := by
  obtain ⟨ended, hengine⟩ := h.engine
  have hsent : Engine.sendPacket session.engine packet =
      (.ok (), .pcm { origin with ended := true }) := by
    rw [hengine]
    exact congrArg (Prod.map id AnyEngine.pcm)
      ((h.fresh.sendPacket ended packet).trans (if_pos hpacket))
  have hended : PlaysPcm origin { session with engine := .pcm { origin with ended := true } } :=
    ⟨h.fresh, ⟨true, rfl⟩, h.reopens, h.serves, h.unchanged⟩
  obtain ⟨error, hdrained, hidle⟩ := hended.idle
  refine (decode_of_received h.unchanged hsent (receiveFrames_of_failure hidle)).trans ?_
  rw [if_pos hdrained]
  exact congrArg (Except.ok ·, _) (if_pos rfl)

theorem sendPacket (h : session.PlaysPcm origin) (hpacket : packet.isEmpty = false) :
    ∃ ended, session.engine = .pcm { origin with ended := ended } ∧
      Engine.sendPacket session.engine packet =
        match PcmEngine.blockCount packet.data.size origin.blockAlign with
        | .error error => (.error error, session.engine)
        | .ok blocks =>
          (.ok (), .pcm { origin with
            output := some (origin.frame packet blocks), ended := ended }) := by
  obtain ⟨ended, hengine⟩ := h.engine
  have hsent := h.fresh.sendPacket ended packet
  rw [hpacket, if_neg Bool.false_ne_true] at hsent
  refine ⟨ended, hengine, ?_⟩
  rw [hengine]
  refine (congrArg (Prod.map id AnyEngine.pcm) hsent).trans ?_
  cases PcmEngine.blockCount packet.data.size origin.blockAlign <;> rfl

theorem decode_of_refused (h : session.PlaysPcm origin) (hpacket : packet.isEmpty = false)
    {error : MediaError}
    (hblocks : PcmEngine.blockCount packet.data.size origin.blockAlign = .error error) :
    session.decode packet = (.error error, session) := by
  obtain ⟨ended, hengine, hsent⟩ := h.sendPacket hpacket
  have htry := PcmEngine.blockCount_ne_tryAgain hblocks
  rw [hblocks] at hsent
  unfold Session.decode
  rw [if_neg (Bool.eq_false_iff.mp h.unchanged), hsent]
  cases error <;> first | rfl | exact absurd rfl htry

theorem decode_of_taken (h : session.PlaysPcm origin) (hpacket : packet.isEmpty = false)
    {blocks : UInt32}
    (hblocks : PcmEngine.blockCount packet.data.size origin.blockAlign = .ok blocks) :
    session.decode packet =
      match session.renderer.render origin.params (.audio (origin.frame packet blocks)) with
      | (.error error, renderer) => (.error error, { session with renderer := renderer })
      | (.ok data, renderer) =>
        (.ok .queued,
          { session with
            renderer := renderer
            queue := session.queue ++ [origin.sampleOf packet blocks data] }) := by
  obtain ⟨ended, hengine, hsent⟩ := h.sendPacket hpacket
  obtain ⟨error, hdrained, hidle⟩ := h.idle
  rw [hblocks] at hsent
  have hloaded : Engine.receiveFrame (.pcm { origin with
      output := some (origin.frame packet blocks), ended := ended } : AnyEngine ε) =
        (.ok (.audio (origin.frame packet blocks)), session.engine) := by
    rw [AnyEngine.receiveFrame_pcm_some rfl, hengine]
    dsimp only
    rw [← h.fresh.output]
  have hreceived := receiveFrames_of_single hloaded hidle hdrained
    (fun renderer queue => noteFrameSize_pcm hengine) packet
  rw [show Engine.params session.engine = origin.params by rw [hengine]; rfl,
    show Engine.timeBase session.engine = origin.timeBase by rw [hengine]; rfl] at hreceived
  cases hrender : session.renderer.render origin.params (.audio (origin.frame packet blocks)) with
  | mk result renderer =>
    rw [hrender] at hreceived
    cases result with
    | error error => exact decode_of_received h.unchanged hsent hreceived
    | ok data =>
      refine (decode_of_received h.unchanged hsent hreceived).trans ?_
      exact congrArg (Except.ok ·, _) (if_neg (by simp))

theorem outcome_decode (h : session.PlaysPcm origin) (packet : Packet) :
    session.PcmOutcome origin packet (session.decode packet).1 (session.decode packet).2 := by
  cases hpacket : packet.isEmpty with
  | true =>
    rw [h.decode_of_empty hpacket]
    exact .ended hpacket
  | false =>
    cases hblocks : PcmEngine.blockCount packet.data.size origin.blockAlign with
    | error error =>
      rw [h.decode_of_refused hpacket hblocks]
      exact .refused hpacket hblocks
    | ok blocks =>
      rw [h.decode_of_taken hpacket hblocks]
      cases hrender : session.renderer.render origin.params
          (.audio (origin.frame packet blocks)) with
      | mk result renderer =>
        cases result with
        | error error => exact .rejected hpacket hblocks hrender
        | ok data => exact .queued hpacket hblocks hrender

/-! ## All operations -/

theorem decode (h : session.PlaysPcm origin) (packet : Packet) :
    (session.decode packet).2.PlaysPcm origin := by
  have houtcome := h.outcome_decode packet
  generalize session.decode packet = decoded at houtcome
  obtain ⟨result, after⟩ := decoded
  cases houtcome with
  | ended hpacket => exact ⟨h.fresh, ⟨true, rfl⟩, h.reopens, h.serves, h.unchanged⟩
  | refused hpacket hblocks => exact h
  | rejected hpacket hblocks hrender =>
    exact ⟨h.fresh, h.engine, h.reopens, (h.serves.render_eq h.serves hrender).1, h.unchanged⟩
  | queued hpacket hblocks hrender =>
    exact ⟨h.fresh, h.engine, h.reopens, (h.serves.render_eq h.serves hrender).1, h.unchanged⟩

theorem flushInput (h : session.PlaysPcm origin) : session.flushInput.2.PlaysPcm origin := by
  unfold Session.flushInput
  rw [h.reopens]
  dsimp only
  rw [noteFrameSize_pcm rfl]
  exact ⟨h.fresh, ⟨origin.ended, rfl⟩, h.reopens, h.serves, h.unchanged⟩

theorem step (h : session.PlaysPcm origin) (call : SessionCall) :
    (session.step call).2.PlaysPcm origin := by
  cases call with
  | decode packet => exact h.decode packet
  | popSample =>
    show session.popSample.2.PlaysPcm origin
    unfold popSample
    split
    · exact h
    · exact ⟨h.fresh, h.engine, h.reopens, h.serves, h.unchanged⟩
  | takeFormatChange =>
    show session.takeFormatChange.2.PlaysPcm origin
    unfold takeFormatChange
    rw [if_neg (Bool.eq_false_iff.mp h.unchanged)]
    exact h
  | flushInput => exact h.flushInput
  | flush =>
    have hempty : PlaysPcm origin { session with queue := [] } :=
      ⟨h.fresh, h.engine, h.reopens, h.serves, h.unchanged⟩
    exact hempty.flushInput

theorem run (h : session.PlaysPcm origin) (calls : List SessionCall) :
    (session.run calls).2.PlaysPcm origin := by
  induction calls generalizing session with
  | nil => exact h
  | cons call calls ih => exact ih (h.step call)

end PlaysPcm

end Session

end Sessions

end StreamDecode
