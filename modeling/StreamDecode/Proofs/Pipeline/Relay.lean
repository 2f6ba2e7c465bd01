import StreamDecode.Proofs.Engine.Repackaging
import StreamDecode.Proofs.Pipeline.Handshake
import StreamDecode.Proofs.Pipeline.Ledger
import StreamDecode.Proofs.Pipeline.Pairs
import StreamDecode.Proofs.Session.Alike
import StreamDecode.Proofs.Session.Timing

/-!
# Pipelines that relay samples

With an engine that only repackages, a pipeline is a queue with a function in front: each pushed
sample is refused or becomes one sample at the end of the queue, and each pull takes the first one.
`FlowCall.relay` is that queue, without engine, renderer and packet.

1. A session relays as long as nothing but its renderer and its queue changes (`Session.Relays`); a
   packet is refused without a trace or rendered to one sample (`Session.Relays.decode`).
2. A pipeline relays if its session does, or the one that it would open (`Pipeline.Relays`).
3. Every push and pull does what the queue does (`Relays.step`), so every run does (`Relays.run`).

What holds of the queue then holds of the pipeline: it brings no format change, and what was
accepted is what was delivered and what still waits, in this order (`FlowCall.relayAll_conserves`).
-/

namespace StreamDecode

/-! ## The queue -/

/-- What a pull brings from a queue. -/
def PullOutcome.first : List Sample → PullOutcome
  | [] => .needMoreInput
  | sample :: _ => .delivered sample

namespace FlowCall

/-- A push or a pull at a queue of samples. A pushed sample is refused, or becomes the last one. -/
def relay (render : Sample → Except MediaError Sample) (waiting : List Sample) :
    FlowCall → Answer × List Sample
  | .push sample _ =>
    match render sample with
    | .error error => (⟨.error error, []⟩, waiting)
    | .ok made => (.ok (.pushed .accepted), waiting ++ [made])
  | .pull slot _ => ((PullOutcome.first waiting).answer slot, waiting.tail)

/-- Pushes and pulls at a queue one after the other. -/
def relayAll (render : Sample → Except MediaError Sample) (waiting : List Sample) :
    List FlowCall → List Answer × List Sample
  | [] => ([], waiting)
  | call :: calls =>
    let (answer, next) := call.relay render waiting
    let (answers, last) := relayAll render next calls
    (answer :: answers, last)

/-- What the accepted pushes become, in order. -/
def accepted (render : Sample → Except MediaError Sample) (calls : List FlowCall) : List Sample :=
  calls.filterMap fun
    | .push sample _ => (render sample).toOption
    | .pull _ _ => none

variable (render : Sample → Except MediaError Sample)

theorem relay_no_streamChange (waiting : List Sample) (call : FlowCall) :
    (call.relay render waiting).1.result ≠ .ok (.pulled .streamChange) := by
  intro h
  cases call with
  | push sample data =>
    unfold relay at h
    dsimp only at h
    cases hr : render sample with
    | error error =>
      rw [hr] at h
      cases h
    | ok made =>
      rw [hr] at h
      cases h
  | pull slot stream => cases waiting <;> cases h

theorem relayAll_no_streamChange (waiting : List Sample) (calls : List FlowCall) :
    ∀ answer ∈ (relayAll render waiting calls).1,
      answer.result ≠ .ok (.pulled .streamChange) := by
  induction calls generalizing waiting with
  | nil =>
    intro answer hm
    cases hm
  | cons call calls ih =>
    intro answer hm
    rcases List.mem_cons.mp hm with rfl | hm
    · exact relay_no_streamChange render waiting call
    · exact ih _ answer hm

/-- What a call appends or delivers is the difference of the queue before and after it. -/
theorem relay_conserves (waiting : List Sample) (call : FlowCall) :
    ∃ delivered, waiting ++ accepted render [call] =
        delivered ++ (call.relay render waiting).2 ∧
      List.Forall₂ Delivery.Carries
        (Delivery.of? call.call (call.relay render waiting).1).toList delivered := by
  cases call with
  | push sample data =>
    refine ⟨[], ?_, ?_⟩
    · unfold accepted relay
      cases hr : render sample with
      | error error => simp [hr, Except.toOption]
      | ok made => simp [hr, Except.toOption]
    · exact .nil
  | pull slot stream =>
    cases waiting with
    | nil => exact ⟨[], rfl, .nil⟩
    | cons sample rest =>
      exact ⟨[sample], List.append_nil _,
        .cons (Delivery.carries_cutTo sample slot.sample) .nil⟩

/-- What waited and what was accepted is what was delivered and what waits. -/
theorem relayAll_conserves (waiting : List Sample) (calls : List FlowCall) :
    ∃ delivered, waiting ++ accepted render calls =
        delivered ++ (relayAll render waiting calls).2 ∧
      List.Forall₂ Delivery.Carries
        (((calls.map call).zip (relayAll render waiting calls).1).filterMap fun entry =>
          Delivery.of? entry.1 entry.2) delivered := by
  induction calls generalizing waiting with
  | nil => exact ⟨[], List.append_nil waiting, .nil⟩
  | cons call calls ih =>
    obtain ⟨first, hfirst, hcarried⟩ := relay_conserves render waiting call
    obtain ⟨later, hlater, hcarriedLater⟩ := ih (call.relay render waiting).2
    refine ⟨first ++ later, ?_, ?_⟩
    · have haccepted : accepted render (call :: calls) =
          accepted render [call] ++ accepted render calls :=
        List.filterMap_append (l := [call])
      rw [haccepted, ← List.append_assoc, hfirst, List.append_assoc, hlater, List.append_assoc]
      rfl
    · rw [List.map_cons]
      unfold relayAll
      dsimp only
      rw [List.zip_cons_cons, List.filterMap_cons]
      dsimp only
      cases hd : Delivery.of? call.call (call.relay render waiting).1 with
      | none =>
        rw [hd] at hcarried
        exact List.rel_append hcarried hcarriedLater
      | some delivery =>
        rw [hd] at hcarried
        exact List.rel_append hcarried hcarriedLater

end FlowCall

/-! ## Times -/

theorem toHundredNanos_hundredNanos (fallback count : Int64) :
    toHundredNanos .hundredNanos fallback count = count := by
  refine toHundredNanos_of_converts ⟨by decide, ?_⟩
  show count.toInt = (count.toInt * 1 * 10000000).tdiv 10000000
  rw [Int.mul_one, Int.mul_tdiv_cancel _ (by decide)]

/-- A frame that has the time of its packet becomes a sample with this time, known or not. -/
theorem Frame.sampleTime_of_packet {frame : Frame} {packet : Packet}
    (htime : frame.time = packet.time) (hbase : frame.timeBase = .hundredNanos) :
    frame.sampleTime packet = packet.time := by
  unfold sampleTime
  rw [htime, hbase, toHundredNanos_hundredNanos, ite_self]

/-- The packet in which a sample is pushed, if there is memory for it. -/
def Sample.packet (sample : Sample) : Except MediaError Packet :=
  (allocate sample.data.size "数据包缓冲区").map fun _ =>
    ⟨sample.data, sample.time, sample.duration, .hundredNanos⟩

/-! ## Sessions -/

namespace Session

variable {σ : Type} [Engine σ]

/-- The sample that a packet becomes when an engine makes one frame of each. -/
def made (kind : StreamKind) (engine : σ) (frameOf : Packet → Except MediaError Frame)
    (packet : Packet) : Except MediaError Sample := do
  let frame ← frameOf packet
  let data ← Renderer.rendering kind (Engine.params engine) frame
  .ok
    { data := data
      time := frame.sampleTime packet
      duration := frame.sampleDuration packet (Engine.timeBase engine) }

/-- The engine only repackages, the renderer serves streams of a kind, and there is no news about
the frame size. -/
structure Relays (session : Session σ) (kind : StreamKind)
    (frameOf : Packet → Except MediaError Frame) : Prop where
  repackages : Engine.Repackages session.engine frameOf
  serves : session.renderer.Serves kind
  unread : session.sizeChanged = false
  observed : session.noteFrameSize = session

namespace Relays

variable {session : Session σ} {kind : StreamKind} {frameOf : Packet → Except MediaError Frame}

theorem noteFrameSize_update (h : session.Relays kind frameOf) (renderer : Renderer)
    (queue : List Sample) :
    noteFrameSize { session with renderer := renderer, queue := queue } =
      { session with renderer := renderer, queue := queue } := by
  have hupdate := Session.noteFrameSize_update session renderer queue false
  simp only [Bool.false_or, h.observed] at hupdate
  exact hupdate

theorem update (h : session.Relays kind frameOf) {renderer : Renderer} (hr : renderer.Serves kind)
    (queue : List Sample) :
    Relays { session with renderer := renderer, queue := queue } kind frameOf :=
  ⟨h.repackages, hr, h.unread, h.noteFrameSize_update renderer queue⟩

theorem receiveFrames (h : session.Relays kind frameOf) {loaded : σ} {frame : Frame}
    (hreceived : Engine.receiveFrame loaded = (.ok frame, session.engine)) (packet : Packet) :
    ∃ renderer : Renderer, renderer.Serves kind ∧
      Session.receiveFrames { session with engine := loaded } packet =
        match Renderer.rendering kind (Engine.params session.engine) frame with
        | .error error => (.error error, { session with renderer := renderer })
        | .ok data =>
          (.ok (),
            { session with
              renderer := renderer
              queue := session.queue ++
                [{ data := data
                   time := frame.sampleTime packet
                   duration := frame.sampleDuration packet (Engine.timeBase session.engine) }] }) := by
  obtain ⟨hresult, hserves⟩ := h.serves.render (Engine.params session.engine) frame
  refine ⟨_, hserves, ?_⟩
  rw [receiveFrames_of_single hreceived h.repackages.idle rfl h.noteFrameSize_update, ← hresult]
  cases session.renderer.render (Engine.params session.engine) frame with
  | mk result after => cases result <;> rfl

/-- A packet is refused, and only what the renderer keeps may change; or it becomes one sample at
the end of the queue. -/
theorem decode (h : session.Relays kind frameOf) {packet : Packet}
    (hp : packet.isEmpty = false) :
    ∃ renderer : Renderer, renderer.Serves kind ∧
      session.decode packet =
        match made kind session.engine frameOf packet with
        | .error error => (.error error, { session with renderer := renderer })
        | .ok sample =>
          (.ok .queued,
            { session with renderer := renderer, queue := session.queue ++ [sample] }) := by
  unfold Session.decode made
  rw [if_neg (Bool.eq_false_iff.mp h.unread)]
  cases hf : frameOf packet with
  | error error =>
    obtain ⟨htry, hsent⟩ := h.repackages.refused hp hf
    refine ⟨session.renderer, h.serves, ?_⟩
    rw [hsent]
    split
    · next he =>
      cases he
      exact absurd rfl htry
    · next he =>
      cases he
      rfl
    · next he => cases he
  | ok frame =>
    obtain ⟨loaded, hsent, hreceived⟩ := h.repackages.taken hp hf
    obtain ⟨renderer, hserves, hframes⟩ := h.receiveFrames hreceived packet
    refine ⟨renderer, hserves, ?_⟩
    rw [hsent]
    dsimp only [bind, Except.bind]
    rw [hframes]
    cases Renderer.rendering kind (Engine.params session.engine) frame with
    | error error => rfl
    | ok data =>
      dsimp only
      -- a queue with one more sample has not the length it had
      rw [if_neg]
      rw [List.length_append, List.length_singleton]
      omega

end Relays

/-- A session with an engine that only repackages relays from the beginning, if a frame size that
the engine reports is that of the input type. -/
theorem relays_create {registry : EngineRegistry σ} {input output : MediaType}
    {settings : CodecSettings} {engine : σ} {renderer : Renderer}
    {frameOf : Packet → Except MediaError Frame} (hkind : input.kind = output.kind)
    (hsettings : registry.settingsFor input output = .ok settings)
    (hengine : registry.openEngine settings = .ok engine)
    (hprepared : (Renderer.forOutput output).prepare (Engine.params engine) output =
      (.ok (), renderer))
    (hrepackages : Engine.Repackages engine frameOf)
    (hsize : output.kind = .video →
      ∀ size, (Engine.params engine).frameSize? = some size → input.frameSize? = some size) :
    ∃ session, create registry input output = .ok session ∧
      session.Relays output.kind frameOf ∧ session.engine = engine := by
  let session : Session σ :=
    { registry := registry
      input := input
      output := output
      settings := settings
      engine := engine
      renderer := renderer
      queue := []
      observedSize := input.frameSize?
      sizeChanged := false }
  have hnoted : session.noteFrameSize = session := by
    unfold noteFrameSize
    cases hr : session.reportedSize? with
    | none => rfl
    | some size =>
      unfold reportedSize? at hr
      split at hr
      · next hvideo => exact if_pos (hsize hvideo size hr)
      · cases hr
  have hcreated : create registry input output = .ok session :=
    create_eq_ok_iff.mpr
      ⟨hkind, settings, engine, renderer, hsettings, hengine, hprepared, hnoted.symm⟩
  exact ⟨session, hcreated, ⟨hrepackages, serves_create hcreated, rfl, hnoted⟩, rfl⟩

end Session

/-! ## Pipelines -/

namespace Pipeline

variable {σ : Type} [Engine σ]

/-- The pipeline takes input, and its session relays, or the one that it would open. The samples of
the queue wait, and `render` is what becomes of a pushed sample. -/
structure Relays (pipeline : Pipeline σ) (render : Sample → Except MediaError Sample)
    (waiting : List Sample) : Prop where
  running : pipeline.isShutDown = false
  draining : pipeline.draining = false
  formatChanging : pipeline.formatChanging = false
  packet : pipeline.packet.data.size ≤ maxBufferLength
  ensured : ∃ session kind frameOf, pipeline.ensureSession = .ok session ∧
    session.Relays kind frameOf ∧ session.queue = waiting ∧
    ∀ sample, sample.data.isEmpty = false →
      render sample = sample.packet >>= Session.made kind session.engine frameOf

namespace Relays

variable {pipeline : Pipeline σ} {render : Sample → Except MediaError Sample}
  {waiting : List Sample}

theorem queue (h : pipeline.Relays render waiting) : pipeline.queue = waiting := by
  obtain ⟨session, kind, frameOf, hensured, -, hqueue, -⟩ := h.ensured
  rw [← queue_of_ensureSession hensured, hqueue]

theorem admits (h : pipeline.Relays render waiting) {sample : Sample}
    (hdata : sample.data.isEmpty = false) : pipeline.Admits 0 sample 0 :=
  ⟨rfl, rfl, h.running, hdata, h.draining, h.formatChanging⟩

theorem settle (h : pipeline.Relays render waiting) : pipeline.settle = pipeline := by
  by_cases hq : pipeline.queue = []
  · rw [settle_of_empty hq, if_neg (Bool.eq_false_iff.mp h.formatChanging)]
    have hd := h.draining
    have hf := h.formatChanging
    cases pipeline
    cases hd
    cases hf
    rfl
  · exact settle_of_samples hq

theorem withSession (h : pipeline.Relays render waiting) {session : Session σ} {kind : StreamKind}
    {frameOf : Packet → Except MediaError Frame} (hs : session.Relays kind frameOf)
    (hrender : ∀ sample, sample.data.isEmpty = false →
      render sample = sample.packet >>= Session.made kind session.engine frameOf)
    {packet : Packet} (hp : packet.data.size ≤ maxBufferLength) :
    Relays { pipeline with session := some session, packet := packet } render session.queue :=
  ⟨h.running, h.draining, h.formatChanging, hp,
    session, kind, frameOf, rfl, hs, rfl, hrender⟩

theorem step_push (h : pipeline.Relays render waiting) {sample : Sample}
    (hdata : sample.data.isEmpty = false) :
    (pipeline.step (.push 0 sample 0)).1 = ((FlowCall.push sample hdata).relay render waiting).1 ∧
      (pipeline.step (.push 0 sample 0)).2.Relays render
        ((FlowCall.push sample hdata).relay render waiting).2 := by
  obtain ⟨session, kind, frameOf, hensured, hs, rfl, hrender⟩ := h.ensured
  have hpush := push_of_admits (h.admits hdata)
  rw [hensured] at hpush
  dsimp only at hpush
  show Answer.of .pushed (pipeline.push 0 sample 0).1 = _ ∧
    (pipeline.push 0 sample 0).2.Relays _ _
  rw [hpush]
  unfold decodeSample FlowCall.relay
  dsimp only
  rw [hrender sample hdata]
  unfold Sample.packet
  rcases Nat.lt_or_ge maxBufferLength sample.data.size with hl | hl
  · rw [Packet.fill_of_lt h.packet hl, allocate_of_lt _ hl]
    exact ⟨rfl, h.withSession hs hrender h.packet⟩
  · obtain ⟨reused, hfilled⟩ := pipeline.packet.fill_of_le hl sample.time sample.duration
    have hpacket : Packet.isEmpty ⟨sample.data, sample.time, sample.duration, .hundredNanos⟩ =
        false := hdata
    obtain ⟨renderer, hserves, hdecoded⟩ := hs.decode hpacket
    rw [hfilled, allocate_of_le _ hl]
    dsimp only [bind, Except.bind, Except.map]
    rw [hdecoded]
    cases Session.made kind session.engine frameOf
        ⟨sample.data, sample.time, sample.duration, .hundredNanos⟩ with
    | error error =>
      exact ⟨rfl, h.withSession (hs.update hserves session.queue) hrender hl⟩
    | ok made =>
      exact ⟨rfl, h.withSession (hs.update hserves (session.queue ++ [made])) hrender hl⟩

theorem step_pull (h : pipeline.Relays render waiting) {slot : OutputSlot}
    (hslot : slot.stream = 0) :
    (pipeline.step (.pull [slot])).1 = ((FlowCall.pull slot hslot).relay render waiting).1 ∧
      (pipeline.step (.pull [slot])).2.Relays render
        ((FlowCall.pull slot hslot).relay render waiting).2 := by
  have hpull := pull_of_running hslot h.running
  obtain ⟨session, kind, frameOf, hensured, hs, hqueue, hrender⟩ := h.ensured
  simp only [step, hpull]
  unfold FlowCall.relay
  cases waiting with
  | nil =>
    have hdelivered : pipeline.deliver slot = (.needMoreInput, slot, pipeline) := by
      rcases ensureSession_eq_ok hensured with hsome | ⟨hnone, -⟩
      · exact deliver_of_empty slot hsome hs.unread hqueue
      · exact deliver_of_none slot hnone
    rw [hdelivered, h.settle]
    exact ⟨rfl, h⟩
  | cons sample rest =>
    -- a session that is only opened now has no samples
    have hsome : pipeline.session = some session := by
      rcases ensureSession_eq_ok hensured with hsome | ⟨-, input, output, -, -, hcreated⟩
      · exact hsome
      · cases hqueue.symm.trans (Session.queue_of_create hcreated)
    rw [deliver_of_sample slot hsome hs.unread hqueue]
    have hnext := h.withSession (hs.update hs.serves rest) hrender h.packet
    refine ⟨rfl, ?_⟩
    rw [hnext.settle]
    exact hnext

theorem step (h : pipeline.Relays render waiting) (call : FlowCall) :
    (pipeline.step call.call).1 = (call.relay render waiting).1 ∧
      (pipeline.step call.call).2.Relays render (call.relay render waiting).2 := by
  cases call with
  | push sample data => exact h.step_push data
  | pull slot stream => exact h.step_pull stream

theorem run (h : pipeline.Relays render waiting) (calls : List FlowCall) :
    (pipeline.run (calls.map FlowCall.call)).1 = (FlowCall.relayAll render waiting calls).1 ∧
      (pipeline.run (calls.map FlowCall.call)).2.Relays render
        (FlowCall.relayAll render waiting calls).2 := by
  induction calls generalizing pipeline waiting with
  | nil => exact ⟨rfl, h⟩
  | cons call calls ih =>
    obtain ⟨hanswer, hnext⟩ := h.step call
    obtain ⟨hanswers, hlast⟩ := ih hnext
    refine ⟨?_, hlast⟩
    rw [List.map_cons, run_cons]
    unfold FlowCall.relayAll
    dsimp only
    rw [hanswer, hanswers]

end Relays

/-- After any run that has left types but no session, the pipeline relays if a session for the types
does. -/
theorem relays_of_types (registry : EngineRegistry σ) (config : PipelineConfig)
    (history : List Call) {input output : MediaType}
    (hs : ((new registry config).run history).2.session = none)
    (hinput : ((new registry config).run history).2.negotiation.input = some input)
    (houtput : ((new registry config).run history).2.negotiation.output = some output)
    {session : Session σ} (hcreated : Session.create registry input output = .ok session)
    {kind : StreamKind} {frameOf : Packet → Except MediaError Frame}
    (hrelays : session.Relays kind frameOf) {render : Sample → Except MediaError Sample}
    (hrender : ∀ sample, sample.data.isEmpty = false →
      render sample = sample.packet >>= Session.made kind session.engine frameOf) :
    ((new registry config).run history).2.Relays render [] := by
  have hconsistent : ((new registry config).run history).2.Consistent :=
    (Consistent.new registry config).run history
  have hfilled : (⟨#[0], 0, 0⟩ : Sample).data.isEmpty = false := rfl
  obtain ⟨-, -, hrun, -, hdraining, hchanging⟩ := hconsistent.admits hs hinput hfilled
  have hnew : SameButPacket (new registry config) (new registry config) := .refl (Nat.zero_le _)
  refine ⟨hrun, hdraining, hchanging, (hnew.run history).2.length, session, kind, frameOf, ?_,
    hrelays, Session.queue_of_create hcreated, hrender⟩
  rw [ensureSession_of_none hs hinput houtput, registry_run]
  exact hcreated

/-- What a host sees of a pipeline that is a queue of samples, each pushed through `render`: the
answers are those of the queue, what waits is what waits there, no pull brings a format change, and
what was delivered and what waits are the accepted samples in order. -/
structure RelayedRun (pipeline : Pipeline σ) (render : Sample → Except MediaError Sample)
    (calls : List FlowCall) : Prop where
  answers : (pipeline.run (calls.map FlowCall.call)).1 = (FlowCall.relayAll render [] calls).1
  queue : (pipeline.run (calls.map FlowCall.call)).2.queue = (FlowCall.relayAll render [] calls).2
  no_streamChange : ∀ answer ∈ (pipeline.run (calls.map FlowCall.call)).1,
    answer.result ≠ .ok (.pulled .streamChange)
  conserves : ∃ delivered, FlowCall.accepted render calls =
      delivered ++ (pipeline.run (calls.map FlowCall.call)).2.queue ∧
    List.Forall₂ Delivery.Carries (pipeline.deliveries (calls.map FlowCall.call)) delivered

theorem Relays.relayedRun {pipeline : Pipeline σ} {render : Sample → Except MediaError Sample}
    (h : pipeline.Relays render []) (calls : List FlowCall) :
    pipeline.RelayedRun render calls := by
  obtain ⟨hanswers, hlast⟩ := h.run calls
  refine ⟨hanswers, hlast.queue, ?_, ?_⟩
  · rw [hanswers]
    exact FlowCall.relayAll_no_streamChange render [] calls
  · obtain ⟨delivered, haccepted, hcarried⟩ := FlowCall.relayAll_conserves render [] calls
    refine ⟨delivered, ?_, ?_⟩
    · rw [hlast.queue]
      exact haccepted
    · unfold deliveries
      rw [hanswers]
      exact hcarried

end Pipeline

end StreamDecode
