import Mathlib.Tactic.SplitIfs
import StreamDecode.Proofs.Pipeline.Changes
import StreamDecode.Proofs.Pipeline.Lengths

/-!
# Refused pushes

A push is refused at one of many points before a packet is handed to an engine (`Refused`). If it is
refused by a session with an unread format change, the packet of the pipeline has been overwritten by
then. `run_of_refused` says that the host never finds out: without the refused push all other calls
have the same answers.

Pipelines are `SameButPacket` if they differ at most in what their packets hold. A packet that is
filled holds the new sample alone, and whether there is memory for it does not depend on what it held
before (`Packet.fill_of_le`, `Packet.fill_of_lt`). So a call answers the same in both pipelines
(`SameButPacket.step`).
-/

namespace StreamDecode

namespace Packet

theorem fill_of_le (packet : Packet) {payload : Bytes} (h : payload.size ≤ maxBufferLength)
    (time duration : Int64) :
    ∃ reused, packet.fill payload time duration =
      (.ok reused, ⟨payload, time, duration, .hundredNanos⟩) := by
  unfold fill
  dsimp only
  split
  · exact ⟨true, rfl⟩
  · rw [allocate_of_le _ h]
    exact ⟨false, rfl⟩

theorem fill_of_lt {packet : Packet} (hp : packet.data.size ≤ maxBufferLength) {payload : Bytes}
    (h : maxBufferLength < payload.size) (time duration : Int64) :
    packet.fill payload time duration =
      (.error (.outOfMemory (.tooLong "数据包缓冲区" payload.size)), packet) := by
  have hne : packet.data.size ≠ payload.size := by omega
  unfold fill
  dsimp only
  rw [if_neg hne, allocate_of_lt _ h]

theorem fill_cases (packet : Packet) (payload : Bytes) (time duration : Int64) :
    (∃ reused, packet.fill payload time duration =
        (.ok reused, ⟨payload, time, duration, .hundredNanos⟩)) ∨
      packet.fill payload time duration =
        (.error (.outOfMemory (.tooLong "数据包缓冲区" payload.size)), packet) := by
  unfold fill
  dsimp only
  split
  · exact Or.inl ⟨true, rfl⟩
  · rcases Nat.lt_or_ge maxBufferLength payload.size with hl | hl
    · rw [allocate_of_lt _ hl]
      exact Or.inr rfl
    · rw [allocate_of_le _ hl]
      exact Or.inl ⟨false, rfl⟩

end Packet

namespace Pipeline

variable {σ : Type}

/-! ## What does not look at the packet -/

section WithPacket

variable (pipeline : Pipeline σ) (packet : Packet)

theorem settle_withPacket :
    settle { pipeline with packet := packet } = { pipeline.settle with packet := packet } := by
  unfold settle
  by_cases hs : pipeline.hasSamples = true
  · rw [if_pos hs, if_pos (show hasSamples { pipeline with packet := packet } = true from hs)]
  · rw [if_neg hs, if_neg (show ¬ hasSamples { pipeline with packet := packet } = true from hs)]

theorem refreshMode_withPacket :
    refreshMode { pipeline with packet := packet } =
      { pipeline.refreshMode with packet := packet } := by
  unfold refreshMode
  dsimp only
  split <;> rfl

theorem withNegotiation_withPacket (committed : Bool) (negotiation : Negotiation) :
    withNegotiation { pipeline with packet := packet } committed negotiation =
      { pipeline.withNegotiation committed negotiation with packet := packet } :=
  refreshMode_withPacket
    { pipeline with
      negotiation := negotiation
      formatChanging := pipeline.formatChanging || (committed && pipeline.session.isSome) } packet

theorem deliver_withPacket (slot : OutputSlot) :
    deliver { pipeline with packet := packet } slot =
      ((pipeline.deliver slot).1, (pipeline.deliver slot).2.1,
        { (pipeline.deliver slot).2.2 with packet := packet }) := by
  obtain ⟨_, _, _, _, _, _, _, session, _⟩ := pipeline
  unfold deliver
  cases session with
  | none => rfl
  | some session =>
    dsimp only
    cases session.takeFormatChange with
    | mk change session =>
      cases change with
      | some type => rfl
      | none =>
        dsimp only
        cases session.popSample with
        | mk sample session => cases sample <;> rfl

theorem pull_withPacket (slots : List OutputSlot) :
    pull { pipeline with packet := packet } slots =
      ((pipeline.pull slots).1, (pipeline.pull slots).2.1,
        { (pipeline.pull slots).2.2 with packet := packet }) := by
  unfold pull
  split
  · next slot =>
    have henter : enter { pipeline with packet := packet } slot.stream =
        pipeline.enter slot.stream := rfl
    rw [henter, deliver_withPacket]
    cases pipeline.enter slot.stream with
    | error error => rfl
    | ok =>
      dsimp only
      rw [settle_withPacket]
  · rfl

theorem onSession_withPacket (act : Session σ → Except MediaError Unit × Session σ) :
    onSession { pipeline with packet := packet } act =
      ((pipeline.onSession act).1, { (pipeline.onSession act).2 with packet := packet }) := by
  obtain ⟨_, _, _, _, _, _, _, session, _⟩ := pipeline
  cases session <;> rfl

theorem endStream_withPacket (stream : UInt32) :
    endStream { pipeline with packet := packet } stream =
      (pipeline.endStream stream).map fun next => { next with packet := packet } := by
  unfold endStream
  cases requireStream stream with
  | error error => rfl
  | ok =>
    by_cases hmode : pipeline.mode = .streaming
    · simp only [bind, Except.bind, Except.map, hmode, if_true]
      exact congrArg Except.ok (refreshMode_withPacket { pipeline with mode := .idle } packet)
    · simp only [bind, Except.bind, Except.map, hmode, if_false]

theorem shutdown_withPacket :
    shutdown { pipeline with packet := packet } = { pipeline.shutdown with packet := packet } := by
  unfold shutdown
  dsimp only
  split <;> rfl

/-- What comes of setting a type does not look at the packet. -/
theorem bind_withPacket (entered : Except MediaError Unit)
    (set : Except MediaError (Bool × Negotiation)) :
    (do
      entered
      let (committed, negotiation) ← set
      .ok (withNegotiation { pipeline with packet := packet } committed negotiation)) =
    (do
      entered
      let (committed, negotiation) ← set
      Except.ok (pipeline.withNegotiation committed negotiation)).map fun next : Pipeline σ =>
        { next with packet := packet } := by
  cases entered with
  | error error => rfl
  | ok =>
    cases set with
    | error error => rfl
    | ok set => exact congrArg Except.ok (withNegotiation_withPacket pipeline packet set.1 set.2)

theorem setInputType_withPacket (stream : UInt32) (type : Option MediaType) (testOnly : Bool) :
    setInputType { pipeline with packet := packet } stream type testOnly =
      (pipeline.setInputType stream type testOnly).map fun next =>
        { next with packet := packet } :=
  bind_withPacket pipeline packet (pipeline.enter stream)
    (pipeline.negotiation.setInput type testOnly)

theorem setOutputType_withPacket (stream : UInt32) (type : Option MediaType) (testOnly : Bool) :
    setOutputType { pipeline with packet := packet } stream type testOnly =
      (pipeline.setOutputType stream type testOnly).map fun next =>
        { next with packet := packet } :=
  bind_withPacket pipeline packet (pipeline.enter stream)
    (pipeline.negotiation.setOutput type testOnly)

theorem replaceBy_withPacket (result : Except MediaError (Pipeline σ)) :
    replaceBy { pipeline with packet := packet }
        (result.map fun next => { next with packet := packet }) =
      ((pipeline.replaceBy result).1, { (pipeline.replaceBy result).2 with packet := packet }) := by
  cases result <;> rfl

variable [Engine σ]

theorem flushQueue_withPacket :
    flushQueue { pipeline with packet := packet } =
      (pipeline.flushQueue.1, { pipeline.flushQueue.2 with packet := packet }) := by
  unfold flushQueue
  rw [onSession_withPacket]
  cases pipeline.onSession Session.flush with
  | mk result next =>
    cases result with
    | error error => rfl
    | ok =>
      dsimp only
      rw [settle_withPacket]

theorem startStream_withPacket :
    startStream { pipeline with packet := packet } =
      (pipeline.startStream.1, { pipeline.startStream.2 with packet := packet }) := by
  unfold startStream
  rw [flushQueue_withPacket]
  cases pipeline.flushQueue with
  | mk result next => cases result <;> rfl

theorem drain_withPacket :
    drain { pipeline with packet := packet } =
      (pipeline.drain.1, { pipeline.drain.2 with packet := packet }) := by
  unfold drain
  rw [onSession_withPacket]
  cases pipeline.onSession Session.flushInput with
  | mk result next => cases result <;> rfl

theorem send_withPacket (message : Message) :
    send { pipeline with packet := packet } message =
      ((pipeline.send message).1, { (pipeline.send message).2 with packet := packet }) := by
  have hrunning : requireRunning { pipeline with packet := packet } = pipeline.requireRunning := rfl
  unfold send
  rw [hrunning]
  cases pipeline.requireRunning with
  | error error => rfl
  | ok =>
    cases message with
    | startOfStream => exact startStream_withPacket pipeline packet
    | endOfStream stream =>
      dsimp only
      rw [endStream_withPacket]
      cases pipeline.endStream stream <;> rfl
    | drain => exact drain_withPacket pipeline packet
    | flush => exact flushQueue_withPacket pipeline packet
    | beginStreaming => rfl
    | endStreaming => rfl
    | marker value => rfl

theorem step_withPacket {call : Call} (h : ∀ stream sample flags, call ≠ .push stream sample flags) :
    step { pipeline with packet := packet } call =
      ((pipeline.step call).1, { (pipeline.step call).2 with packet := packet }) := by
  cases call with
  | setInputType stream type testOnly =>
    unfold step
    dsimp only
    rw [setInputType_withPacket, replaceBy_withPacket]
  | setOutputType stream type testOnly =>
    unfold step
    dsimp only
    rw [setOutputType_withPacket, replaceBy_withPacket]
  | send message =>
    unfold step
    dsimp only
    rw [send_withPacket]
    rfl
  | push stream sample flags => exact absurd rfl (h stream sample flags)
  | pull slots =>
    unfold step
    dsimp only
    rw [pull_withPacket]
  | shutdown =>
    unfold step
    dsimp only
    rw [shutdown_withPacket]
  | _ => rfl

end WithPacket

/-! ## Pipelines with different packets -/

/-- Two pipelines that differ at most in what their packets hold; no packet is longer than buffers
can be. -/
structure SameButPacket (a b : Pipeline σ) : Prop where
  length : a.packet.data.size ≤ maxBufferLength
  eq : ∃ packet : Packet, packet.data.size ≤ maxBufferLength ∧ b = { a with packet := packet }

namespace SameButPacket

variable {a b : Pipeline σ}

theorem refl (h : a.packet.data.size ≤ maxBufferLength) : SameButPacket a a := ⟨h, a.packet, h, rfl⟩

variable [Engine σ]

theorem decodeSample (h : SameButPacket a b) (session : Session σ) (sample : Sample) :
    (a.decodeSample session sample).1 = (b.decodeSample session sample).1 ∧
      SameButPacket (a.decodeSample session sample).2 (b.decodeSample session sample).2 := by
  obtain ⟨ha, kept, hkept, rfl⟩ := h
  unfold Pipeline.decodeSample
  dsimp only
  -- a sample that fits makes the packets equal, one that is too long leaves both alone
  by_cases hl : sample.data.size ≤ maxBufferLength
  · obtain ⟨reused, hfilled⟩ := a.packet.fill_of_le hl sample.time sample.duration
    obtain ⟨reusedKept, hfilledKept⟩ := kept.fill_of_le hl sample.time sample.duration
    rw [hfilled, hfilledKept]
    exact ⟨rfl, hl, _, hl, rfl⟩
  · rw [Packet.fill_of_lt ha (Nat.not_le.mp hl), Packet.fill_of_lt hkept (Nat.not_le.mp hl)]
    exact ⟨rfl, ha, kept, hkept, rfl⟩

theorem push (h : SameButPacket a b) (stream : UInt32) (sample : Sample) (flags : UInt32) :
    (a.push stream sample flags).1 = (b.push stream sample flags).1 ∧
      SameButPacket (a.push stream sample flags).2 (b.push stream sample flags).2 := by
  have hdecoded := h.decodeSample
  have hsame := h
  obtain ⟨-, kept, -, rfl⟩ := h
  have hensure : ensureSession { a with packet := kept } = a.ensureSession := rfl
  unfold Pipeline.push
  rw [hensure]
  dsimp only
  split_ifs
  · exact ⟨rfl, hsame⟩
  · exact ⟨rfl, hsame⟩
  · exact ⟨rfl, hsame⟩
  · exact ⟨rfl, hsame⟩
  · exact ⟨rfl, hsame⟩
  · cases a.ensureSession with
    | error error => exact ⟨rfl, hsame⟩
    | ok session => exact hdecoded session sample

/-- A call answers the same in both pipelines, and they are the same but for their packets
afterwards. -/
theorem step (h : SameButPacket a b) (call : Call) :
    (a.step call).1 = (b.step call).1 ∧ SameButPacket (a.step call).2 (b.step call).2 := by
  by_cases hpush : ∃ stream sample flags, call = .push stream sample flags
  · obtain ⟨stream, sample, flags, rfl⟩ := hpush
    obtain ⟨hresult, hafter⟩ := h.push stream sample flags
    exact ⟨congrArg (Answer.of .pushed) hresult, hafter⟩
  · have hother : ∀ stream sample flags, call ≠ .push stream sample flags :=
      fun stream sample flags hc => hpush ⟨stream, sample, flags, hc⟩
    obtain ⟨ha, kept, hkept, rfl⟩ := h
    have hb := step_withPacket a kept hother
    -- its own packet put in again: the call has kept it
    have hself := congrArg (fun after => after.2.packet) (step_withPacket a a.packet hother)
    rw [hb]
    refine ⟨rfl, ?_, kept, hkept, rfl⟩
    dsimp only at hself
    rw [hself]
    exact ha

theorem run (h : SameButPacket a b) (calls : List Call) :
    (a.run calls).1 = (b.run calls).1 ∧ SameButPacket (a.run calls).2 (b.run calls).2 := by
  induction calls generalizing a b with
  | nil => exact ⟨rfl, h⟩
  | cons call calls ih =>
    obtain ⟨hanswer, hnext⟩ := h.step call
    obtain ⟨hanswers, hlast⟩ := ih hnext
    refine ⟨?_, hlast⟩
    rw [run_cons, run_cons, hanswer, hanswers]

end SameButPacket

/-! ## Refusals -/

section Refusals

variable [Engine σ]

/-- Why a push is refused before a packet is handed to an engine. -/
inductive Refused (pipeline : Pipeline σ) (stream : UInt32) (sample : Sample) (flags : UInt32) :
    Prop
  | stream (h : stream ≠ 0)
  | flags (h : flags ≠ 0)
  | shutDown (h : pipeline.isShutDown = true)
  | empty (h : sample.data.isEmpty = true)
  | draining (h : pipeline.draining = true)
  | formatChanging (h : pipeline.formatChanging = true)
  | unreadChange {session : Session σ} (hs : pipeline.session = some session)
      (hc : session.sizeChanged = true)
  | noSession {error : MediaError} (h : pipeline.ensureSession = .error error)

variable {pipeline : Pipeline σ} {stream flags : UInt32} {sample : Sample}

/-- A session with an unread change leaves everything as it is but the packet. -/
theorem decodeSample_of_unread {session : Session σ} (hs : pipeline.session = some session)
    (hc : session.sizeChanged = true) (sample : Sample) :
    ∃ packet, (pipeline.decodeSample session sample).2 = { pipeline with packet := packet } := by
  unfold decodeSample
  cases pipeline.packet.fill sample.data sample.time sample.duration with
  | mk result packet =>
    refine ⟨packet, ?_⟩
    cases result with
    | error error => rw [← hs]
    | ok =>
      dsimp only
      unfold Session.decode
      rw [if_pos hc, ← hs]

/-- A refused push leaves everything as it is but the packet. -/
theorem push_of_refused (h : pipeline.Refused stream sample flags) :
    ∃ packet, (pipeline.push stream sample flags).2 = { pipeline with packet := packet } := by
  by_cases ha : pipeline.Admits stream sample flags
  · rw [push_of_admits ha]
    obtain ⟨hstream, hflags, hrun, hdata, hdraining, hchanging⟩ := ha
    cases h with
    | stream h => exact absurd hstream h
    | flags h => exact absurd hflags h
    | shutDown h => exact absurd (hrun.symm.trans h) Bool.false_ne_true
    | empty h => exact absurd (hdata.symm.trans h) Bool.false_ne_true
    | draining h => exact absurd (hdraining.symm.trans h) Bool.false_ne_true
    | formatChanging h => exact absurd (hchanging.symm.trans h) Bool.false_ne_true
    | unreadChange hs hc =>
      rw [ensureSession_of_some hs]
      exact decodeSample_of_unread hs hc sample
    | noSession h =>
      rw [h]
      exact ⟨pipeline.packet, rfl⟩
  · exact ⟨pipeline.packet, push_of_not_admits ha⟩

/-- **Refused pushes are invisible.** Take a push at any place in a run that is refused before a
packet is handed to an engine. It changes nothing but the packet of the pipeline, if anything; all
other calls of the run have the answers that they have without the push, and the run ends in the same
state, but for the packet. -/
theorem run_of_refused (registry : EngineRegistry σ) (config : PipelineConfig)
    (before after : List Call)
    (h : ((new registry config).run before).2.Refused stream sample flags) :
    let pipeline := ((new registry config).run before).2
    let calls := before ++ .push stream sample flags :: after
    (∃ packet, (pipeline.push stream sample flags).2 = { pipeline with packet := packet }) ∧
      ((new registry config).run calls).1.eraseIdx before.length =
        ((new registry config).run (before ++ after)).1 ∧
      ∃ packet, ((new registry config).run calls).2 =
        { ((new registry config).run (before ++ after)).2 with packet := packet } := by
  intro pipeline calls
  have hnew : SameButPacket (new registry config) (new registry config) := .refl (Nat.zero_le _)
  have hbefore : SameButPacket pipeline pipeline := (hnew.run before).2
  obtain ⟨packet, hpush⟩ := push_of_refused h
  have hsame : SameButPacket pipeline (pipeline.push stream sample flags).2 := by
    refine ⟨hbefore.length, packet, ?_, hpush⟩
    have hlength := (hbefore.push stream sample flags).2.length
    rw [hpush] at hlength
    exact hlength
  obtain ⟨hanswers, -, last, -, hlast⟩ := hsame.run after
  refine ⟨⟨packet, hpush⟩, ?_, last, ?_⟩
  · rw [run_append, run_append, run_cons,
      List.eraseIdx_append_of_length_le (Nat.le_of_eq (length_run ..)), length_run, Nat.sub_self,
      List.eraseIdx_cons_zero]
    exact congrArg _ hanswers.symm
  · rw [run_append, run_append, run_cons]
    exact hlast

end Refusals

/-- The first picture is larger than the engine said, and the host pushes on before it has read the
change. The packet is overwritten, but the pulls bring what they bring without that push. -/
theorem run_of_refused_unread :
    let pipeline := ((grayPipeline [Session.grayOutput ⟨4, 4⟩]).run openAndPush).2
    let pulls : List Call := [.pull [.empty], .pull [.empty]]
    pipeline.Refused 0 ⟨#[1, 2], 1, 1⟩ 0 ∧
      (pipeline.push 0 ⟨#[1, 2], 1, 1⟩ 0).2.packet ≠ pipeline.packet ∧
      ((grayPipeline [Session.grayOutput ⟨4, 4⟩]).run
          (openAndPush ++ .push 0 ⟨#[1, 2], 1, 1⟩ 0 :: pulls)).1.eraseIdx 3 =
        ((grayPipeline [Session.grayOutput ⟨4, 4⟩]).run (openAndPush ++ pulls)).1 := by
  intro pipeline pulls
  have hrefused : pipeline.Refused 0 ⟨#[1, 2], 1, 1⟩ 0 := by
    have hunread : pipeline.hasFormatChange = true := by decide +kernel
    unfold hasFormatChange at hunread
    cases hs : pipeline.session with
    | none =>
      rw [hs] at hunread
      cases hunread
    | some session =>
      rw [hs] at hunread
      exact .unreadChange hs hunread
  exact ⟨hrefused, by decide +kernel,
    (run_of_refused (Session.grayRegistry ⟨2, 2⟩ [Session.grayOutput ⟨4, 4⟩]) .standard openAndPush
      pulls hrefused).2.1⟩

end Pipeline

end StreamDecode
