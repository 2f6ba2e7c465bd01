import Mathlib.Logic.Basic
import StreamDecode.Pipeline.Run
import StreamDecode.Proofs.Session.Receive
import StreamDecode.Proofs.Session.Types

/-!
# Pushes and pulls in full

What a push does to the queue is decided by `submission?`, the session and the packet that it hands
over: with one the session decodes the packet, without one nothing is queued (`push_cases`).

A pull with one slot of stream `0` does what `deliver` does and settles (`pull_of_running`), and
`deliver` has one equation for each state of the session. Every other pull is an error and changes
nothing (`pull_cases`).
-/

namespace StreamDecode

namespace Pipeline

variable {σ : Type}

/-- The samples that wait to be pulled. -/
def queue (pipeline : Pipeline σ) : List Sample :=
  match pipeline.session with
  | none => []
  | some session => session.queue

theorem queue_of_none {pipeline : Pipeline σ} (hs : pipeline.session = none) :
    pipeline.queue = [] := by
  unfold queue
  rw [hs]

theorem queue_of_some {pipeline : Pipeline σ} {session : Session σ}
    (hs : pipeline.session = some session) : pipeline.queue = session.queue := by
  unfold queue
  rw [hs]

theorem hasSamples_eq_false_iff {pipeline : Pipeline σ} :
    pipeline.hasSamples = false ↔ pipeline.queue = [] := by
  unfold hasSamples queue
  cases pipeline.session with
  | none => simp
  | some session => simp [Session.hasSamples]

theorem settle_of_samples {pipeline : Pipeline σ} (hq : pipeline.queue ≠ []) :
    pipeline.settle = pipeline := by
  unfold settle
  rw [if_pos]
  exact eq_true_of_ne_false fun h => hq (hasSamples_eq_false_iff.mp h)

theorem settle_of_empty {pipeline : Pipeline σ} (hq : pipeline.queue = []) :
    pipeline.settle =
      { pipeline with
        draining := false
        formatChanging := false
        session := if pipeline.formatChanging then none else pipeline.session } := by
  unfold settle
  rw [if_neg]
  rw [hasSamples_eq_false_iff.mpr hq]
  exact Bool.false_ne_true

/-- Settling drops a session only if no sample waits in it. -/
@[simp] theorem queue_settle (pipeline : Pipeline σ) : pipeline.settle.queue = pipeline.queue := by
  by_cases hq : pipeline.queue = []
  · rw [settle_of_empty hq]
    cases hf : pipeline.formatChanging with
    | true => exact hq.symm
    | false => rfl
  · rw [settle_of_samples hq]

/-! ## Access -/

theorem refreshMode_eq (pipeline : Pipeline σ) :
    ∃ mode, pipeline.refreshMode = { pipeline with mode := mode } := by
  unfold refreshMode
  split
  · exact ⟨pipeline.mode, rfl⟩
  · exact ⟨_, rfl⟩

theorem withNegotiation_eq (pipeline : Pipeline σ) (committed : Bool) (negotiation : Negotiation) :
    ∃ mode, pipeline.withNegotiation committed negotiation =
      { pipeline with
        negotiation := negotiation
        formatChanging := pipeline.formatChanging || (committed && pipeline.session.isSome)
        mode := mode } :=
  refreshMode_eq _

theorem endStream_eq {pipeline next : Pipeline σ} {stream : UInt32}
    (h : pipeline.endStream stream = .ok next) :
    ∃ mode, next = { pipeline with mode := mode } := by
  unfold endStream at h
  cases hs : requireStream stream with
  | error error => rw [hs] at h; cases h
  | ok =>
    rw [hs] at h
    cases h
    split
    · exact refreshMode_eq { pipeline with mode := .idle }
    · exact ⟨pipeline.mode, rfl⟩

theorem enter_eq_ok_iff {pipeline : Pipeline σ} {stream : UInt32} :
    pipeline.enter stream = .ok () ↔ stream = 0 ∧ pipeline.isShutDown = false := by
  unfold enter requireStream requireRunning
  by_cases hs : stream = 0
  · rw [if_pos hs]
    cases pipeline.isShutDown <;> simp [hs, bind, Except.bind]
  · rw [if_neg hs]
    simp [hs, bind, Except.bind]

/-! ## Pulling -/

section Pull

variable {pipeline : Pipeline σ} {session : Session σ} (slot : OutputSlot)

theorem deliver_of_none (hs : pipeline.session = none) :
    pipeline.deliver slot = (.needMoreInput, slot, pipeline) := by
  unfold deliver
  rw [hs]

theorem deliver_of_change (hs : pipeline.session = some session)
    (hc : session.sizeChanged = true) :
    pipeline.deliver slot =
      (.streamChange, { slot with formatChange := true },
        pipeline.announce { session with sizeChanged := false } session.output) := by
  unfold deliver
  rw [hs]
  dsimp only
  unfold Session.takeFormatChange
  rw [if_pos hc]

theorem deliver_of_empty (hs : pipeline.session = some session)
    (hc : session.sizeChanged = false) (hq : session.queue = []) :
    pipeline.deliver slot = (.needMoreInput, slot, pipeline) := by
  unfold deliver
  rw [hs]
  dsimp only
  unfold Session.takeFormatChange Session.popSample
  rw [if_neg (by rw [hc]; exact Bool.false_ne_true)]
  dsimp only
  rw [hq]
  dsimp only
  rw [← hs]

theorem deliver_of_sample (hs : pipeline.session = some session)
    (hc : session.sizeChanged = false) {sample : Sample} {rest : List Sample}
    (hq : session.queue = sample :: rest) :
    pipeline.deliver slot =
      (.delivered, { slot with sample := some (sample.cutTo slot.sample) },
        { pipeline with session := some { session with queue := rest } }) := by
  unfold deliver
  rw [hs]
  dsimp only
  unfold Session.takeFormatChange Session.popSample
  rw [if_neg (by rw [hc]; exact Bool.false_ne_true)]
  dsimp only
  rw [hq]

theorem pull_of_running {slot : OutputSlot} (hslot : slot.stream = 0)
    (hrun : pipeline.isShutDown = false) :
    pipeline.pull [slot] =
      (.ok (pipeline.deliver slot).1, [(pipeline.deliver slot).2.1],
        (pipeline.deliver slot).2.2.settle) := by
  unfold pull
  dsimp only
  rw [enter_eq_ok_iff.mpr ⟨hslot, hrun⟩]

end Pull

/-- A pull is an error that changes nothing, or it has one slot and the pipeline runs. -/
theorem pull_cases (pipeline : Pipeline σ) (slots : List OutputSlot) :
    (∃ error, pipeline.pull slots = (.error error, slots, pipeline)) ∨
      ∃ slot, slots = [slot] ∧ slot.stream = 0 ∧ pipeline.isShutDown = false := by
  unfold pull
  split
  · next slot =>
    cases he : pipeline.enter slot.stream with
    | error error => exact Or.inl ⟨error, rfl⟩
    | ok => exact Or.inr ⟨slot, rfl, enter_eq_ok_iff.mp he⟩
  · exact Or.inl ⟨_, rfl⟩

/-! ## Pushing -/

section Push

variable [Engine σ] {pipeline : Pipeline σ} {session : Session σ}

theorem ensureSession_eq_ok (h : pipeline.ensureSession = .ok session) :
    pipeline.session = some session ∨
      pipeline.session = none ∧ ∃ input output, pipeline.negotiation.input = some input ∧
        pipeline.negotiation.output = some output ∧
        Session.create pipeline.registry input output = .ok session := by
  unfold ensureSession at h
  split at h
  · next hs =>
    cases h
    exact Or.inl hs
  · next hs =>
    refine Or.inr ⟨hs, ?_⟩
    cases hi : pipeline.negotiation.input with
    | none => rw [hi] at h; cases h
    | some input =>
      cases ho : pipeline.negotiation.output with
      | none => rw [hi, ho] at h; cases h
      | some output =>
        rw [hi, ho] at h
        exact ⟨input, output, rfl, rfl, h⟩

theorem queue_of_ensureSession (h : pipeline.ensureSession = .ok session) :
    session.queue = pipeline.queue := by
  rcases ensureSession_eq_ok h with hs | ⟨hs, input, output, -, -, hc⟩
  · exact (queue_of_some hs).symm
  · obtain ⟨settings, engine, renderer, -, -, rfl⟩ := Session.eq_of_create hc
    rw [queue_of_none hs, Session.queue_noteFrameSize]

/-- Whether a push comes to a session: its arguments are right, it brings data, and the pipeline is
neither shut down nor about to empty its queue. -/
def Admits (pipeline : Pipeline σ) (stream : UInt32) (sample : Sample) (flags : UInt32) : Prop :=
  stream = 0 ∧ flags = 0 ∧ pipeline.isShutDown = false ∧ sample.data.isEmpty = false ∧
    pipeline.draining = false ∧ pipeline.formatChanging = false

instance (pipeline : Pipeline σ) (stream : UInt32) (sample : Sample) (flags : UInt32) :
    Decidable (pipeline.Admits stream sample flags) := by unfold Admits; infer_instance

/-- The session and the packet that a push hands over, if it comes to that. -/
def submission? (pipeline : Pipeline σ) (stream : UInt32) (sample : Sample) (flags : UInt32) :
    Option (Session σ × Packet) :=
  if pipeline.Admits stream sample flags then
    match pipeline.ensureSession, pipeline.packet.fill sample.data sample.time sample.duration with
    | .ok session, (.ok _, packet) => some (session, packet)
    | _, _ => none
  else none

variable {stream flags : UInt32} {sample : Sample}

theorem push_of_not_admits (h : ¬ pipeline.Admits stream sample flags) :
    (pipeline.push stream sample flags).2 = pipeline := by
  unfold push
  split
  · rfl
  next hstream =>
  split
  · rfl
  next hflags =>
  split
  · rfl
  next hrun =>
  split
  · rfl
  next hdata =>
  split
  · rfl
  next hflow =>
  rw [Bool.or_eq_true, not_or] at hflow
  exact absurd ⟨not_not.mp hstream, not_not.mp hflags, Bool.eq_false_iff.mpr hrun,
    Bool.eq_false_iff.mpr hdata, Bool.eq_false_iff.mpr hflow.1, Bool.eq_false_iff.mpr hflow.2⟩ h

theorem push_of_admits (h : pipeline.Admits stream sample flags) :
    pipeline.push stream sample flags =
      match pipeline.ensureSession with
      | .error error => (.error error, pipeline)
      | .ok session => pipeline.decodeSample session sample := by
  obtain ⟨hstream, hflags, hrun, hdata, hd, hf⟩ := h
  unfold push
  rw [if_neg (not_not.mpr hstream), if_neg (not_not.mpr hflags), hrun, hdata, hd, hf]
  rfl

theorem push_of_busy (hrun : pipeline.isShutDown = false) (hdata : sample.data.isEmpty = false)
    (hb : pipeline.draining = true ∨ pipeline.formatChanging = true) :
    pipeline.push 0 sample 0 = (.ok .notAccepting, pipeline) := by
  unfold push
  rw [if_neg (not_not.mpr rfl), if_neg (not_not.mpr rfl), hrun, hdata, Bool.or_eq_true_iff.mpr hb]
  rfl

/-- A push changes nothing, or it comes to a session. Then there is no memory for the packet, or the
session decodes it. -/
theorem push_cases (pipeline : Pipeline σ) (stream : UInt32) (sample : Sample) (flags : UInt32) :
    (pipeline.submission? stream sample flags = none ∧
      (pipeline.push stream sample flags).2 = pipeline) ∨
    (pipeline.Admits stream sample flags ∧
      ∃ session packet, pipeline.ensureSession = .ok session ∧
        (pipeline.submission? stream sample flags = none ∧
            (pipeline.push stream sample flags).2 =
              { pipeline with session := some session, packet := packet } ∨
          pipeline.submission? stream sample flags = some (session, packet) ∧
            (pipeline.push stream sample flags).2 =
              { pipeline with session := some (session.decode packet).2, packet := packet })) := by
  by_cases h : pipeline.Admits stream sample flags
  · unfold submission?
    rw [if_pos h, push_of_admits h]
    cases he : pipeline.ensureSession with
    | error error => exact Or.inl ⟨rfl, rfl⟩
    | ok session =>
      refine Or.inr ⟨h, session, ?_⟩
      dsimp only
      unfold decodeSample
      cases hp : pipeline.packet.fill sample.data sample.time sample.duration with
      | mk result packet =>
        cases result with
        | error error => exact ⟨packet, rfl, Or.inl ⟨rfl, rfl⟩⟩
        | ok => exact ⟨packet, rfl, Or.inr ⟨rfl, rfl⟩⟩
  · unfold submission?
    rw [if_neg h]
    exact Or.inl ⟨rfl, push_of_not_admits h⟩

/-! ## The queue -/

/-- The samples that a push appends to the queue. -/
def appendedBy (pipeline : Pipeline σ) (stream : UInt32) (sample : Sample) (flags : UInt32) :
    List Sample :=
  match pipeline.submission? stream sample flags with
  | none => []
  | some (session, packet) => session.samplesOf packet

theorem queue_push (pipeline : Pipeline σ) (stream : UInt32) (sample : Sample) (flags : UInt32) :
    (pipeline.push stream sample flags).2.queue =
      pipeline.queue ++ pipeline.appendedBy stream sample flags := by
  unfold appendedBy
  rcases push_cases pipeline stream sample flags with
    ⟨hn, hp⟩ | ⟨-, session, packet, he, ⟨hn, hp⟩ | ⟨hs, hp⟩⟩
  · rw [hn, hp, List.append_nil]
  · rw [hn, hp, List.append_nil]
    exact queue_of_ensureSession he
  · rw [hs, hp]
    show (session.decode packet).2.queue = _
    rw [Session.queue_decode, queue_of_ensureSession he]

end Push

end Pipeline

end StreamDecode
