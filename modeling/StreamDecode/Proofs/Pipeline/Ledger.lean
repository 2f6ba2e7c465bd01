import Mathlib.Data.List.Forall2
import StreamDecode.Proofs.Pipeline.Consistent

/-!
# The ledger of samples

Every sample that decoding appends to the queue is entered in a ledger. What is still queued when
the queue is thrown away is struck from it, and nothing else ever is. `ledger_run` says that the
ledger of a run consists of the samples that were delivered, in order, and of those that still wait,
so that no sample is lost, doubled or moved past another one.

The argument is a balance for one call (`step_balance`): what waited and what came is what was
delivered, what waits and what was thrown away.
-/

namespace StreamDecode

/-! ## Deliveries -/

/-- A sample that a pull delivered, and the buffer that the host had put into the slot. -/
structure Delivery where
  buffer : Option Sample
  sample : Sample

namespace Delivery

/-- The delivery of a call, if the call is a pull and its answer says that it delivered. -/
def of? : Call → Answer → Option Delivery
  | .pull [slot], ⟨.ok (.pulled .delivered), [received]⟩ => received.sample.map (⟨slot.sample, ·⟩)
  | _, _ => none

theorem of?_error (call : Call) (error : MediaError) (slots : List OutputSlot) :
    of? call ⟨.error error, slots⟩ = none := by
  unfold of?
  split
  · next h => cases h
  · rfl

/-- What was delivered is a given sample: with its time and its duration, and with its data, which is
cut to the length of the buffer if there was one. -/
structure Carries (delivery : Delivery) (sample : Sample) : Prop where
  time : delivery.sample.time = sample.time
  duration : delivery.sample.duration = sample.duration
  data : delivery.sample.data =
    match delivery.buffer with
    | none => sample.data
    | some buffer => sample.data.take buffer.data.size

theorem carries_cutTo (sample : Sample) (buffer : Option Sample) :
    Carries ⟨buffer, sample.cutTo buffer⟩ sample := by
  cases buffer with
  | none => exact ⟨rfl, rfl, rfl⟩
  | some buffer => exact ⟨rfl, rfl, rfl⟩

end Delivery

namespace Pipeline

variable {σ : Type} [Engine σ]

/-! ## Entries -/

/-- The samples that a call appends to the queue. -/
def appended (pipeline : Pipeline σ) : Call → List Sample
  | .push stream sample flags => pipeline.appendedBy stream sample flags
  | _ => []

/-- The samples that a call throws away: those still queued at the start of a stream, at a flush and
at the shutdown. -/
def thrownAway (pipeline : Pipeline σ) : Call → List Sample
  | .send .startOfStream | .send .flush | .shutdown => pipeline.queue
  | _ => []

/-- The ledger after a run. It cannot be kept if samples are thrown away that are not the last ones
in it. -/
def ledger (pipeline : Pipeline σ) : List Call → List Sample → Option (List Sample)
  | [], entries => some entries
  | call :: calls, entries => do
    let kept ← (entries ++ pipeline.appended call).dropSuffix? (pipeline.thrownAway call)
    (pipeline.step call).2.ledger calls kept

def deliveries (pipeline : Pipeline σ) (calls : List Call) : List Delivery :=
  (calls.zip (pipeline.run calls).1).filterMap fun entry => Delivery.of? entry.1 entry.2

theorem deliveries_cons (pipeline : Pipeline σ) (call : Call) (calls : List Call) :
    pipeline.deliveries (call :: calls) =
      (Delivery.of? call (pipeline.step call).1).toList ++
        (pipeline.step call).2.deliveries calls := by
  unfold deliveries
  rw [run_cons, List.zip_cons_cons, List.filterMap_cons]
  dsimp only
  cases Delivery.of? call (pipeline.step call).1 with
  | none => rfl
  | some delivery => rfl

/-! ## The queue and the messages -/

theorem queue_flushQueue (pipeline : Pipeline σ) : pipeline.flushQueue.2.queue = [] := by
  have hflush : (pipeline.onSession Session.flush).2.queue = [] := by
    unfold onSession
    split
    · next hs => exact queue_of_none hs
    · next session hs => exact Session.queue_flush session
  unfold flushQueue
  split
  · next h =>
    rw [h] at hflush
    rw [queue_settle]
    exact hflush
  · exact hflush

theorem queue_startStream (pipeline : Pipeline σ) : pipeline.startStream.2.queue = [] := by
  have hflush := queue_flushQueue pipeline
  unfold startStream
  split
  · next h =>
    rw [h] at hflush
    exact hflush
  · exact hflush

theorem queue_drain (pipeline : Pipeline σ) : pipeline.drain.2.queue = pipeline.queue := by
  have hflush : (pipeline.onSession Session.flushInput).2.queue = pipeline.queue := by
    unfold onSession
    split
    · rfl
    · next session hs =>
      rw [queue_of_some hs]
      exact Session.queue_flushInput session
  unfold drain
  split
  · next h =>
    rw [h] at hflush
    exact hflush
  · exact hflush

omit [Engine σ] in
theorem queue_endStream {pipeline next : Pipeline σ} {stream : UInt32}
    (h : pipeline.endStream stream = .ok next) : next.queue = pipeline.queue := by
  obtain ⟨mode, rfl⟩ := endStream_eq h
  rfl

theorem send_of_shutDown {pipeline : Pipeline σ} (hrun : pipeline.isShutDown = true)
    (message : Message) : pipeline.send message = (.error .shutdown, pipeline) := by
  unfold send requireRunning
  rw [hrun]
  rfl

theorem queue_send {pipeline : Pipeline σ} (h : pipeline.Consistent) (message : Message) :
    pipeline.queue = (pipeline.send message).2.queue ++ pipeline.thrownAway (.send message) := by
  cases hrun : pipeline.isShutDown with
  | true =>
    have hq : pipeline.queue = [] := queue_of_none (h.session_of_shutDown hrun)
    have ht : pipeline.thrownAway (.send message) = [] := by
      cases message with
      | startOfStream => exact hq
      | flush => exact hq
      | _ => rfl
    rw [send_of_shutDown hrun, ht, List.append_nil]
  | false =>
    unfold send requireRunning
    rw [hrun]
    cases message with
    | startOfStream =>
      show _ = pipeline.startStream.2.queue ++ pipeline.queue
      rw [queue_startStream, List.nil_append]
    | flush =>
      show _ = pipeline.flushQueue.2.queue ++ pipeline.queue
      rw [queue_flushQueue, List.nil_append]
    | drain => exact (queue_drain pipeline).symm.trans (List.append_nil _).symm
    | endOfStream stream =>
      rw [show pipeline.thrownAway (.send (.endOfStream stream)) = [] from rfl, List.append_nil]
      cases he : pipeline.endStream stream with
      | error error => simp [he]
      | ok next => simp [he, queue_endStream he]
    | beginStreaming => exact (List.append_nil _).symm
    | endStreaming => exact (List.append_nil _).symm
    | marker value => exact (List.append_nil _).symm

/-! ## The balance -/

omit [Engine σ] in
theorem queue_withNegotiation (pipeline : Pipeline σ) (committed : Bool)
    (negotiation : Negotiation) :
    (pipeline.withNegotiation committed negotiation).queue = pipeline.queue := by
  obtain ⟨mode, h⟩ := withNegotiation_eq pipeline committed negotiation
  rw [h]
  rfl

omit [Engine σ] in
theorem queue_of_bind {pipeline next : Pipeline σ} {stream : UInt32}
    {result : Except MediaError (Bool × Negotiation)}
    (h : (do
      pipeline.enter stream
      let (committed, negotiation) ← result
      .ok (pipeline.withNegotiation committed negotiation)) = Except.ok next) :
    next.queue = pipeline.queue := by
  obtain ⟨-, committed, negotiation, -, rfl⟩ := eq_withNegotiation_of_bind h
  exact queue_withNegotiation pipeline committed negotiation

omit [Engine σ] in
theorem queue_replaceBy {pipeline : Pipeline σ} {result : Except MediaError (Pipeline σ)}
    (h : ∀ next, result = .ok next → next.queue = pipeline.queue) :
    (pipeline.replaceBy result).2.queue = pipeline.queue := by
  cases result with
  | error error => rfl
  | ok next => exact h next rfl

/-- A pull takes the oldest sample and delivers it, or leaves the queue alone. -/
theorem queue_pull (pipeline : Pipeline σ) (slots : List OutputSlot) :
    ∃ taken, List.Forall₂ Delivery.Carries
        (Delivery.of? (.pull slots) (pipeline.step (.pull slots)).1).toList taken ∧
      pipeline.queue = taken ++ (pipeline.step (.pull slots)).2.queue := by
  rcases pull_cases pipeline slots with ⟨error, h⟩ | ⟨slot, rfl, hslot, hrun⟩
  · simp only [step, h]
    refine ⟨[], ?_, rfl⟩
    rw [show (Except.error error : Except MediaError PullStatus).map Reply.pulled = .error error
      from rfl, Delivery.of?_error]
    exact .nil
  · simp only [step, pull_of_running hslot hrun, queue_settle]
    cases hs : pipeline.session with
    | none =>
      rw [deliver_of_none slot hs]
      exact ⟨[], .nil, rfl⟩
    | some session =>
      cases hc : session.sizeChanged with
      | true =>
        rw [deliver_of_change slot hs hc, queue_of_some hs]
        exact ⟨[], .nil, rfl⟩
      | false =>
        cases hq : session.queue with
        | nil =>
          rw [deliver_of_empty slot hs hc hq]
          exact ⟨[], .nil, rfl⟩
        | cons sample rest =>
          rw [deliver_of_sample slot hs hc hq, queue_of_some hs, hq]
          exact ⟨[sample], .cons (Delivery.carries_cutTo sample slot.sample) .nil, rfl⟩

/-- What waited and what a call appends is what it delivers, what waits afterwards and what it throws
away. -/
theorem step_balance {pipeline : Pipeline σ} (h : pipeline.Consistent) (call : Call) :
    ∃ taken, List.Forall₂ Delivery.Carries
        (Delivery.of? call (pipeline.step call).1).toList taken ∧
      pipeline.queue ++ pipeline.appended call =
        taken ++ (pipeline.step call).2.queue ++ pipeline.thrownAway call := by
  cases call with
  | pull slots =>
    obtain ⟨taken, hd, hq⟩ := queue_pull pipeline slots
    refine ⟨taken, hd, ?_⟩
    rw [show pipeline.appended (.pull slots) = [] from rfl,
      show pipeline.thrownAway (.pull slots) = [] from rfl, List.append_nil, List.append_nil, hq]
  | push stream sample flags =>
    refine ⟨[], .nil, ?_⟩
    rw [show pipeline.thrownAway (.push stream sample flags) = [] from rfl, List.append_nil]
    exact (queue_push pipeline stream sample flags).symm
  | send message =>
    refine ⟨[], .nil, ?_⟩
    rw [show pipeline.appended (.send message) = [] from rfl, List.append_nil, List.nil_append]
    exact queue_send h message
  | shutdown =>
    refine ⟨[], .nil, ?_⟩
    have hq : pipeline.shutdown.queue = [] := by
      unfold shutdown
      split
      · next hrun => exact queue_of_none (h.session_of_shutDown hrun)
      · rfl
    show pipeline.queue ++ [] = [] ++ pipeline.shutdown.queue ++ pipeline.queue
    rw [hq, List.append_nil, List.append_nil, List.nil_append]
  | setInputType stream type testOnly =>
    have hq : (pipeline.step (.setInputType stream type testOnly)).2.queue = pipeline.queue := by
      apply queue_replaceBy
      intro next hn
      exact queue_of_bind hn
    refine ⟨[], .nil, ?_⟩
    rw [hq]
    rfl
  | setOutputType stream type testOnly =>
    have hq : (pipeline.step (.setOutputType stream type testOnly)).2.queue = pipeline.queue := by
      apply queue_replaceBy
      intro next hn
      exact queue_of_bind hn
    refine ⟨[], .nil, ?_⟩
    rw [hq]
    rfl
  -- the queries
  | _ => exact ⟨[], .nil, rfl⟩

theorem ledger_of_consistent {pipeline : Pipeline σ} (h : pipeline.Consistent)
    (calls : List Call) (before : List Sample) :
    ∃ taken, pipeline.ledger calls (before ++ pipeline.queue) =
        some (before ++ taken ++ (pipeline.run calls).2.queue) ∧
      List.Forall₂ Delivery.Carries (pipeline.deliveries calls) taken := by
  induction calls generalizing pipeline before with
  | nil => exact ⟨[], by rw [List.append_nil]; rfl, .nil⟩
  | cons call calls ih =>
    obtain ⟨taken, hd, hbalance⟩ := step_balance h call
    obtain ⟨later, hledger, hlater⟩ := ih (h.run [call]) (before ++ taken)
    refine ⟨taken ++ later, ?_, ?_⟩
    · have hkept : (before ++ pipeline.queue ++ pipeline.appended call).dropSuffix?
          (pipeline.thrownAway call) =
            some (before ++ taken ++ (pipeline.step call).2.queue) := by
        rw [List.dropSuffix?_eq_some_iff]
        refine ⟨pipeline.thrownAway call, ?_, beq_self_eq_true _⟩
        rw [List.append_assoc, hbalance]
        simp only [List.append_assoc]
      unfold ledger
      rw [hkept, run_cons, ← List.append_assoc]
      exact hledger
    · rw [deliveries_cons]
      exact List.rel_append hd hlater

/-- **The ledger of samples.** In every run of a new pipeline, the samples that decoding appends to
the queue, in their order and without those still queued when the queue was thrown away, are the
samples that were delivered followed by those that still wait. -/
theorem ledger_run (registry : EngineRegistry σ) (config : PipelineConfig) (calls : List Call) :
    ∃ taken,
      (new registry config).ledger calls [] =
        some (taken ++ ((new registry config).run calls).2.queue) ∧
      List.Forall₂ Delivery.Carries ((new registry config).deliveries calls) taken :=
  ledger_of_consistent (Consistent.new registry config) calls []

end Pipeline

end StreamDecode
