import StreamDecode.Proofs.Pipeline.Commits
import StreamDecode.Proofs.Pipeline.Lengths

/-!
# The mode and the history of a stream

The mode of a pipeline is stored, and it is refreshed when the host sets a type and when it ends a
stream. An announcement clears the output type as well, but it does not refresh the mode.
`StreamHistory` records what a run tells of the mode: whether a stream goes on, and whether such an
announcement has been overlooked. The mode always is the one of the history (`FitsHistory.run`), so
that a host sees the state that its calls imply, except after an announcement that was overlooked
(`state_after_run`).
-/

namespace StreamDecode

/-- The state that a host sees while nothing is drained or changed. -/
def StreamMode.state : StreamMode → PipelineState
  | .idle => .idle
  | .typesNegotiated => .typesNegotiated
  | .streaming => .streaming

/-- What a run tells of the mode: whether a stream was started and has not ended, and whether a
complete pair of types has lost its output type to an announcement since the mode was refreshed. -/
structure StreamHistory where
  started : Bool
  overlooked : Bool

namespace StreamHistory

/-- Before the first call. -/
def fresh : StreamHistory := ⟨false, false⟩

/-- The history after a call and its answer. `complete` tells whether both types were stored before
the call. The end of a stream refreshes the mode only if there is a stream. -/
def next (history : StreamHistory) (complete : Bool) (call : Call)
    (result : Except MediaError Reply) : StreamHistory :=
  match call, result with
  | .send .startOfStream, .ok _ => { history with started := true }
  | .send (.endOfStream _), .ok _ => if history.started then fresh else history
  | .setInputType .., .ok _ => { history with overlooked := false }
  | .setOutputType .., .ok _ => { history with overlooked := false }
  | .pull _, .ok (.pulled .streamChange) =>
    { history with overlooked := history.overlooked || complete }
  | _, _ => history

/-- The mode that a history leads to; `complete` tells whether both types are stored. -/
def mode (history : StreamHistory) (complete : Bool) : StreamMode :=
  if history.started then .streaming
  else if complete || history.overlooked then .typesNegotiated
  else .idle

@[simp] theorem next_of_error (history : StreamHistory) (complete : Bool) (call : Call)
    (error : MediaError) : history.next complete call (.error error) = history := by
  unfold next
  split <;> first | rfl | contradiction

end StreamHistory

namespace Pipeline

variable {σ : Type} {pipeline : Pipeline σ}

/-! ## What leaves the mode alone -/

@[simp] theorem mode_settle (pipeline : Pipeline σ) : pipeline.settle.mode = pipeline.mode := by
  unfold settle
  split <;> rfl

theorem mode_withNegotiation (pipeline : Pipeline σ) (committed : Bool)
    (negotiation : Negotiation) :
    (pipeline.withNegotiation committed negotiation).mode =
      if pipeline.mode = .streaming then .streaming
      else if negotiation.isComplete then .typesNegotiated else .idle := by
  unfold withNegotiation refreshMode
  dsimp only
  split
  · assumption
  · rfl

theorem mode_onSession (pipeline : Pipeline σ)
    (act : Session σ → Except MediaError Unit × Session σ) :
    (pipeline.onSession act).2.mode = pipeline.mode := by
  unfold onSession
  split <;> rfl

theorem deliver_keeps (pipeline : Pipeline σ) (slot : OutputSlot) :
    (pipeline.deliver slot).2.2.mode = pipeline.mode ∧
      (pipeline.deliver slot).2.2.isShutDown = pipeline.isShutDown := by
  unfold deliver
  split
  · exact ⟨rfl, rfl⟩
  · split
    · exact ⟨rfl, rfl⟩
    · split <;> exact ⟨rfl, rfl⟩

theorem pull_keeps (pipeline : Pipeline σ) (slots : List OutputSlot) :
    (pipeline.pull slots).2.2.mode = pipeline.mode ∧
      (pipeline.pull slots).2.2.isShutDown = pipeline.isShutDown := by
  rcases pull_cases pipeline slots with ⟨error, hp⟩ | ⟨slot, rfl, hslot, hrun⟩
  · rw [hp]
    exact ⟨rfl, rfl⟩
  · obtain ⟨hm, hd⟩ := deliver_keeps pipeline slot
    rw [pull_of_running hslot hrun]
    exact ⟨(mode_settle _).trans hm, (isShutDown_settle _).trans hd⟩

variable [Engine σ]

theorem mode_push (pipeline : Pipeline σ) (stream : UInt32) (sample : Sample) (flags : UInt32) :
    (pipeline.push stream sample flags).2.mode = pipeline.mode := by
  rcases push_cases pipeline stream sample flags with
    ⟨-, hp⟩ | ⟨-, session, packet, -, ⟨-, hp⟩ | ⟨-, hp⟩⟩ <;> rw [hp]

theorem mode_flushQueue (pipeline : Pipeline σ) : pipeline.flushQueue.2.mode = pipeline.mode := by
  have hflush := pipeline.mode_onSession Session.flush
  unfold flushQueue
  split
  · next he =>
    rw [he] at hflush
    exact (mode_settle _).trans hflush
  · exact hflush

theorem mode_drain (pipeline : Pipeline σ) : pipeline.drain.2.mode = pipeline.mode := by
  have hflush := pipeline.mode_onSession Session.flushInput
  unfold drain
  split
  · next he =>
    rw [he] at hflush
    exact hflush
  · exact hflush

/-- A stream that starts sets the mode; one that does not start leaves it alone. -/
theorem startStream_cases (pipeline : Pipeline σ) :
    (pipeline.startStream.1 = .ok () ∧ pipeline.startStream.2.mode = .streaming) ∨
      ∃ error, pipeline.startStream.1 = .error error ∧
        pipeline.startStream.2.mode = pipeline.mode := by
  have hflush := pipeline.mode_flushQueue
  unfold startStream
  cases hf : pipeline.flushQueue with
  | mk result after =>
    rw [hf] at hflush
    cases result with
    | ok => exact Or.inl ⟨rfl, rfl⟩
    | error error => exact Or.inr ⟨error, rfl, hflush⟩

omit [Engine σ] in
/-- The end of a stream is refused, or it leaves the mode that fits the types. -/
theorem endStream_cases (pipeline : Pipeline σ) (stream : UInt32) :
    (∃ error, pipeline.endStream stream = .error error) ∨
      ∃ next, pipeline.endStream stream = .ok next ∧
        next.mode =
          if pipeline.mode = .streaming then
            if pipeline.negotiation.isComplete then .typesNegotiated else .idle
          else pipeline.mode := by
  unfold endStream
  cases requireStream stream with
  | error error => exact Or.inl ⟨error, rfl⟩
  | ok =>
    refine Or.inr ⟨_, rfl, ?_⟩
    split
    · rfl
    · rfl

/-! ## The invariant -/

/-- The history of a run, from a history before it. -/
def streamHistory (pipeline : Pipeline σ) (history : StreamHistory) : List Call → StreamHistory
  | [] => history
  | call :: calls =>
    (pipeline.step call).2.streamHistory
      (history.next pipeline.negotiation.isComplete call (pipeline.step call).1.result) calls

/-- A pipeline that has the mode of its history. An announcement is overlooked only as long as there
is an input type and no output type. -/
structure FitsHistory (history : StreamHistory) (pipeline : Pipeline σ) : Prop where
  mode : pipeline.mode = history.mode pipeline.negotiation.isComplete
  overlooked : history.overlooked = true →
    pipeline.negotiation.input.isSome = true ∧ pipeline.negotiation.output = none

omit [Engine σ] in
theorem fitsHistory_new (registry : EngineRegistry σ) (config : PipelineConfig) :
    (new registry config).FitsHistory .fresh :=
  ⟨rfl, nofun⟩

namespace FitsHistory

variable {history : StreamHistory} {next : Pipeline σ}

omit [Engine σ] in
theorem of_same (h : pipeline.FitsHistory history) (hm : next.mode = pipeline.mode)
    (hn : next.negotiation = pipeline.negotiation) : next.FitsHistory history := by
  constructor
  · rw [hm, hn]
    exact h.mode
  · rw [hn]
    exact h.overlooked

omit [Engine σ] in
/-- A pipeline is streaming exactly if its history says so. -/
theorem mode_eq_streaming_iff (h : pipeline.FitsHistory history) :
    pipeline.mode = .streaming ↔ history.started = true := by
  rw [h.mode]
  unfold StreamHistory.mode
  cases history.started with
  | true => simp
  | false => cases pipeline.negotiation.isComplete || history.overlooked <;> simp

omit [Engine σ] in
theorem mode_of_not_started (h : pipeline.FitsHistory history) (hs : history.started = false) :
    pipeline.mode =
      if pipeline.negotiation.isComplete || history.overlooked then .typesNegotiated
      else .idle := by
  rw [h.mode]
  unfold StreamHistory.mode
  rw [hs]
  rfl

omit [Engine σ] in
theorem withNegotiation (h : pipeline.FitsHistory history) (committed : Bool)
    (negotiation : Negotiation) :
    (pipeline.withNegotiation committed negotiation).FitsHistory
      { history with overlooked := false } := by
  refine ⟨?_, nofun⟩
  rw [mode_withNegotiation, negotiation_withNegotiation]
  unfold StreamHistory.mode
  simp only [h.mode_eq_streaming_iff, Bool.or_false]

omit [Engine σ] in
theorem endStream (h : pipeline.FitsHistory history) (hm : next.mode =
      if pipeline.mode = .streaming then
        if pipeline.negotiation.isComplete then .typesNegotiated else .idle
      else pipeline.mode)
    (hn : next.negotiation = pipeline.negotiation) :
    next.FitsHistory (if history.started then .fresh else history) := by
  cases hs : history.started with
  | true =>
    rw [if_pos (h.mode_eq_streaming_iff.mpr hs)] at hm
    rw [if_pos rfl]
    refine ⟨?_, nofun⟩
    rw [hm, hn]
    unfold StreamHistory.mode StreamHistory.fresh
    simp only [Bool.or_false, Bool.false_eq_true, if_false]
  | false =>
    have hidle : pipeline.mode ≠ .streaming := by
      rw [Ne, h.mode_eq_streaming_iff, hs]
      exact Bool.false_ne_true
    rw [if_neg hidle] at hm
    exact h.of_same hm hn

theorem send (h : pipeline.FitsHistory history) (hrun : pipeline.isShutDown = false)
    (message : Message) :
    (pipeline.send message).2.FitsHistory
      (history.next pipeline.negotiation.isComplete (.send message)
        ((pipeline.send message).1.map fun _ => .done)) := by
  have htypes := negotiation_send pipeline message
  have hrunning : pipeline.requireRunning = .ok () := by
    unfold requireRunning
    rw [hrun]
    rfl
  unfold Pipeline.send at htypes ⊢
  rw [hrunning] at htypes ⊢
  cases message with
  | startOfStream =>
    rcases startStream_cases pipeline with ⟨hr, hm⟩ | ⟨error, hr, hm⟩
    · dsimp only at htypes ⊢
      rw [hr]
      refine ⟨hm, ?_⟩
      rw [htypes]
      exact h.overlooked
    · dsimp only at htypes ⊢
      rw [hr]
      exact h.of_same hm htypes
  | endOfStream stream =>
    rcases endStream_cases pipeline stream with ⟨error, he⟩ | ⟨next, he, hm⟩
    · dsimp only
      rw [he]
      exact h
    · dsimp only at htypes ⊢
      rw [he] at htypes ⊢
      exact h.endStream hm htypes
  | drain => exact h.of_same (mode_drain pipeline) htypes
  | flush => exact h.of_same (mode_flushQueue pipeline) htypes
  | beginStreaming => exact h
  | endStreaming => exact h
  | marker value => exact h

theorem pull (h : pipeline.FitsHistory history) (slots : List OutputSlot) :
    (pipeline.pull slots).2.2.FitsHistory
      (history.next pipeline.negotiation.isComplete (.pull slots)
        ((pipeline.pull slots).1.map .pulled)) := by
  have hm := (pull_keeps pipeline slots).1
  rcases pull_event_cases pipeline slots with ⟨-, hne, hn⟩ | ⟨session, -, -, -, hr, hn⟩
  · cases hr : (pipeline.pull slots).1 with
    | error error => exact h.of_same hm hn
    | ok status =>
      cases status with
      | streamChange => exact absurd hr hne
      | delivered => exact h.of_same hm hn
      | needMoreInput => exact h.of_same hm hn
  · rw [hr]
    constructor
    · rw [hm, hn, h.mode]
      show _ = StreamHistory.mode
        { history with overlooked := history.overlooked || pipeline.negotiation.isComplete } _
      unfold StreamHistory.mode Negotiation.isComplete
      simp [Bool.or_comm]
    · intro ho
      rw [hn]
      refine ⟨?_, rfl⟩
      rcases Bool.or_eq_true_iff.mp ho with ho | hc
      · exact (h.overlooked ho).1
      · exact (Bool.and_eq_true_iff.mp hc).1

/-- Setting a type in either direction fails and changes nothing, or refreshes the mode. -/
theorem setType (h : pipeline.FitsHistory history) {call : Call} (stream : UInt32)
    (result : Except MediaError (Bool × Negotiation))
    (hnext : ∀ reply, history.next pipeline.negotiation.isComplete call (.ok reply) =
      { history with overlooked := false })
    (hstep : pipeline.step call = pipeline.replaceBy (do
      pipeline.enter stream
      let (committed, negotiation) ← result
      .ok (pipeline.withNegotiation committed negotiation))) :
    (pipeline.step call).2.FitsHistory
      (history.next pipeline.negotiation.isComplete call (pipeline.step call).1.result) := by
  rcases replaceBy_cases pipeline stream result with
    ⟨error, hs⟩ | ⟨committed, negotiation, -, hs⟩
  · rw [hstep, hs, StreamHistory.next_of_error]
    exact h
  · rw [hstep, hs, show (Answer.ok .done).result = .ok .done from rfl, hnext]
    exact h.withNegotiation committed negotiation

/-- A pipeline that still runs after a call has the mode of its history. -/
theorem step (h : pipeline.FitsHistory history) (call : Call)
    (hrun : (pipeline.step call).2.isShutDown = false) :
    (pipeline.step call).2.FitsHistory
      (history.next pipeline.negotiation.isComplete call (pipeline.step call).1.result) := by
  cases call with
  | setInputType stream type testOnly =>
    exact h.setType stream (pipeline.negotiation.setInput type testOnly) (fun _ => rfl) rfl
  | setOutputType stream type testOnly =>
    exact h.setType stream (pipeline.negotiation.setOutput type testOnly) (fun _ => rfl) rfl
  | send message => exact h.send (not_shutDown_of_step hrun) message
  | push stream sample flags =>
    exact h.of_same (mode_push pipeline stream sample flags)
      (negotiation_push pipeline stream sample flags)
  | pull slots => exact h.pull slots
  | shutdown => cases (isShutDown_shutdown pipeline).symm.trans hrun
  -- the queries
  | _ => exact h

theorem run (h : pipeline.FitsHistory history) (calls : List Call)
    (hrun : (pipeline.run calls).2.isShutDown = false) :
    (pipeline.run calls).2.FitsHistory (pipeline.streamHistory history calls) := by
  induction calls generalizing pipeline history with
  | nil => exact h
  | cons call calls ih => exact ih (h.step call (not_shutDown_of_run hrun)) hrun

end FitsHistory

/-! ## The state -/

omit [Engine σ] in
theorem state_of_calm (hrun : pipeline.isShutDown = false) (hd : pipeline.draining = false)
    (hf : pipeline.formatChanging = false) : pipeline.state = pipeline.mode.state := by
  unfold state
  rw [hrun, hd, hf]
  rfl

/-- **The state and the history.** In every run, let the pipeline be neither shut down nor draining
nor changing its format. The state is streaming exactly if a stream was started and no stream has
been ended since. Otherwise it tells whether both types are stored, unless an announcement has been
overlooked: then the output type is missing, but the state says that both types are there. -/
theorem state_after_run (registry : EngineRegistry σ) (config : PipelineConfig) (calls : List Call)
    (hrun : ((new registry config).run calls).2.isShutDown = false)
    (hd : ((new registry config).run calls).2.draining = false)
    (hf : ((new registry config).run calls).2.formatChanging = false) :
    let pipeline := ((new registry config).run calls).2
    let history := (new registry config).streamHistory .fresh calls
    (pipeline.state = .streaming ↔ history.started = true) ∧
      (history.started = false → history.overlooked = false →
        pipeline.state = if pipeline.negotiation.isComplete then .typesNegotiated else .idle) ∧
      (history.started = false → history.overlooked = true →
        pipeline.state = .typesNegotiated ∧ pipeline.negotiation.output = none) := by
  intro pipeline history
  have hfits : pipeline.FitsHistory history := (fitsHistory_new registry config).run calls hrun
  have hstate := state_of_calm hrun hd hf
  refine ⟨?_, ?_, ?_⟩
  · rw [← hfits.mode_eq_streaming_iff, hstate]
    cases pipeline.mode with
    | idle => simp [StreamMode.state]
    | typesNegotiated => simp [StreamMode.state]
    | streaming => simp [StreamMode.state]
  · intro hs ho
    rw [hstate, hfits.mode_of_not_started hs, ho, Bool.or_false]
    cases pipeline.negotiation.isComplete with
    | true => rfl
    | false => rfl
  · intro hs ho
    rw [hstate, hfits.mode_of_not_started hs, ho, Bool.or_true]
    exact ⟨rfl, (hfits.overlooked ho).2⟩

/-- A stream goes on although a larger picture is announced in it, and its end finds that the output
type is missing. -/
theorem state_after_run_of_stream :
    let calls := .send .startOfStream :: openAndPush ++ [.pull [.empty]]
    let ended := calls ++ [.send (.endOfStream 0)]
    let pipeline := grayPipeline [Session.grayOutput ⟨4, 4⟩]
    (pipeline.run calls).2.state = .streaming ∧ (pipeline.run ended).2.state = .idle := by
  intro calls ended pipeline
  obtain ⟨hstreaming, -⟩ := state_after_run (Session.grayRegistry ⟨2, 2⟩ [Session.grayOutput ⟨4, 4⟩])
    .standard calls (by decide +kernel) (by decide +kernel) (by decide +kernel)
  obtain ⟨-, hended, -⟩ := state_after_run (Session.grayRegistry ⟨2, 2⟩ [Session.grayOutput ⟨4, 4⟩])
    .standard ended (by decide +kernel) (by decide +kernel) (by decide +kernel)
  refine ⟨hstreaming.mpr (by decide +kernel), ?_⟩
  have hincomplete : (pipeline.run ended).2.negotiation.isComplete = false := by decide +kernel
  have hidle := hended (by decide +kernel) (by decide +kernel)
  rwa [show ((new _ _).run ended).2.negotiation.isComplete = false from hincomplete] at hidle

/-- Without a stream the announcement of a larger picture leaves the state as it was, although the
output type is missing. -/
theorem state_after_announcement :
    let pipeline := ((grayPipeline [Session.grayOutput ⟨4, 4⟩]).run
      (openAndPush ++ [.pull [.empty]])).2
    pipeline.isShutDown = false ∧ pipeline.draining = false ∧ pipeline.formatChanging = false ∧
      pipeline.negotiation.output = none ∧ pipeline.state = .typesNegotiated := by
  intro pipeline
  refine ⟨?_, ?_, ?_, ?_, ?_⟩ <;> decide +kernel

end Pipeline

end StreamDecode
