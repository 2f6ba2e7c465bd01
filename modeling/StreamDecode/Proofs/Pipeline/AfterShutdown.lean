import StreamDecode.Proofs.Pipeline.Ledger

/-!
# After the shutdown

A pipeline that was shut down stays as it is, whatever the host calls. It tells its state, its
configuration and that the shutdown is complete; every other call is refused, for its arguments if
they are wrong and for the shutdown otherwise. `Call.answerOfShutDown` is the answer, and it depends
on the call alone.

A call looks at its own arguments before it looks at the pipeline (`Call.argumentFault?`), except
for a message, whose stream is looked at only while the pipeline runs.
-/

namespace StreamDecode

namespace Call

/-- What is wrong with a stream number, if anything is. -/
def streamFault? (stream : UInt32) : Option MediaError :=
  if stream = 0 then none else some (.invalidStreamNumber stream)

/-- What is wrong with the arguments of a call, if anything is, before the pipeline is looked at. -/
def argumentFault? : Call → Option MediaError
  | .setInputType stream _ _ | .setOutputType stream _ _ | .inputCandidate stream _
  | .outputCandidate stream _ | .inputType stream | .outputType stream | .inputStreamInfo stream
  | .outputStreamInfo stream | .inputStatus stream => streamFault? stream
  | .push stream _ flags =>
    (streamFault? stream).or
      (if flags = 0 then none else some (.invalidArgument (.inputFlags flags)))
  | .pull [slot] => streamFault? slot.stream
  | .pull slots => some (.invalidArgument (.slotCount slots.length))
  | _ => none

/-- The stream is `0` wherever one is named, a push has no flags, and a pull has one slot. -/
def HasProperArguments : Call → Prop
  | .setInputType stream _ _ | .setOutputType stream _ _ | .inputCandidate stream _
  | .outputCandidate stream _ | .inputType stream | .outputType stream | .inputStreamInfo stream
  | .outputStreamInfo stream | .inputStatus stream => stream = 0
  | .push stream _ flags => stream = 0 ∧ flags = 0
  | .pull slots => ∃ slot, slots = [slot] ∧ slot.stream = 0
  | _ => True

theorem streamFault?_eq_none_iff {stream : UInt32} : streamFault? stream = none ↔ stream = 0 := by
  simp [streamFault?]

theorem argumentFault?_eq_none_iff {call : Call} :
    call.argumentFault? = none ↔ call.HasProperArguments := by
  cases call with
  | push stream sample flags =>
    simp [argumentFault?, HasProperArguments, streamFault?_eq_none_iff]
  | pull slots =>
    rcases slots with _ | ⟨slot, _ | ⟨second, rest⟩⟩ <;>
      simp [argumentFault?, HasProperArguments, streamFault?_eq_none_iff]
  | _ => simp [argumentFault?, HasProperArguments, streamFault?_eq_none_iff]

/-- Whether a call can be refused: all can but the questions for the state and the configuration,
the shutdown and the question whether it is complete. -/
def isRefusable : Call → Bool
  | .state | .config | .shutdown | .requireShutDown => false
  | _ => true

/-- The slots that a call hands over; only a pull has some. -/
def slots : Call → List OutputSlot
  | .pull slots => slots
  | _ => []

/-- The answer of a pipeline that was shut down. -/
def answerOfShutDown (config : PipelineConfig) : Call → Answer
  | .state => .ok (.state .shutdown)
  | .config => .ok (.config config)
  | .shutdown | .requireShutDown => .ok .done
  | call => ⟨.error (call.argumentFault?.getD .shutdown), call.slots⟩

theorem answerOfShutDown_of_isRefusable (config : PipelineConfig) {call : Call}
    (h : call.isRefusable = true) :
    call.answerOfShutDown config = ⟨.error (call.argumentFault?.getD .shutdown), call.slots⟩ := by
  unfold answerOfShutDown
  split
  · cases h
  · cases h
  · cases h
  · cases h
  · rfl

end Call

namespace Pipeline

variable {σ : Type} {pipeline : Pipeline σ}

/-! ## One call -/

theorem enter_of_shutDown (h : pipeline.isShutDown = true) (stream : UInt32) :
    pipeline.enter stream = .error ((Call.streamFault? stream).getD .shutdown) := by
  unfold enter requireStream requireRunning Call.streamFault?
  by_cases hs : stream = 0
  · simp [hs, h, bind, Except.bind]
  · simp [hs, bind, Except.bind]

theorem enter_bind_of_shutDown {α : Type} (h : pipeline.isShutDown = true) (stream : UInt32)
    (rest : Unit → Except MediaError α) :
    (pipeline.enter stream >>= rest) = .error ((Call.streamFault? stream).getD .shutdown) := by
  rw [enter_of_shutDown h]
  rfl

theorem pull_of_shutDown (h : pipeline.isShutDown = true) (slots : List OutputSlot) :
    pipeline.pull slots =
      (.error ((Call.pull slots).argumentFault?.getD .shutdown), slots, pipeline) := by
  unfold pull
  rcases slots with _ | ⟨slot, _ | ⟨second, rest⟩⟩
  · rfl
  · dsimp only
    rw [enter_of_shutDown h]
    rfl
  · rfl

variable [Engine σ]

theorem push_of_shutDown (h : pipeline.isShutDown = true) (stream : UInt32) (sample : Sample)
    (flags : UInt32) :
    pipeline.push stream sample flags =
      (.error ((Call.push stream sample flags).argumentFault?.getD .shutdown), pipeline) := by
  unfold push Call.argumentFault? Call.streamFault?
  by_cases hs : stream = 0
  · by_cases hf : flags = 0
    · simp [hs, hf, h]
    · simp [hs, hf]
  · simp [hs]

/-- A pipeline that was shut down stays as it is, and its answer depends on the call alone. -/
theorem step_of_shutDown (h : pipeline.isShutDown = true) (call : Call) :
    pipeline.step call = (call.answerOfShutDown pipeline.config, pipeline) := by
  have hrunning : pipeline.requireRunning = .error .shutdown := by
    unfold requireRunning
    rw [if_pos h]
  cases call with
  | send message =>
    rw [step, send_of_shutDown h]
    rfl
  | push stream sample flags =>
    rw [step, push_of_shutDown h]
    rfl
  | pull slots =>
    rw [step, pull_of_shutDown h]
    rfl
  | state =>
    rw [step, state, if_pos h]
    rfl
  | config => rfl
  | shutdown =>
    rw [step, shutdown, if_pos h]
    rfl
  | requireShutDown =>
    rw [step, requireShutDown, if_pos h]
    rfl
  -- the types and the queries, which ask for access first
  | _ =>
    simp only [step, setInputType, setOutputType, inputCandidate, outputCandidate, inputType,
      outputType, inputStreamInfo, outputStreamInfo, streamLimits, streamCount, streamNumbers,
      inputStatus, outputStatus, enter_bind_of_shutDown h, hrunning]
    rfl

/-! ## Runs -/

theorem run_of_shutDown (h : pipeline.isShutDown = true) (calls : List Call) :
    pipeline.run calls = (calls.map (Call.answerOfShutDown pipeline.config), pipeline) := by
  induction calls with
  | nil => rfl
  | cons call calls ih =>
    rw [run_cons, step_of_shutDown h]
    dsimp only
    rw [ih, List.map_cons]

/-- **The shutdown is final.** After a run with a shutdown the pipeline is, at every later point,
what the shutdown has left: no session, no type and no sample. It tells that it is shut down and
that the shutdown is complete, and a further shutdown changes nothing. No pull writes to its slots.
Every other call is an error, which is that of the shutdown whenever the arguments are proper. -/
theorem run_after_shutdown (registry : EngineRegistry σ) (config : PipelineConfig)
    (before after : List Call) :
    let closed := ((new registry config).run before).2.shutdown
    let later := ((new registry config).run (before ++ .shutdown :: after)).2
    later = closed ∧ later.state = .shutdown ∧ later.requireShutDown = .ok () ∧
      later.session = none ∧ later.negotiation = .empty ∧ later.queue = [] ∧
      later.step .shutdown = (.ok .done, later) ∧
      ∀ call : Call, call.isRefusable = true →
        ∃ error, later.step call = (⟨.error error, call.slots⟩, later) ∧
          (call.HasProperArguments → error = .shutdown) := by
  intro closed later
  have hclosed : closed.isShutDown = true := isShutDown_shutdown _
  have hlater : later = closed := by
    show ((new registry config).run (before ++ .shutdown :: after)).2 = closed
    rw [run_append, run_cons]
    show (closed.run after).2 = closed
    rw [run_of_shutDown hclosed]
  have hdown : later.isShutDown = true := hlater ▸ hclosed
  have hconsistent : later.Consistent := (Consistent.new registry config).run _
  have hsession : later.session = none := hconsistent.session_of_shutDown hdown
  refine ⟨hlater, if_pos hdown, if_pos hdown, hsession,
    hconsistent.negotiation_of_shutDown hdown, queue_of_none hsession, step_of_shutDown hdown _, ?_⟩
  intro call hcall
  refine ⟨call.argumentFault?.getD .shutdown, ?_, ?_⟩
  · rw [step_of_shutDown hdown, Call.answerOfShutDown_of_isRefusable _ hcall]
  · intro harguments
    rw [Call.argumentFault?_eq_none_iff.mpr harguments]
    rfl

end Pipeline

end StreamDecode
