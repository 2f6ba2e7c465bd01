import StreamDecode.Pipeline.Basic

/-!
# Pushing and pulling samples

`Pipeline.push` takes a compressed sample, `Pipeline.pull` fills an output slot. That a pipeline
does not take input at the moment, needs more of it or has changed its output type is an answer and
no error.
-/

namespace StreamDecode

/-- What became of a pushed sample. -/
inductive PushStatus where
  | accepted
  | needMoreInput
  | notAccepting
deriving DecidableEq, Repr

/-- What a pull brought. -/
inductive PullStatus where
  | delivered
  | needMoreInput
  | streamChange
deriving DecidableEq, Repr

def PushStatus.code : PushStatus → StatusCode
  | .accepted => .ok
  | .needMoreInput => .needMoreInput
  | .notAccepting => .notAccepting

def PullStatus.code : PullStatus → StatusCode
  | .delivered => .ok
  | .needMoreInput => .needMoreInput
  | .streamChange => .streamChangePending

/-- What became of a sample whose packet was decoded. -/
def PushStatus.ofDecode : DecodeStatus → PushStatus
  | .queued => .accepted
  | .needMoreInput => .needMoreInput
  | .notAccepting => .notAccepting

namespace Pipeline

variable {σ : Type}

/-! ### Pushing -/

section Push

variable [Engine σ]

/-- The session of the pipeline, or a new one for the committed types. -/
def ensureSession (pipeline : Pipeline σ) : Except MediaError (Session σ) :=
  match pipeline.session with
  | some session => .ok session
  | none => do
    let input ← committed pipeline.negotiation.input
    let output ← committed pipeline.negotiation.output
    Session.create pipeline.registry input output

/-- Decodes a sample in a session. -/
def decodeSample (pipeline : Pipeline σ) (session : Session σ) (sample : Sample) :
    Except MediaError PushStatus × Pipeline σ :=
  match pipeline.packet.fill sample.data sample.time sample.duration with
  | (.error error, packet) =>
    (.error error, { pipeline with session := some session, packet := packet })
  | (.ok _, packet) =>
    match session.decode packet with
    | (result, session) =>
      (result.map .ofDecode, { pipeline with session := some session, packet := packet })

/-- Pushes a sample. Wrong arguments are refused first, then every call after the shutdown; an empty
sample is accepted and ignored. -/
def push (pipeline : Pipeline σ) (stream : UInt32) (sample : Sample) (flags : UInt32) :
    Except MediaError PushStatus × Pipeline σ :=
  if stream ≠ 0 then (.error (.invalidStreamNumber stream), pipeline)
  else if flags ≠ 0 then (.error (.invalidArgument (.inputFlags flags)), pipeline)
  else if pipeline.isShutDown then (.error .shutdown, pipeline)
  else if sample.data.isEmpty then (.ok .accepted, pipeline)
  else if pipeline.draining || pipeline.formatChanging then (.ok .notAccepting, pipeline)
  else
    match pipeline.ensureSession with
    | .error error => (.error error, pipeline)
    | .ok session => pipeline.decodeSample session sample

end Push

/-! ### Pulling -/

/-- Announces a format change: the corrected output type becomes the suggestion, and the committed
one is cleared. -/
def announce (pipeline : Pipeline σ) (session : Session σ) (type : MediaType) : Pipeline σ :=
  { pipeline with
    session := some session
    negotiation := (pipeline.negotiation.suggest type).clearOutput }

/-- Hands out what comes next: a format change, else the oldest sample. -/
def deliver (pipeline : Pipeline σ) (slot : OutputSlot) : PullStatus × OutputSlot × Pipeline σ :=
  match pipeline.session with
  | none => (.needMoreInput, slot, pipeline)
  | some session =>
    match session.takeFormatChange with
    | (some type, session) =>
      (.streamChange, { slot with formatChange := true }, pipeline.announce session type)
    | (none, session) =>
      match session.popSample with
      | (none, session) => (.needMoreInput, slot, { pipeline with session := some session })
      | (some sample, session) =>
        (.delivered, { slot with sample := some (sample.cutTo slot.sample) },
          { pipeline with session := some session })

/-- Pulls a sample into the only slot. -/
def pull (pipeline : Pipeline σ) (slots : List OutputSlot) :
    Except MediaError PullStatus × List OutputSlot × Pipeline σ :=
  match slots with
  | [slot] =>
    match pipeline.enter slot.stream with
    | .error error => (.error error, slots, pipeline)
    | .ok () =>
      match pipeline.deliver slot with
      | (status, slot, pipeline) => (.ok status, [slot], pipeline.settle)
  | _ => (.error (.invalidArgument (.slotCount slots.length)), slots, pipeline)

end Pipeline

end StreamDecode
