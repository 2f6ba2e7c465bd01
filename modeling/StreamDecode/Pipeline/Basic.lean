import StreamDecode.Config
import StreamDecode.Negotiation
import StreamDecode.Pipeline.StreamInfo
import StreamDecode.Session.Decode

/-!
# Pipelines

A pipeline is what a host drives: it commits media types, pushes samples, sends messages and pulls
samples. The session for the committed types is created at the first push.

While a pipeline is draining it takes no input until its queue is empty. Committing a type while
there is a session starts a format change: the queue is still pulled, and then the session is
dropped, so that the next push creates one for the new types. `Pipeline.settle` ends both as soon as
no sample is queued.
-/

namespace StreamDecode

/-- How far the host has come with the stream. -/
inductive StreamMode where
  | idle
  | typesNegotiated
  | streaming
deriving DecidableEq, Repr

/-- The state that a host sees. -/
inductive PipelineState where
  | idle
  | typesNegotiated
  | streaming
  | draining
  | formatChanging
  | shutdown
deriving DecidableEq, Repr

def PipelineState.name : PipelineState → String
  | .idle => "idle"
  | .typesNegotiated => "types-negotiated"
  | .streaming => "streaming"
  | .draining => "draining"
  | .formatChanging => "format-changing"
  | .shutdown => "shutdown"

/-- A pipeline. All samples that are pushed go through one packet. -/
structure Pipeline (σ : Type) where
  registry : EngineRegistry σ
  config : PipelineConfig
  negotiation : Negotiation
  mode : StreamMode
  draining : Bool
  formatChanging : Bool
  isShutDown : Bool
  session : Option (Session σ)
  packet : Packet

namespace Pipeline

variable {σ : Type}

def new (registry : EngineRegistry σ) (config : PipelineConfig) : Pipeline σ where
  registry := registry
  config := config
  negotiation := .empty
  mode := .idle
  draining := false
  formatChanging := false
  isShutDown := false
  session := none
  packet := .empty

def hasSamples (pipeline : Pipeline σ) : Bool := pipeline.session.any Session.hasSamples

/-- Whether the session has a format change that the host has not seen. -/
def hasFormatChange (pipeline : Pipeline σ) : Bool := pipeline.session.any Session.sizeChanged

/-- What an empty queue means: draining is over, and a format change drops the session. -/
def settle (pipeline : Pipeline σ) : Pipeline σ :=
  if pipeline.hasSamples then pipeline
  else
    { pipeline with
      draining := false
      formatChanging := false
      session := if pipeline.formatChanging then none else pipeline.session }

/-- The mode that fits the committed types; a stream that was started goes on. -/
def refreshMode (pipeline : Pipeline σ) : Pipeline σ :=
  if pipeline.mode = .streaming then pipeline
  else
    { pipeline with
      mode := if pipeline.negotiation.isComplete then .typesNegotiated else .idle }

/-! ### Access -/

/-- There is one stream in each direction, and its number is `0`. -/
def requireStream (stream : UInt32) : Except MediaError Unit :=
  if stream = 0 then .ok () else .error (.invalidStreamNumber stream)

/-- Refuses every call after the shutdown. -/
def requireRunning (pipeline : Pipeline σ) : Except MediaError Unit :=
  if pipeline.isShutDown then .error .shutdown else .ok ()

/-- Refuses a wrong stream and every call after the shutdown, in this order. -/
def enter (pipeline : Pipeline σ) (stream : UInt32) : Except MediaError Unit := do
  requireStream stream
  pipeline.requireRunning

/-! ### Media types -/

/-- The pipeline after the host has set a type; a type that is committed while there is a session
starts a format change. -/
def withNegotiation (pipeline : Pipeline σ) (committed : Bool) (negotiation : Negotiation) :
    Pipeline σ :=
  refreshMode
    { pipeline with
      negotiation := negotiation
      formatChanging := pipeline.formatChanging || (committed && pipeline.session.isSome) }

/-- Commits or clears the input type, or only tests it. -/
def setInputType (pipeline : Pipeline σ) (stream : UInt32) (type : Option MediaType)
    (testOnly : Bool) : Except MediaError (Pipeline σ) := do
  pipeline.enter stream
  let (committed, negotiation) ← pipeline.negotiation.setInput type testOnly
  .ok (pipeline.withNegotiation committed negotiation)

/-- Commits or clears the output type, or only tests it. -/
def setOutputType (pipeline : Pipeline σ) (stream : UInt32) (type : Option MediaType)
    (testOnly : Bool) : Except MediaError (Pipeline σ) := do
  pipeline.enter stream
  let (committed, negotiation) ← pipeline.negotiation.setOutput type testOnly
  .ok (pipeline.withNegotiation committed negotiation)

def inputCandidate (pipeline : Pipeline σ) (stream : UInt32) (index : Nat) :
    Except MediaError MediaType := do
  pipeline.enter stream
  Negotiation.inputCandidate index

def outputCandidate (pipeline : Pipeline σ) (stream : UInt32) (index : Nat) :
    Except MediaError MediaType := do
  pipeline.enter stream
  pipeline.negotiation.outputCandidate index

/-- A type that must have been committed. -/
def committed (type : Option MediaType) : Except MediaError MediaType :=
  match type with
  | some type => .ok type
  | none => .error .typeNotSet

def inputType (pipeline : Pipeline σ) (stream : UInt32) : Except MediaError MediaType := do
  pipeline.enter stream
  committed pipeline.negotiation.input

def outputType (pipeline : Pipeline σ) (stream : UInt32) : Except MediaError MediaType := do
  pipeline.enter stream
  committed pipeline.negotiation.output

/-! ### Streams -/

/-- What is told about the input stream. -/
def inputStreamInfo (pipeline : Pipeline σ) (stream : UInt32) :
    Except MediaError InputStreamInfo := do
  pipeline.enter stream
  .ok .standard

/-- What is told about the output stream; it depends on the committed output type. -/
def outputStreamInfo (pipeline : Pipeline σ) (stream : UInt32) :
    Except MediaError OutputStreamInfo := do
  pipeline.enter stream
  let output ← committed pipeline.negotiation.output
  match output.kind, output.frameSize? with
  | .audio, _ => .ok (.audio pipeline.config.audioBufferLength)
  | .video, some size => OutputStreamInfo.video size
  | .video, none => .error (.invalidMediaType .outputFrameSizeMissing)

def streamLimits (pipeline : Pipeline σ) : Except MediaError StreamLimits := do
  pipeline.requireRunning
  .ok .standard

def streamCount (pipeline : Pipeline σ) : Except MediaError StreamCount := do
  pipeline.requireRunning
  .ok .standard

/-- Streams are not listed, because their numbers are fixed. -/
def streamNumbers (pipeline : Pipeline σ) : Except MediaError (List UInt32 × List UInt32) := do
  pipeline.requireRunning
  .error (.notImplemented .streamNumbers)

/-- Whether the input takes data at the moment. -/
def inputStatus (pipeline : Pipeline σ) (stream : UInt32) : Except MediaError UInt32 := do
  pipeline.enter stream
  let _ ← committed pipeline.negotiation.input
  .ok
    (if pipeline.draining || pipeline.formatChanging || pipeline.hasFormatChange then
      StreamFlags.none
    else StreamFlags.acceptsData)

/-- Whether a sample can be pulled at the moment. -/
def outputStatus (pipeline : Pipeline σ) : Except MediaError UInt32 := do
  pipeline.requireRunning
  let _ ← committed pipeline.negotiation.output
  .ok (if pipeline.hasSamples then StreamFlags.sampleReady else StreamFlags.none)

/-- The state that the host sees; a format change hides draining, and both hide the mode. -/
def state (pipeline : Pipeline σ) : PipelineState :=
  if pipeline.isShutDown then .shutdown
  else if pipeline.formatChanging then .formatChanging
  else if pipeline.draining then .draining
  else
    match pipeline.mode with
    | .idle => .idle
    | .typesNegotiated => .typesNegotiated
    | .streaming => .streaming

/-! ### Shutdown -/

/-- Ends the pipeline: session and types are dropped. A second shutdown changes nothing. -/
def shutdown (pipeline : Pipeline σ) : Pipeline σ :=
  if pipeline.isShutDown then pipeline
  else
    { pipeline with
      negotiation := .empty
      draining := false
      formatChanging := false
      isShutDown := true
      session := none }

/-- Tells that the shutdown is complete; before it, the question is an error. -/
def requireShutDown (pipeline : Pipeline σ) : Except MediaError Unit :=
  if pipeline.isShutDown then .ok () else .error (.invalidArgument .notShutDown)

end Pipeline

end StreamDecode
