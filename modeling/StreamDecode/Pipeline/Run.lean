import StreamDecode.Pipeline.Flow
import StreamDecode.Pipeline.Message

/-!
# Runs of a pipeline

`Call` has one constructor for each operation of a host. `Pipeline.step` performs a call and
`Pipeline.run` a list of them; every call has an answer, and the pull also gives its slots back.
-/

namespace StreamDecode

/-- An operation of a host. -/
inductive Call where
  | setInputType (stream : UInt32) (type : Option MediaType) (testOnly : Bool)
  | setOutputType (stream : UInt32) (type : Option MediaType) (testOnly : Bool)
  | inputCandidate (stream : UInt32) (index : Nat)
  | outputCandidate (stream : UInt32) (index : Nat)
  | inputType (stream : UInt32)
  | outputType (stream : UInt32)
  | inputStreamInfo (stream : UInt32)
  | outputStreamInfo (stream : UInt32)
  | streamLimits
  | streamCount
  | streamNumbers
  | inputStatus (stream : UInt32)
  | outputStatus
  | state
  | config
  | send (message : Message)
  | push (stream : UInt32) (sample : Sample) (flags : UInt32)
  | pull (slots : List OutputSlot)
  | shutdown
  | requireShutDown
deriving DecidableEq

/-- What a call that succeeds tells. -/
inductive Reply where
  | done
  | mediaType (type : MediaType)
  | inputInfo (info : InputStreamInfo)
  | outputInfo (info : OutputStreamInfo)
  | limits (limits : StreamLimits)
  | count (count : StreamCount)
  | numbers (inputs outputs : List UInt32)
  | status (flags : UInt32)
  | state (state : PipelineState)
  | config (config : PipelineConfig)
  | pushed (status : PushStatus)
  | pulled (status : PullStatus)
deriving DecidableEq

/-- The answer to a call; only a pull has slots. -/
structure Answer where
  result : Except MediaError Reply
  slots : List OutputSlot

namespace Answer

def of {α : Type} (reply : α → Reply) (result : Except MediaError α) : Answer :=
  ⟨result.map reply, []⟩

def ok (reply : Reply) : Answer := ⟨.ok reply, []⟩

end Answer

namespace Pipeline

variable {σ : Type} [Engine σ]

/-- The answer of a call that may replace the pipeline, and the pipeline after it. -/
def replaceBy (pipeline : Pipeline σ) : Except MediaError (Pipeline σ) → Answer × Pipeline σ
  | .ok next => (.ok .done, next)
  | .error error => (⟨.error error, []⟩, pipeline)

def step (pipeline : Pipeline σ) : Call → Answer × Pipeline σ
  | .setInputType stream type testOnly =>
    pipeline.replaceBy (pipeline.setInputType stream type testOnly)
  | .setOutputType stream type testOnly =>
    pipeline.replaceBy (pipeline.setOutputType stream type testOnly)
  | .inputCandidate stream index =>
    (.of .mediaType (pipeline.inputCandidate stream index), pipeline)
  | .outputCandidate stream index =>
    (.of .mediaType (pipeline.outputCandidate stream index), pipeline)
  | .inputType stream => (.of .mediaType (pipeline.inputType stream), pipeline)
  | .outputType stream => (.of .mediaType (pipeline.outputType stream), pipeline)
  | .inputStreamInfo stream => (.of .inputInfo (pipeline.inputStreamInfo stream), pipeline)
  | .outputStreamInfo stream => (.of .outputInfo (pipeline.outputStreamInfo stream), pipeline)
  | .streamLimits => (.of .limits pipeline.streamLimits, pipeline)
  | .streamCount => (.of .count pipeline.streamCount, pipeline)
  | .streamNumbers => (.of (fun ids => .numbers ids.1 ids.2) pipeline.streamNumbers, pipeline)
  | .inputStatus stream => (.of .status (pipeline.inputStatus stream), pipeline)
  | .outputStatus => (.of .status pipeline.outputStatus, pipeline)
  | .state => (.ok (.state pipeline.state), pipeline)
  | .config => (.ok (.config pipeline.config), pipeline)
  | .send message => (pipeline.send message).map (.of fun _ => .done) id
  | .push stream sample flags => (pipeline.push stream sample flags).map (.of .pushed) id
  | .pull slots =>
    match pipeline.pull slots with
    | (result, slots, next) => (⟨result.map .pulled, slots⟩, next)
  | .shutdown => (.ok .done, pipeline.shutdown)
  | .requireShutDown => (.of (fun _ => .done) pipeline.requireShutDown, pipeline)

def run (pipeline : Pipeline σ) : List Call → List Answer × Pipeline σ
  | [] => ([], pipeline)
  | call :: calls =>
    let (answer, next) := pipeline.step call
    let (answers, last) := next.run calls
    (answer :: answers, last)

end Pipeline

end StreamDecode
