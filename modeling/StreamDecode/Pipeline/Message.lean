import StreamDecode.Pipeline.Basic

/-!
# Messages to a pipeline

By messages the host starts and ends a stream, drains the queue or throws it away. A message that
has to replace the engine fails if there is no new one, and then does nothing else.
-/

namespace StreamDecode

/-- A message of the host. -/
inductive Message where
  | startOfStream
  | endOfStream (stream : UInt32)
  | drain
  | flush
  | beginStreaming
  | endStreaming
  | marker (value : UInt64)
deriving DecidableEq, Repr

namespace Pipeline

variable {σ : Type} [Engine σ]

/-- Lets the session act, if there is one. -/
def onSession (pipeline : Pipeline σ)
    (act : Session σ → Except MediaError Unit × Session σ) : Except MediaError Unit × Pipeline σ :=
  match pipeline.session with
  | none => (.ok (), pipeline)
  | some session => (act session).map id fun session => { pipeline with session := some session }

/-- Throws the queue away, which also ends draining and a format change. -/
def flushQueue (pipeline : Pipeline σ) : Except MediaError Unit × Pipeline σ :=
  match pipeline.onSession Session.flush with
  | (.ok (), pipeline) => (.ok (), pipeline.settle)
  | failure => failure

/-- Starts a stream. -/
def startStream (pipeline : Pipeline σ) : Except MediaError Unit × Pipeline σ :=
  match pipeline.flushQueue with
  | (.ok (), pipeline) => (.ok (), { pipeline with mode := .streaming })
  | failure => failure

/-- Ends a stream that was started. -/
def endStream (pipeline : Pipeline σ) (stream : UInt32) : Except MediaError (Pipeline σ) := do
  requireStream stream
  .ok (if pipeline.mode = .streaming then refreshMode { pipeline with mode := .idle } else pipeline)

/-- Takes no input until the queue is empty; without a session there is nothing to wait for. -/
def drain (pipeline : Pipeline σ) : Except MediaError Unit × Pipeline σ :=
  match pipeline.onSession Session.flushInput with
  | (.ok (), after) =>
    (.ok (), { after with draining := after.draining || after.session.isSome })
  | failure => failure

/-- Handles a message; those that only announce something change nothing. -/
def send (pipeline : Pipeline σ) (message : Message) : Except MediaError Unit × Pipeline σ :=
  match pipeline.requireRunning with
  | .error error => (.error error, pipeline)
  | .ok () =>
    match message with
    | .startOfStream => pipeline.startStream
    | .endOfStream stream =>
      match pipeline.endStream stream with
      | .ok pipeline => (.ok (), pipeline)
      | .error error => (.error error, pipeline)
    | .drain => pipeline.drain
    | .flush => pipeline.flushQueue
    | .beginStreaming | .endStreaming | .marker _ => (.ok (), pipeline)

end Pipeline

end StreamDecode
