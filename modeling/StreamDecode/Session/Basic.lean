import StreamDecode.Engine.Registry
import StreamDecode.Renderer.Basic
import StreamDecode.Sample

/-!
# Decoding sessions

A session owns an engine and a renderer for one pair of media types, and the queue of samples that
have not been pulled yet.

An engine may learn the true frame size only from the data. When the size that it reports differs
from the one observed last and from the output type, the session corrects its output type and marks
the change (`Session.noteFrameSize`); it takes no packets until the change has been taken.
-/

namespace StreamDecode

/-- The state of a session. -/
structure Session (σ : Type) where
  registry : EngineRegistry σ
  input : MediaType
  output : MediaType
  settings : CodecSettings
  engine : σ
  renderer : Renderer
  queue : List Sample
  observedSize : Option FrameSize
  sizeChanged : Bool

namespace Session

variable {σ : Type} [Engine σ]

/-- The frame size that the engine reports for a video output, if it knows one. -/
def reportedSize? (session : Session σ) : Option FrameSize :=
  if session.output.kind = .video then
    ((Engine.params session.engine).video?.map VideoParams.size).filter (!·.isEmpty)
  else none

/-- Observes a frame size; the output type follows it, which is a change if it differed. -/
def observe (session : Session σ) (size : FrameSize) : Session σ :=
  if session.output.frameSize? = some size then { session with observedSize := some size }
  else
    { session with
      observedSize := some size
      output := session.output.withFrameSize size
      sizeChanged := true }

/-- Compares the frame size that the engine reports with the one observed last. -/
def noteFrameSize (session : Session σ) : Session σ :=
  match session.reportedSize? with
  | none => session
  | some size => if session.observedSize = some size then session else session.observe size

@[simp] theorem engine_noteFrameSize (session : Session σ) :
    session.noteFrameSize.engine = session.engine := by
  unfold noteFrameSize
  split
  · rfl
  split
  · rfl
  unfold observe
  split <;> rfl

@[simp] theorem queue_noteFrameSize (session : Session σ) :
    session.noteFrameSize.queue = session.queue := by
  unfold noteFrameSize
  split
  · rfl
  split
  · rfl
  unfold observe
  split <;> rfl

/-- A session for decoding `input` to `output`. -/
def create (registry : EngineRegistry σ) (input output : MediaType) :
    Except MediaError (Session σ) :=
  if input.kind ≠ output.kind then
    .error (.invalidMediaType (.sessionKinds input.kind output.kind))
  else do
    let settings ← registry.settingsFor input output
    let engine ← registry.openEngine settings
    match (Renderer.forOutput output).prepare (Engine.params engine) output with
    | (.error error, _) => .error error
    | (.ok (), renderer) =>
      .ok <| noteFrameSize
        { registry := registry
          input := input
          output := output
          settings := settings
          engine := engine
          renderer := renderer
          queue := []
          observedSize := input.frameSize?
          sizeChanged := false }

def hasSamples (session : Session σ) : Bool := !session.queue.isEmpty

def popSample (session : Session σ) : Option Sample × Session σ :=
  match session.queue with
  | [] => (none, session)
  | sample :: rest => (some sample, { session with queue := rest })

/-- Takes the corrected output type, if the frame size has changed. -/
def takeFormatChange (session : Session σ) : Option MediaType × Session σ :=
  if session.sizeChanged then (some session.output, { session with sizeChanged := false })
  else (none, session)

/-- Replaces the engine by a new one; the queue stays. If that fails, the old engine stays without
its data. -/
def flushInput (session : Session σ) : Except MediaError Unit × Session σ :=
  match session.registry.openEngine session.settings with
  | .error error => (.error error, { session with engine := Engine.flush session.engine })
  | .ok engine =>
    (.ok (),
      noteFrameSize { session with engine := engine, observedSize := session.input.frameSize? })

/-- Forgets all samples and replaces the engine. -/
def flush (session : Session σ) : Except MediaError Unit × Session σ :=
  flushInput { session with queue := [] }

end Session

end StreamDecode
