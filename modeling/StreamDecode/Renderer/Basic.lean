import StreamDecode.Renderer.Audio
import StreamDecode.Renderer.Video

/-!
# Renderers

A renderer turns the frames of an engine into the bytes of the output type: interleaved floats for
audio, NV12 for video. Which one it is follows from the kind of the output type.
-/

namespace StreamDecode

/-- A renderer for one kind of stream. -/
inductive Renderer where
  | audio (renderer : AudioRenderer)
  | video (renderer : VideoRenderer)
deriving DecidableEq

namespace Renderer

/-- A new renderer for an output type. -/
def forOutput (output : MediaType) : Renderer :=
  match output.kind with
  | .audio => .audio .new
  | .video => .video .new

def name : Renderer → String
  | .audio _ => "audio"
  | .video _ => "video"

/-- Prepares for a new stream of an engine that reports the given parameters. -/
def prepare (renderer : Renderer) (params : StreamParams) (output : MediaType) :
    Except MediaError Unit × Renderer :=
  match renderer with
  | .audio renderer => (renderer.prepare params output).map id .audio
  | .video renderer => (renderer.prepare params output).map id .video

def render (renderer : Renderer) (params : StreamParams) (frame : Frame) :
    Except MediaError Bytes × Renderer :=
  match renderer with
  | .audio renderer => (renderer.render frame).map id .audio
  | .video renderer => (renderer.render params frame).map id .video

/-- How often the renderer has set up what it keeps: buffers for audio, conversions for video. -/
def setups : Renderer → Nat
  | .audio renderer => renderer.allocations
  | .video renderer => renderer.rebuilds

end Renderer

end StreamDecode
