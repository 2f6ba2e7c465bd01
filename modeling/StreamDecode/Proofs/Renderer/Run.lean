import StreamDecode.Proofs.Renderer.Rendering

/-!
# Runs of a renderer

`RendererCall` has one constructor for each operation on a renderer, with what the engine reports at
that moment. Operations may come in any order, for any engines and frames, and they may fail half
way: after the conversion was exchanged and before the buffer was, or after both. Each of them
leaves a renderer that serves the kind of stream it was made for (`Serves.step`), so that nothing of
a run shows in what the next frame becomes (`render_after_run`).
-/

namespace StreamDecode

/-- An operation on a renderer, for an engine that reports the given parameters. -/
inductive RendererCall where
  | prepare (params : StreamParams) (output : MediaType)
  | render (params : StreamParams) (frame : Frame)

namespace Renderer

/-- The renderer after an operation, whatever its result. -/
def step (renderer : Renderer) : RendererCall → Renderer
  | .prepare params output => (renderer.prepare params output).2
  | .render params frame => (renderer.render params frame).2

/-- The renderer after operations one after the other. -/
def run (renderer : Renderer) (calls : List RendererCall) : Renderer := calls.foldl step renderer

variable {kind : StreamKind} {renderer : Renderer}

theorem Serves.step (h : renderer.Serves kind) (call : RendererCall) :
    (renderer.step call).Serves kind := by
  cases call with
  | prepare params output => exact h.prepare params output
  | render params frame => exact (h.render params frame).2

theorem Serves.run (h : renderer.Serves kind) (calls : List RendererCall) :
    (renderer.run calls).Serves kind := by
  induction calls generalizing renderer with
  | nil => exact h
  | cons call calls ih => exact ih (h.step call)

/-- **A renderer has no memory.** Whatever it was prepared for and has rendered before, the next frame
becomes the bytes, or fails with the error, that a new renderer has for it. -/
theorem render_after_run (output : MediaType) (calls : List RendererCall) (params : StreamParams)
    (frame : Frame) :
    (((forOutput output).run calls).render params frame).1 =
      ((forOutput output).render params frame).1 := by
  have hnew := serves_forOutput output
  calc (((forOutput output).run calls).render params frame).1
      = rendering output.kind params frame := ((hnew.run calls).render params frame).1
    _ = ((forOutput output).render params frame).1 := ((hnew.render params frame).1).symm

end Renderer

end StreamDecode
