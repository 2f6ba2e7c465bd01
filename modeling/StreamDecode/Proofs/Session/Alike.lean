import StreamDecode.Proofs.Renderer.Rendering
import StreamDecode.Proofs.Session.Receive
import StreamDecode.Proofs.Session.Run

/-!
# Sessions that no operation tells apart

What a session does depends on its renderer, and a renderer keeps things from the frames that it has
rendered. Sessions are `Alike` if they differ at most in what their renderers keep. An operation
answers the same in both and leaves sessions that are alike again (`Alike.step`): a renderer that
serves the kind of the stream renders every frame as a new one would. So no sequence of operations
tells such sessions apart (`Alike.indistinguishable`).
-/

namespace StreamDecode

namespace Session

variable {σ : Type} [Engine σ]

/-- Two sessions that no operation tells apart: whatever is asked of both, they give the same
answers, and then they have the same output type and the same samples. -/
def Indistinguishable (a b : Session σ) : Prop :=
  ∀ calls, (a.run calls).1 = (b.run calls).1 ∧
    (a.run calls).2.output = (b.run calls).2.output ∧
    (a.run calls).2.queue = (b.run calls).2.queue

/-- Two sessions that differ at most in what their renderers keep, both of which serve streams of a
kind. -/
structure Alike (kind : StreamKind) (a b : Session σ) : Prop where
  serves : a.renderer.Serves kind
  eq : ∃ kept : Renderer, kept.Serves kind ∧ b = { a with renderer := kept }

/-- Renderer, queue and the mark of an unread change play no part in the comparison of sizes. -/
theorem noteFrameSize_update (session : Session σ) (renderer : Renderer) (queue : List Sample)
    (unread : Bool) :
    noteFrameSize
        { session with
          renderer := renderer, queue := queue, sizeChanged := unread || session.sizeChanged } =
      { session.noteFrameSize with
        renderer := renderer
        queue := queue
        sizeChanged := unread || session.noteFrameSize.sizeChanged } := by
  have h := session.noteSize_update session.reportedSize? session.engine renderer queue unread
  rw [← noteFrameSize_eq] at h
  rw [noteFrameSize_eq]
  refine h.trans ?_
  rw [← engine_noteFrameSize session]

theorem noteFrameSize_withRenderer (session : Session σ) (renderer : Renderer) :
    noteFrameSize { session with renderer := renderer } =
      { session.noteFrameSize with renderer := renderer } := by
  have h := noteFrameSize_update session renderer session.queue false
  simp only [Bool.false_or] at h
  rw [h, ← queue_noteFrameSize session]

/-! ## Receiving frames -/

section Receive

variable {session : Session σ} {packet : Packet} {next : σ} {frame : Frame} {error : MediaError}

theorem receiveFrames_of_failure (h : Engine.receiveFrame session.engine = (.error error, next)) :
    session.receiveFrames packet =
      (if error.isDrained then .ok () else .error error, { session with engine := next }) := by
  rw [receiveFrames]
  split
  · next h' =>
    rw [h] at h'
    obtain ⟨⟨⟩, ⟨⟩⟩ := h'
    rfl
  · next h' =>
    rw [h] at h'
    cases h'

theorem receiveFrames_of_rejected {after : Renderer}
    (h : Engine.receiveFrame session.engine = (.ok frame, next))
    (hr : session.renderer.render (Engine.params next) frame = (.error error, after)) :
    session.receiveFrames packet =
      (.error error,
        { session with engine := Engine.discardFrames next, renderer := after }) := by
  rw [receiveFrames]
  split
  · next h' =>
    rw [h] at h'
    cases h'
  · next h' =>
    rw [h] at h'
    obtain ⟨⟨⟩, ⟨⟩⟩ := h'
    rw [hr]

theorem receiveFrames_of_rendered {after : Renderer} {data : Bytes}
    (h : Engine.receiveFrame session.engine = (.ok frame, next))
    (hr : session.renderer.render (Engine.params next) frame = (.ok data, after)) :
    session.receiveFrames packet =
      ({ session with engine := next }.enqueue packet frame data after).receiveFrames packet := by
  rw [receiveFrames]
  split
  · next h' =>
    rw [h] at h'
    cases h'
  · next h' =>
    rw [h] at h'
    obtain ⟨⟨⟩, ⟨⟩⟩ := h'
    rw [hr]

/-- A frame with no other one behind it is rendered to one sample, or dropped with an error. -/
theorem receiveFrames_of_single {loaded : σ}
    (hloaded : Engine.receiveFrame loaded = (.ok frame, session.engine))
    (hidle : Engine.receiveFrame session.engine = (.error error, session.engine))
    (hdrained : error.isDrained = true)
    (hnote : ∀ (renderer : Renderer) (queue : List Sample),
      noteFrameSize { session with renderer := renderer, queue := queue } =
        { session with renderer := renderer, queue := queue }) (packet : Packet) :
    receiveFrames { session with engine := loaded } packet =
      match session.renderer.render (Engine.params session.engine) frame with
      | (.error error, renderer) => (.error error, { session with renderer := renderer })
      | (.ok data, renderer) =>
        (.ok (),
          { session with
            renderer := renderer
            queue := session.queue ++
              [⟨data, frame.sampleTime packet,
                frame.sampleDuration packet (Engine.timeBase session.engine)⟩] }) := by
  have hfirst : Engine.receiveFrame ({ session with engine := loaded } : Session σ).engine =
      (.ok frame, session.engine) := hloaded
  cases hr : session.renderer.render (Engine.params session.engine) frame with
  | mk result after =>
    cases result with
    | error error => rw [receiveFrames_of_rejected hfirst hr, Engine.discardFrames_of_error hidle]
    | ok data =>
      rw [receiveFrames_of_rendered hfirst hr]
      unfold enqueue
      dsimp only
      rw [hnote]
      refine (receiveFrames_of_failure ?_).trans (congrArg (·, _) (if_pos hdrained))
      exact hidle

end Receive

/-! ## One operation -/

namespace Alike

variable {kind : StreamKind} {a b : Session σ}

section Exchange

omit [Engine σ]

theorem refl (h : a.renderer.Serves kind) : Alike kind a a := ⟨h, a.renderer, h, rfl⟩

theorem symm (h : Alike kind a b) : Alike kind b a := by
  obtain ⟨ha, kept, hkept, rfl⟩ := h
  exact ⟨hkept, a.renderer, ha, rfl⟩

theorem engine (h : Alike kind a b) : b.engine = a.engine := by
  obtain ⟨-, kept, -, rfl⟩ := h
  rfl

theorem queue (h : Alike kind a b) : b.queue = a.queue := by
  obtain ⟨-, kept, -, rfl⟩ := h
  rfl

theorem output (h : Alike kind a b) : b.output = a.output := by
  obtain ⟨-, kept, -, rfl⟩ := h
  rfl

theorem sizeChanged (h : Alike kind a b) : b.sizeChanged = a.sizeChanged := by
  obtain ⟨-, kept, -, rfl⟩ := h
  rfl

theorem withEngine (h : Alike kind a b) (engine : σ) :
    Alike kind { a with engine := engine } { b with engine := engine } := by
  obtain ⟨ha, kept, hkept, rfl⟩ := h
  exact ⟨ha, kept, hkept, rfl⟩

theorem withQueue (h : Alike kind a b) (queue : List Sample) :
    Alike kind { a with queue := queue } { b with queue := queue } := by
  obtain ⟨ha, kept, hkept, rfl⟩ := h
  exact ⟨ha, kept, hkept, rfl⟩

theorem popSample (h : Alike kind a b) :
    a.popSample.1 = b.popSample.1 ∧ Alike kind a.popSample.2 b.popSample.2 := by
  unfold Session.popSample
  rw [h.queue]
  cases a.queue with
  | nil => exact ⟨rfl, h⟩
  | cons sample rest => exact ⟨rfl, h.withQueue rest⟩

theorem takeFormatChange (h : Alike kind a b) :
    a.takeFormatChange.1 = b.takeFormatChange.1 ∧
      Alike kind a.takeFormatChange.2 b.takeFormatChange.2 := by
  unfold Session.takeFormatChange
  by_cases hc : a.sizeChanged = true
  · rw [if_pos hc, if_pos (h.sizeChanged.trans hc)]
    refine ⟨congrArg some h.output.symm, ?_⟩
    obtain ⟨ha, kept, hkept, rfl⟩ := h
    exact ⟨ha, kept, hkept, rfl⟩
  · rw [if_neg hc, if_neg (h.sizeChanged ▸ hc)]
    exact ⟨rfl, h⟩

end Exchange

theorem noteFrameSize (h : Alike kind a b) :
    Alike kind a.noteFrameSize b.noteFrameSize := by
  obtain ⟨ha, kept, hkept, rfl⟩ := h
  refine ⟨?_, kept, hkept, noteFrameSize_withRenderer a kept⟩
  rw [renderer_noteFrameSize]
  exact ha

theorem receiveFrames (h : Alike kind a b) (packet : Packet) :
    (a.receiveFrames packet).1 = (b.receiveFrames packet).1 ∧
      Alike kind (a.receiveFrames packet).2 (b.receiveFrames packet).2 := by
  -- on the frames of the first session; the second one has the same engine
  fun_induction Session.receiveFrames a packet generalizing b with
  | case1 a error engine hf =>
    obtain ⟨ha, kept, hkept, rfl⟩ := h
    have hother : Engine.receiveFrame ({ a with renderer := kept } : Session σ).engine =
        (.error error, engine) := hf
    rw [receiveFrames_of_failure hother]
    exact ⟨rfl, ha, kept, hkept, rfl⟩
  | case2 a frame engine hf error renderer hr =>
    obtain ⟨ha, kept, hkept, rfl⟩ := h
    obtain ⟨hafter, next, hnext, hserves⟩ := ha.render_eq hkept hr
    have hother : Engine.receiveFrame ({ a with renderer := kept } : Session σ).engine =
        (.ok frame, engine) := hf
    rw [receiveFrames_of_rejected hother hnext]
    exact ⟨rfl, hafter, next, hserves, rfl⟩
  | case3 a frame engine hf data renderer hr ih =>
    obtain ⟨ha, kept, hkept, rfl⟩ := h
    obtain ⟨hafter, next, hnext, hserves⟩ := ha.render_eq hkept hr
    have hother : Engine.receiveFrame ({ a with renderer := kept } : Session σ).engine =
        (.ok frame, engine) := hf
    rw [receiveFrames_of_rendered hother hnext]
    exact ih (noteFrameSize ⟨hafter, next, hserves, rfl⟩)

theorem decode (h : Alike kind a b) (packet : Packet) :
    (a.decode packet).1 = (b.decode packet).1 ∧
      Alike kind (a.decode packet).2 (b.decode packet).2 := by
  unfold Session.decode
  by_cases hc : a.sizeChanged = true
  · rw [if_pos hc, if_pos (h.sizeChanged.trans hc)]
    exact ⟨rfl, h⟩
  · rw [if_neg hc, if_neg (h.sizeChanged ▸ hc)]
    cases hs : Engine.sendPacket a.engine packet with
    | mk result engine =>
      have hsent := h.withEngine engine
      have hsb : Engine.sendPacket b.engine packet = (result, engine) := by rw [h.engine, hs]
      rw [hsb]
      cases result with
      | error error => cases error <;> exact ⟨rfl, hsent⟩
      | ok =>
        obtain ⟨hresult, hafter⟩ := hsent.receiveFrames packet
        dsimp only
        cases ha : Session.receiveFrames { a with engine := engine } packet with
        | mk result after =>
          cases hb : Session.receiveFrames { b with engine := engine } packet with
          | mk other last =>
            rw [ha, hb] at hresult hafter
            dsimp only at hresult hafter
            subst hresult
            cases result with
            | error error => exact ⟨rfl, hafter⟩
            | ok =>
              refine ⟨?_, hafter⟩
              dsimp only
              rw [hafter.queue, h.queue]

theorem flushInput (h : Alike kind a b) :
    a.flushInput.1 = b.flushInput.1 ∧ Alike kind a.flushInput.2 b.flushInput.2 := by
  obtain ⟨ha, kept, hkept, rfl⟩ := h
  unfold Session.flushInput
  dsimp only
  cases a.registry.openEngine a.settings with
  | error error => exact ⟨rfl, ha, kept, hkept, rfl⟩
  | ok engine => exact ⟨rfl, noteFrameSize ⟨ha, kept, hkept, rfl⟩⟩

/-- An operation answers the same in both sessions, and they are alike afterwards. -/
theorem step (h : Alike kind a b) (call : SessionCall) :
    (a.step call).1 = (b.step call).1 ∧ Alike kind (a.step call).2 (b.step call).2 := by
  cases call with
  | decode packet =>
    obtain ⟨hresult, hafter⟩ := h.decode packet
    exact ⟨congrArg SessionAnswer.decoded hresult, hafter⟩
  | popSample =>
    obtain ⟨hsample, hafter⟩ := h.popSample
    exact ⟨congrArg SessionAnswer.sample hsample, hafter⟩
  | takeFormatChange =>
    obtain ⟨htype, hafter⟩ := h.takeFormatChange
    exact ⟨congrArg SessionAnswer.formatChange htype, hafter⟩
  | flushInput =>
    obtain ⟨hresult, hafter⟩ := h.flushInput
    exact ⟨congrArg SessionAnswer.flushed hresult, hafter⟩
  | flush =>
    obtain ⟨hresult, hafter⟩ := (h.withQueue []).flushInput
    exact ⟨congrArg SessionAnswer.flushed hresult, hafter⟩

theorem run (h : Alike kind a b) (calls : List SessionCall) :
    (a.run calls).1 = (b.run calls).1 ∧ Alike kind (a.run calls).2 (b.run calls).2 := by
  induction calls generalizing a b with
  | nil => exact ⟨rfl, h⟩
  | cons call calls ih =>
    obtain ⟨hanswer, hnext⟩ := h.step call
    obtain ⟨hanswers, hlast⟩ := ih hnext
    refine ⟨?_, hlast⟩
    rw [run_cons, run_cons, hanswer, hanswers]

theorem indistinguishable (h : Alike kind a b) : a.Indistinguishable b := by
  intro calls
  obtain ⟨hanswers, hlast⟩ := h.run calls
  exact ⟨hanswers, hlast.output.symm, hlast.queue.symm⟩

end Alike

/-! ## Renderers of sessions -/

theorem serves_create {registry : EngineRegistry σ} {input output : MediaType}
    {session : Session σ} (h : create registry input output = .ok session) :
    session.renderer.Serves output.kind := by
  obtain ⟨-, settings, engine, renderer, -, -, hr, rfl⟩ := create_eq_ok_iff.mp h
  have hprepared := (Renderer.serves_forOutput output).prepare (Engine.params engine) output
  rw [hr] at hprepared
  rw [renderer_noteFrameSize]
  exact hprepared

theorem serves_run {kind : StreamKind} {session : Session σ} (h : session.renderer.Serves kind)
    (calls : List SessionCall) : (session.run calls).2.renderer.Serves kind :=
  ((Alike.refl h).run calls).2.serves

end Session

end StreamDecode
