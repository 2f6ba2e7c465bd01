import StreamDecode.Proofs.Session.Run
import StreamDecode.Proofs.Video.Length

/-!
# Stable streams

The stream of an input type is stable if every engine that is opened for it reports the frame size of
the input type at first and one and the same actual size with every frame
(`EngineRegistry.Settles`). The engine of a session may be replaced at any time, and then it reports
the size of the input type again.

`Steady` is what a session keeps all the same. Its observed size is that of the input type, which
passes unnoticed, or else the actual one, and then the output type has the actual size as well. So
the output type changes at most once, and never after the host has heard of the change.
-/

namespace StreamDecode

/-! ## Engines -/

namespace EngineRegistry

variable {σ : Type} [Engine σ] {registry : EngineRegistry σ} {input : MediaType}
  {actual : FrameSize}

/-- The engines that can come about when they are opened for an input type, take packets, hand out
frames and are flushed. -/
inductive InUse (registry : EngineRegistry σ) (input : MediaType) : σ → Prop
  | opened {output : MediaType} {settings : CodecSettings} {engine : σ}
      (hs : registry.settingsFor input output = .ok settings)
      (h : registry.openEngine settings = .ok engine) : InUse registry input engine
  | sent {engine next : σ} {packet : Packet} {result : Except MediaError Unit}
      (h : InUse registry input engine)
      (hs : Engine.sendPacket engine packet = (result, next)) : InUse registry input next
  | received {engine next : σ} {result : Except MediaError Frame}
      (h : InUse registry input engine)
      (hr : Engine.receiveFrame engine = (result, next)) : InUse registry input next
  | flushed {engine : σ} (h : InUse registry input engine) :
      InUse registry input (Engine.flush engine)

/-- An engine that is opened for the input type reports the frame size of this type, or none, and it
reports the actual size, or none, whenever it has handed out a frame. -/
structure Settles (registry : EngineRegistry σ) (input : MediaType) (actual : FrameSize) :
    Prop where
  opened : ∀ output settings engine, registry.settingsFor input output = .ok settings →
    registry.openEngine settings = .ok engine →
      ∀ size, (Engine.params engine).frameSize? = some size → input.frameSize? = some size
  received : ∀ engine next frame, registry.InUse input engine →
    Engine.receiveFrame engine = (.ok frame, next) →
      ∀ size, (Engine.params next).frameSize? = some size → size = actual

theorem InUse.discardFrames {engine : σ} (h : registry.InUse input engine) :
    registry.InUse input (Engine.discardFrames engine) := by
  fun_induction Engine.discardFrames engine with
  | case1 engine frame next hf ih => exact ih (h.received hf)
  | case2 engine error next hf => exact h.received hf

end EngineRegistry

namespace Session

variable {σ : Type} [Engine σ] {registry : EngineRegistry σ} {input : MediaType} {actual : FrameSize}
  {heard : Prop} {session : Session σ}

/-! ## Sessions -/

/-- What a session keeps of a stable stream. If the host has heard of the actual size, then the
output type has it and there is no change. -/
structure Steady (registry : EngineRegistry σ) (input : MediaType) (actual : FrameSize)
    (heard : Prop) (session : Session σ) : Prop where
  registry_eq : session.registry = registry
  settings : ∃ output, registry.settingsFor input output = .ok session.settings
  input_eq : session.input = input
  engine : registry.InUse input session.engine
  observed : session.observedSize = input.frameSize? ∨
    session.observedSize = some actual ∧ session.output.frameSize? = some actual
  changed : session.sizeChanged = true → session.output.frameSize? = some actual
  heard : heard → session.sizeChanged = false ∧ session.output.frameSize? = some actual

theorem Steady.imp {before after : Prop} (h : session.Steady registry input actual before)
    (hi : after → before) : session.Steady registry input actual after :=
  { h with heard := fun ha => h.heard (hi ha) }

theorem frameSize?_of_reportedSize? {size : FrameSize}
    (h : session.reportedSize? = some size) :
    (Engine.params session.engine).frameSize? = some size := by
  unfold reportedSize? at h
  split at h
  · exact h
  · cases h

/-- A comparison with the size that was observed last or with the actual one. -/
theorem steady_noteFrameSize (h : session.Steady registry input actual heard)
    (hr : ∀ size, (Engine.params session.engine).frameSize? = some size →
      session.observedSize = some size ∨ size = actual) :
    session.noteFrameSize.Steady registry input actual heard := by
  unfold noteFrameSize
  split
  · exact h
  · next size hs =>
    split
    · exact h
    · next hne =>
      obtain rfl := (hr size (frameSize?_of_reportedSize? hs)).resolve_left hne
      unfold observe
      split
      · next ho =>
        exact ⟨h.registry_eq, h.settings, h.input_eq, h.engine, Or.inr ⟨rfl, ho⟩, h.changed, h.heard⟩
      · next ho =>
        -- the host has not heard of this size
        refine ⟨h.registry_eq, h.settings, h.input_eq, h.engine, ?_, ?_, ?_⟩
        · exact Or.inr ⟨rfl, MediaType.frameSize?_withFrameSize _ _⟩
        · exact fun _ => MediaType.frameSize?_withFrameSize _ _
        · exact fun hheard => absurd (h.heard hheard).2 ho

theorem Steady.update (h : session.Steady registry input actual heard) {engine : σ}
    (he : registry.InUse input engine) (renderer : Renderer) (queue : List Sample) :
    Steady registry input actual heard
      { session with engine := engine, renderer := renderer, queue := queue } :=
  ⟨h.registry_eq, h.settings, h.input_eq, he, h.observed, h.changed, h.heard⟩

theorem steady_receiveFrames (hsettles : registry.Settles input actual) (packet : Packet)
    (h : session.Steady registry input actual heard) :
    (session.receiveFrames packet).2.Steady registry input actual heard := by
  fun_induction receiveFrames session packet with
  | case1 session error engine hf =>
    exact h.update (h.engine.received hf) session.renderer session.queue
  | case2 session frame engine hf error renderer hr =>
    exact h.update (h.engine.received hf).discardFrames renderer session.queue
  | case3 session frame engine hf data renderer hr ih =>
    refine ih (steady_noteFrameSize (h.update (h.engine.received hf) renderer _) ?_)
    intro size hs
    exact Or.inr (hsettles.received _ _ _ h.engine hf size hs)

theorem steady_decode (hsettles : registry.Settles input actual) (packet : Packet)
    (h : session.Steady registry input actual heard) :
    (session.decode packet).2.Steady registry input actual heard := by
  unfold decode
  split
  · exact h
  · split
    · next hs => exact h.update (h.engine.sent hs) session.renderer session.queue
    · next hs => exact h.update (h.engine.sent hs) session.renderer session.queue
    · next engine hs =>
      have hsent := h.update (h.engine.sent hs) session.renderer session.queue
      have hr := steady_receiveFrames hsettles packet hsent
      split <;> next he => rw [he] at hr; exact hr

/-- A session that goes on from the size of its input type compares it with what a new engine
reports. -/
theorem steady_opened (hsettles : registry.Settles input actual)
    (h : session.Steady registry input actual heard)
    (ho : session.observedSize = input.frameSize?)
    (he : registry.openEngine session.settings = .ok session.engine) :
    session.noteFrameSize.Steady registry input actual heard := by
  obtain ⟨output, hs⟩ := h.settings
  refine steady_noteFrameSize h ?_
  intro size hsize
  rw [ho, hsettles.opened output _ _ hs he size hsize]
  exact Or.inl rfl

theorem steady_flushInput (hsettles : registry.Settles input actual)
    (h : session.Steady registry input actual heard) :
    session.flushInput.2.Steady registry input actual heard := by
  unfold flushInput
  split
  · exact h.update h.engine.flushed session.renderer session.queue
  · next engine he =>
    rw [h.registry_eq] at he
    obtain ⟨output, hs⟩ := h.settings
    have ho : session.input.frameSize? = input.frameSize? := by rw [h.input_eq]
    refine steady_opened hsettles ?_ ho he
    exact ⟨h.registry_eq, h.settings, h.input_eq, .opened hs he, Or.inl ho, h.changed, h.heard⟩

theorem steady_step (hsettles : registry.Settles input actual) {call : SessionCall}
    (hc : call ≠ .takeFormatChange) (h : session.Steady registry input actual heard) :
    (session.step call).2.Steady registry input actual heard := by
  cases call with
  | decode packet => exact steady_decode hsettles packet h
  | popSample =>
    show session.popSample.2.Steady registry input actual heard
    unfold popSample
    split
    · exact h
    · next rest _ => exact h.update h.engine session.renderer rest
  | takeFormatChange => exact absurd rfl hc
  | flushInput => exact steady_flushInput hsettles h
  | flush => exact steady_flushInput hsettles (h.update h.engine session.renderer [])

theorem steady_run (hsettles : registry.Settles input actual) {calls : List SessionCall}
    (hc : .takeFormatChange ∉ calls) (h : session.Steady registry input actual heard) :
    (session.run calls).2.Steady registry input actual heard := by
  induction calls generalizing session with
  | nil => exact h
  | cons call calls ih =>
    obtain ⟨hcall, hcalls⟩ := List.ne_and_not_mem_of_not_mem_cons hc
    exact ih hcalls (steady_step hsettles hcall.symm h)

theorem steady_takeFormatChange (h : session.Steady registry input actual heard)
    (hc : session.sizeChanged = true) :
    session.takeFormatChange.2.Steady registry input actual True := by
  unfold takeFormatChange
  rw [if_pos hc]
  exact ⟨h.registry_eq, h.settings, h.input_eq, h.engine, h.observed, nofun,
    fun _ => ⟨rfl, h.changed hc⟩⟩

/-- A new session is steady; if the host has heard of the actual size, it asks for it. -/
theorem steady_create (hsettles : registry.Settles input actual) {output : MediaType}
    (h : create registry input output = .ok session)
    (ho : heard → output.frameSize? = some actual) :
    session.Steady registry input actual heard := by
  obtain ⟨settings, engine, renderer, hs, he, rfl⟩ := eq_of_create h
  refine steady_opened hsettles ?_ rfl he
  exact ⟨rfl, ⟨output, hs⟩, rfl, .opened hs he, Or.inl rfl, nofun, fun hheard => ⟨rfl, ho hheard⟩⟩

end Session

end StreamDecode
