import StreamDecode.Session.Decode

/-!
# The types of a session

A session decodes for the two media types that it was made for. No operation exchanges them: only
the frame size of the output type follows what the engine reports, and then the session has a
change that the host has not seen. `Session.Continues` says so for one operation; it is reflexive
and transitive, so that it holds from the beginning of a session to each later state.
-/

namespace StreamDecode

namespace MediaType

/-- Two media types that are the same but for the frame size. -/
structure SameButFrameSize (a b : MediaType) : Prop where
  kind : a.kind = b.kind
  coding : a.coding = b.coding
  get? : ∀ key, key ≠ .frameSize → a.get? key = b.get? key

namespace SameButFrameSize

theorem refl (type : MediaType) : type.SameButFrameSize type := ⟨rfl, rfl, fun _ _ => rfl⟩

theorem symm {a b : MediaType} (h : a.SameButFrameSize b) : b.SameButFrameSize a :=
  ⟨h.kind.symm, h.coding.symm, fun key hk => (h.get? key hk).symm⟩

theorem trans {a b c : MediaType} (hab : a.SameButFrameSize b) (hbc : b.SameButFrameSize c) :
    a.SameButFrameSize c :=
  ⟨hab.kind.trans hbc.kind, hab.coding.trans hbc.coding,
    fun key hk => (hab.get? key hk).trans (hbc.get? key hk)⟩

theorem withFrameSize (type : MediaType) (size : FrameSize) :
    (type.withFrameSize size).SameButFrameSize type := by
  refine ⟨rfl, rfl, ?_⟩
  intro key hk
  show (type.set .frameSize (.size size)).get? key = _
  rw [get?_set, if_neg hk]

end SameButFrameSize

end MediaType

namespace Session

variable {σ : Type}

/-- What one state of a session has in common with a later one. The output type is the same as long
as there is no change that the host has not seen. -/
structure Continues (before after : Session σ) : Prop where
  registry : after.registry = before.registry
  settings : after.settings = before.settings
  input : after.input = before.input
  output : after.output.SameButFrameSize before.output
  output_eq : after.sizeChanged = false → after.output = before.output
  sizeChanged : before.sizeChanged = true → after.sizeChanged = true

namespace Continues

theorem refl (session : Session σ) : session.Continues session :=
  ⟨rfl, rfl, rfl, .refl _, fun _ => rfl, id⟩

theorem sizeChanged_eq_false {a b : Session σ} (h : a.Continues b)
    (hb : b.sizeChanged = false) : a.sizeChanged = false := by
  cases ha : a.sizeChanged with
  | false => rfl
  | true =>
    rw [h.sizeChanged ha] at hb
    cases hb

theorem trans {a b c : Session σ} (hab : a.Continues b) (hbc : b.Continues c) : a.Continues c where
  registry := hbc.registry.trans hab.registry
  settings := hbc.settings.trans hab.settings
  input := hbc.input.trans hab.input
  output := hbc.output.trans hab.output
  output_eq hc := by rw [hbc.output_eq hc, hab.output_eq (hbc.sizeChanged_eq_false hc)]
  sizeChanged ha := hbc.sizeChanged (hab.sizeChanged ha)

end Continues

/-- Engine, renderer, queue and observed size may be exchanged at will. -/
theorem continues_update (session : Session σ) (engine : σ) (renderer : Renderer)
    (queue : List Sample) (observedSize : Option FrameSize) :
    session.Continues
      { session with
        engine := engine, renderer := renderer, queue := queue, observedSize := observedSize } :=
  ⟨rfl, rfl, rfl, .refl _, fun _ => rfl, id⟩

theorem continues_observe (session : Session σ) (size : FrameSize) :
    session.Continues (session.observe size) := by
  unfold observe
  split
  · exact continues_update ..
  · refine ⟨rfl, rfl, rfl, .withFrameSize _ _, ?_, fun _ => rfl⟩
    intro h
    cases h

/-! ## Comparisons of frame sizes -/

/-- Compares a frame size, if one is known, with the one observed last. -/
def noteSize (session : Session σ) : Option FrameSize → Session σ
  | none => session
  | some size => if session.observedSize = some size then session else session.observe size

/-- When there is a change after a comparison: there was one before, or the size is neither the one
observed last nor that of the output type. -/
theorem sizeChanged_noteSize {session : Session σ} {size? : Option FrameSize} :
    (session.noteSize size?).sizeChanged = true ↔
      session.sizeChanged = true ∨ ∃ size, size? = some size ∧
        session.observedSize ≠ some size ∧ session.output.frameSize? ≠ some size := by
  unfold noteSize
  cases size? with
  | none => simp
  | some size =>
    by_cases hobserved : session.observedSize = some size
    · simp [hobserved]
    · by_cases houtput : session.output.frameSize? = some size
      · simp [hobserved, houtput, observe]
      · simp [hobserved, houtput, observe]

theorem noteSize_update (session : Session σ) (size? : Option FrameSize) (engine : σ)
    (renderer : Renderer) (queue : List Sample) (unread : Bool) :
    noteSize
        { session with
          engine := engine, renderer := renderer, queue := queue
          sizeChanged := unread || session.sizeChanged } size? =
      { session.noteSize size? with
        engine := engine
        renderer := renderer
        queue := queue
        sizeChanged := unread || (session.noteSize size?).sizeChanged } := by
  unfold noteSize
  cases size? with
  | none => rfl
  | some size =>
    by_cases hobserved : session.observedSize = some size
    · simp only [hobserved, if_true]
    · simp only [hobserved, if_false]
      unfold observe
      by_cases houtput : session.output.frameSize? = some size
      · simp only [houtput, if_true]
      · simp only [houtput, if_false, Bool.or_true]

/-! ## One operation -/

theorem continues_popSample (session : Session σ) : session.Continues session.popSample.2 := by
  unfold popSample
  split
  · exact .refl _
  · exact continues_update ..

variable [Engine σ]

theorem continues_noteFrameSize (session : Session σ) :
    session.Continues session.noteFrameSize := by
  unfold noteFrameSize
  split
  · exact .refl _
  · split
    · exact .refl _
    · exact continues_observe _ _

theorem reportedSize?_noteFrameSize (session : Session σ) :
    session.noteFrameSize.reportedSize? = session.reportedSize? := by
  unfold reportedSize?
  rw [(continues_noteFrameSize session).output.kind, engine_noteFrameSize]

theorem noteFrameSize_eq (session : Session σ) :
    session.noteFrameSize = session.noteSize session.reportedSize? := rfl

theorem sizeChanged_noteFrameSize {session : Session σ} :
    session.noteFrameSize.sizeChanged = true ↔
      session.sizeChanged = true ∨ ∃ size, session.reportedSize? = some size ∧
        session.observedSize ≠ some size ∧ session.output.frameSize? ≠ some size := by
  rw [noteFrameSize_eq, sizeChanged_noteSize]

theorem continues_enqueue (session : Session σ) (packet : Packet) (frame : Frame) (data : Bytes)
    (renderer : Renderer) : session.Continues (session.enqueue packet frame data renderer) :=
  (continues_update ..).trans (continues_noteFrameSize _)

theorem continues_receiveFrames (session : Session σ) (packet : Packet) :
    session.Continues (session.receiveFrames packet).2 := by
  fun_induction receiveFrames session packet with
  | case1 => exact continues_update ..
  | case2 => exact continues_update ..
  | case3 session frame engine _ data renderer _ ih =>
    have he : session.Continues { session with engine := engine } := continues_update ..
    exact (he.trans (continues_enqueue _ packet frame data renderer)).trans ih

theorem continues_decode (session : Session σ) (packet : Packet) :
    session.Continues (session.decode packet).2 := by
  unfold decode
  split
  · exact .refl _
  · split
    · exact continues_update ..
    · exact continues_update ..
    · next engine _ =>
      have he : session.Continues { session with engine := engine } := continues_update ..
      have h := he.trans (continues_receiveFrames _ packet)
      split <;> next hr => rw [hr] at h; exact h

theorem continues_flushInput (session : Session σ) :
    session.Continues session.flushInput.2 := by
  unfold flushInput
  split
  · exact continues_update ..
  · exact (continues_update ..).trans (continues_noteFrameSize _)

/-- A session whose engine was replaced compares the sizes as if it were new. -/
theorem flushInput_eq_ok {session after : Session σ} (h : session.flushInput = (.ok (), after)) :
    ∃ engine, session.registry.openEngine session.settings = .ok engine ∧
      after = noteFrameSize
        { session with engine := engine, observedSize := session.input.frameSize? } := by
  unfold flushInput at h
  cases he : session.registry.openEngine session.settings with
  | error error =>
    rw [he] at h
    cases h
  | ok engine =>
    rw [he] at h
    cases h
    exact ⟨engine, rfl, rfl⟩

theorem continues_flush (session : Session σ) : session.Continues session.flush.2 := by
  have hq : session.Continues { session with queue := [] } := continues_update ..
  exact hq.trans (continues_flushInput _)

/-! ## The beginning -/

/-- When there is a session for two types, and what it is: both are of one kind, the engine and the
renderer for them can be had, and nothing has been decoded. -/
theorem create_eq_ok_iff {registry : EngineRegistry σ} {input output : MediaType}
    {session : Session σ} :
    create registry input output = .ok session ↔
      input.kind = output.kind ∧ ∃ settings engine renderer,
        registry.settingsFor input output = .ok settings ∧
        registry.openEngine settings = .ok engine ∧
        (Renderer.forOutput output).prepare (Engine.params engine) output = (.ok (), renderer) ∧
        session = noteFrameSize
          { registry := registry
            input := input
            output := output
            settings := settings
            engine := engine
            renderer := renderer
            queue := []
            observedSize := input.frameSize?
            sizeChanged := false } := by
  unfold create
  by_cases hk : input.kind = output.kind
  · rw [if_neg (not_not_intro hk)]
    constructor
    · intro h
      cases hs : registry.settingsFor input output with
      | error error => rw [hs] at h; cases h
      | ok settings =>
        cases he : registry.openEngine settings with
        | error error => simp [hs, he, bind, Except.bind] at h
        | ok engine =>
          simp only [hs, he, bind, Except.bind] at h
          split at h
          · cases h
          · next renderer hr =>
            cases h
            exact ⟨hk, settings, engine, renderer, rfl, he, hr, rfl⟩
    · rintro ⟨-, settings, engine, renderer, hs, he, hr, rfl⟩
      simp only [hs, he, hr, bind, Except.bind]
  · rw [if_pos hk]
    exact ⟨nofun, fun h => absurd h.1 hk⟩

theorem eq_of_create {registry : EngineRegistry σ} {input output : MediaType}
    {session : Session σ} (h : create registry input output = .ok session) :
    ∃ settings engine renderer, registry.settingsFor input output = .ok settings ∧
      registry.openEngine settings = .ok engine ∧
      session = noteFrameSize
        { registry := registry
          input := input
          output := output
          settings := settings
          engine := engine
          renderer := renderer
          queue := []
          observedSize := input.frameSize?
          sizeChanged := false } := by
  obtain ⟨-, settings, engine, renderer, hs, he, -, hsession⟩ := create_eq_ok_iff.mp h
  exact ⟨settings, engine, renderer, hs, he, hsession⟩

/-- A new session has the output type that it was asked for, unless its engine reports another size. -/
theorem output_of_create {registry : EngineRegistry σ} {input output : MediaType}
    {session : Session σ} (h : create registry input output = .ok session)
    (hc : session.sizeChanged = false) : session.output = output := by
  obtain ⟨settings, engine, renderer, -, -, rfl⟩ := eq_of_create h
  exact (continues_noteFrameSize _).output_eq hc

theorem sameButFrameSize_of_create {registry : EngineRegistry σ} {input output : MediaType}
    {session : Session σ} (h : create registry input output = .ok session) :
    session.output.SameButFrameSize output := by
  obtain ⟨settings, engine, renderer, -, -, rfl⟩ := eq_of_create h
  exact (continues_noteFrameSize _).output

theorem queue_of_create {registry : EngineRegistry σ} {input output : MediaType}
    {session : Session σ} (h : create registry input output = .ok session) :
    session.queue = [] := by
  obtain ⟨settings, engine, renderer, -, -, rfl⟩ := eq_of_create h
  exact queue_noteFrameSize _

theorem input_of_create {registry : EngineRegistry σ} {input output : MediaType}
    {session : Session σ} (h : create registry input output = .ok session) :
    session.input = input := by
  obtain ⟨settings, engine, renderer, -, -, rfl⟩ := eq_of_create h
  exact (continues_noteFrameSize _).input

end Session

end StreamDecode
