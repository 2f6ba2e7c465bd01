import StreamDecode.Proofs.Session.Alike
import StreamDecode.Proofs.Session.Sightings

/-!
# Sessions with a replaced engine

When the engine of a session is replaced, most of the session stays: the settings and the renderer,
the input type and the output type with its corrected frame size, the mark of an unread change, and
without a flush of the queue the samples that wait. `run_after_replacement` says that nothing of
this matters: the session goes on like one that was just opened for the same input type and the
output type of that moment, except that it has the samples that were kept in front and the change
that was not read.

The settings and the prepared renderer depend on the output type only up to its frame size
(`settingsFor_congr`, `prepare_congr`), which is all that can have changed in it. So opening again
gives what the replacement gives, up to what the renderer keeps (`flushInput_of_origin`).
-/

namespace StreamDecode

/-! ## What a frame size does not enter -/

theorem MediaType.SameButFrameSize.u32? {a b : MediaType} (h : a.SameButFrameSize b)
    {key : AttributeKey} (hk : key ≠ .frameSize) : a.u32? key = b.u32? key := by
  unfold MediaType.u32?
  rw [h.get? key hk]

section Congruence

variable {a b : MediaType} (h : a.SameButFrameSize b)

include h

theorem CodecSettings.audioParams_congr (codec : Codec) (input : MediaType) :
    audioParams codec input a = audioParams codec input b := by
  have hlayout (channels : UInt32) : layoutFor channels a = layoutFor channels b := by
    unfold layoutFor
    rw [h.u32? (by decide)]
  unfold audioParams
  simp only [hlayout]

/-- The settings for an output type do not depend on its frame size. -/
theorem EngineRegistry.settingsFor_congr {σ : Type} (registry : EngineRegistry σ)
    (input : MediaType) : registry.settingsFor input a = registry.settingsFor input b := by
  unfold settingsFor CodecSettings.ofTypes
  simp only [CodecSettings.audioParams_congr h]

/-- A new renderer is prepared alike for output types that differ in their frame size. -/
theorem Renderer.prepare_congr (params : StreamParams) :
    (forOutput a).prepare params a = (forOutput b).prepare params b := by
  have hnew : forOutput a = forOutput b := by
    unfold forOutput
    rw [h.kind]
  rw [hnew]
  cases forOutput b with
  | audio renderer =>
    unfold prepare AudioRenderer.prepare
    simp only [h.coding]
  | video renderer =>
    unfold prepare VideoRenderer.prepare
    simp only [h.coding]

end Congruence

namespace Session

variable {σ : Type} [Engine σ] {registry : EngineRegistry σ} {input output : MediaType}
  {start session fresh : Session σ}

/-! ## Opening again -/

omit [Engine σ] in
/-- The session that goes on with samples in front of its own and, if there is one, with a change
that has not been read. -/
def resume (session : Session σ) (samples : List Sample) (unread : Bool) : Session σ :=
  { session with
    queue := samples ++ session.queue, sizeChanged := unread || session.sizeChanged }

omit [Engine σ] in
@[simp] theorem resume_nil (session : Session σ) : session.resume [] false = session := rfl

/-- Compared for the output type that the comparison brings, the sizes bring no change. -/
theorem noteFrameSize_again (session : Session σ) :
    noteFrameSize { session with output := session.noteFrameSize.output } =
      { session.noteFrameSize with sizeChanged := session.sizeChanged } := by
  have hreported : reportedSize? { session with output := session.noteFrameSize.output } =
      session.reportedSize? := by
    unfold reportedSize?
    rw [(continues_noteFrameSize session).output.kind]
  rw [noteFrameSize, hreported]
  unfold noteFrameSize
  cases session.reportedSize? with
  | none => rfl
  | some size =>
    by_cases hobserved : session.observedSize = some size
    · simp only [hobserved, if_true]
    · simp only [hobserved, if_false]
      unfold observe
      by_cases houtput : session.output.frameSize? = some size
      · simp only [houtput, if_true]
      · simp only [houtput, if_false, MediaType.frameSize?_withFrameSize, if_true]

/-- For an output type of another frame size a session is opened with the same settings, engine and
renderer. -/
theorem create_congr (h : create registry input output = .ok start) :
    ∃ settings engine renderer, registry.openEngine settings = .ok engine ∧
      ∀ other : MediaType, other.SameButFrameSize output →
        create registry input other = .ok (noteFrameSize
          ⟨registry, input, other, settings, engine, renderer, [], input.frameSize?, false⟩) := by
  obtain ⟨hkind, settings, engine, renderer, hsettings, hopen, hprepared, -⟩ :=
    create_eq_ok_iff.mp h
  refine ⟨settings, engine, renderer, hopen, ?_⟩
  intro other hother
  refine create_eq_ok_iff.mpr ⟨?_, settings, engine, renderer, ?_, hopen, ?_, rfl⟩
  · rw [hkind, hother.kind]
  · rw [EngineRegistry.settingsFor_congr hother, hsettings]
  · rw [Renderer.prepare_congr hother, hprepared]

/-- A new engine for a session makes it what opening it again makes, but for the samples, an unread
change and what the renderer keeps. -/
theorem flushInput_of_origin (hs : create registry input output = .ok start)
    (ho : start.SameOrigin session) :
    ∃ fresh, create registry session.input session.output = .ok fresh ∧
      session.flushInput =
        (.ok (),
          { fresh.resume session.queue session.sizeChanged with renderer := session.renderer }) := by
  have houtput := ho.output.trans (sameButFrameSize_of_create hs)
  obtain ⟨settings, engine, renderer, hopen, hcreate⟩ := create_congr hs
  have hstart := Except.ok.inj (hs.symm.trans (hcreate output (.refl output)))
  obtain ⟨hregistry, hsettings, hinput, -⟩ := ho
  rw [hstart, (continues_noteFrameSize _).registry] at hregistry
  rw [hstart, (continues_noteFrameSize _).settings] at hsettings
  rw [hstart, (continues_noteFrameSize _).input] at hinput
  dsimp only at hregistry hsettings hinput
  subst hregistry hsettings hinput
  refine ⟨_, hcreate session.output houtput, ?_⟩
  unfold flushInput
  rw [hopen]
  -- the new session, with what the old one keeps put in before the sizes are compared
  have hnoted := noteFrameSize_update
    ⟨session.registry, session.input, session.output, session.settings, engine, renderer, [],
      session.input.frameSize?, false⟩
    session.renderer session.queue session.sizeChanged
  simp only [Bool.or_false] at hnoted
  dsimp only
  rw [hnoted]
  simp only [resume, queue_noteFrameSize, List.append_nil]

/-- Opened again for the output type that it came to have at the beginning, a session finds no
change. -/
theorem create_of_create (h : create registry input output = .ok fresh) :
    create registry input fresh.output = .ok { fresh with sizeChanged := false } := by
  obtain ⟨settings, engine, renderer, -, hcreate⟩ := create_congr h
  have hfresh := Except.ok.inj (h.symm.trans (hcreate output (.refl output)))
  rw [hcreate fresh.output (sameButFrameSize_of_create h), hfresh]
  exact congrArg Except.ok (noteFrameSize_again
    ⟨registry, input, output, settings, engine, renderer, [], input.frameSize?, false⟩)

/-! ## Waiting with a change -/

/-- Of a session that waits with a change and some samples, everything but the taking of the change
takes samples at most. -/
theorem step_resume_unread (hf : create registry input output = .ok fresh)
    (samples : List Sample) {call : SessionCall} (hc : call ≠ .takeFormatChange) :
    ∃ left, left <:+ samples ∧
      ((fresh.resume samples true).step call).2 = fresh.resume left true := by
  have hqueue := queue_of_create hf
  have hreplaced (kept : List Sample) :
      (fresh.resume kept true).flushInput.2 = fresh.resume kept true := by
    have ho : fresh.SameOrigin (fresh.resume kept true) := ⟨rfl, rfl, rfl, .refl _⟩
    obtain ⟨again, hagain, hflush⟩ := flushInput_of_origin hf ho
    -- opened again it finds no change of its own, but the unread one is still marked
    have hsame : again = { fresh with sizeChanged := false } := by
      have hinput : (fresh.resume kept true).input = input := by
        rw [← input_of_create hf]
        rfl
      rw [hinput] at hagain
      exact Except.ok.inj (hagain.symm.trans (create_of_create hf))
    rw [hflush, hsame]
    unfold resume
    simp only [hqueue, List.append_nil, Bool.true_or]
  cases call with
  | decode packet =>
    refine ⟨samples, List.suffix_refl samples, ?_⟩
    show ((fresh.resume samples true).decode packet).2 = fresh.resume samples true
    unfold decode
    rw [if_pos (by rfl)]
  | popSample =>
    cases samples with
    | nil =>
      refine ⟨[], List.suffix_refl [], ?_⟩
      show (fresh.resume [] true).popSample.2 = fresh.resume [] true
      unfold popSample resume
      simp only [hqueue, List.append_nil]
    | cons sample rest => exact ⟨rest, List.suffix_cons sample rest, rfl⟩
  | takeFormatChange => exact absurd rfl hc
  | flushInput => exact ⟨samples, List.suffix_refl samples, hreplaced samples⟩
  | flush =>
    refine ⟨[], List.nil_suffix, ?_⟩
    have hempty : { fresh.resume samples true with queue := [] } = fresh.resume [] true := by
      unfold resume
      simp only [hqueue, List.append_nil]
    show (flushInput { fresh.resume samples true with queue := [] }).2 = fresh.resume [] true
    rw [hempty, hreplaced]

theorem run_resume_unread (hf : create registry input output = .ok fresh)
    (samples : List Sample) {calls : List SessionCall} (hc : .takeFormatChange ∉ calls) :
    ∃ left, left <:+ samples ∧
      ((fresh.resume samples true).run calls).2 = fresh.resume left true := by
  induction calls generalizing samples with
  | nil => exact ⟨samples, List.suffix_refl samples, rfl⟩
  | cons call calls ih =>
    obtain ⟨hcall, hcalls⟩ := List.ne_and_not_mem_of_not_mem_cons hc
    obtain ⟨kept, hkept, hstep⟩ := step_resume_unread hf samples hcall.symm
    obtain ⟨left, hleft, hrun⟩ := ih kept hcalls
    refine ⟨left, hleft.trans hkept, ?_⟩
    rw [run_cons, hstep]
    exact hrun

omit [Engine σ] in
theorem takeFormatChange_resume_unread (fresh : Session σ) (samples : List Sample) :
    (fresh.resume samples true).takeFormatChange =
      (some fresh.output, fresh.takeFormatChange.2.resume samples false) := by
  have hread : fresh.takeFormatChange.2 = { fresh with sizeChanged := false } := by
    obtain ⟨_, _, _, _, _, _, _, _, changed⟩ := fresh
    cases changed <;> rfl
  rw [hread]
  rfl

/-! ## Replacing the engine -/

omit [Engine σ] in
/-- The samples that a session keeps when an operation replaces its engine. -/
def keptBy (session : Session σ) : SessionCall → List Sample
  | .flush => []
  | _ => session.queue

/-- An operation that replaces the engine leaves a session that is like one that was opened again
for the types of that moment, with the samples that were kept and the change that was not read. -/
theorem step_replacement (hs : create registry input output = .ok start)
    (history : List SessionCall) {call : SessionCall} (hc : call.replacesEngine = true) :
    let session := (start.run history).2
    ∃ fresh, create registry session.input session.output = .ok fresh ∧
      (session.step call).1 = .flushed (.ok ()) ∧
      Alike output.kind (fresh.resume (session.keptBy call) session.sizeChanged)
        (session.step call).2 := by
  intro session
  have ho : start.SameOrigin session := start.sameOrigin_run history
  have hserves : session.renderer.Serves output.kind := serves_run (serves_create hs) history
  have hkind : session.output.kind = output.kind :=
    ho.output.kind.trans (sameButFrameSize_of_create hs).kind
  -- both operations replace the engine, one of them after the queue was emptied
  have hflush (kept : List Sample) : ∃ fresh,
      create registry session.input session.output = .ok fresh ∧
        (flushInput { session with queue := kept }).1 = .ok () ∧
        Alike output.kind (fresh.resume kept session.sizeChanged)
          (flushInput { session with queue := kept }).2 := by
    have hkept : start.SameOrigin { session with queue := kept } :=
      ⟨ho.registry, ho.settings, ho.input, ho.output⟩
    obtain ⟨fresh, hfresh, hresult⟩ := flushInput_of_origin hs hkept
    have hnew : fresh.renderer.Serves output.kind := hkind ▸ serves_create hfresh
    rw [hresult]
    exact ⟨fresh, hfresh, rfl, hnew, session.renderer, hserves, rfl⟩
  cases call with
  | flushInput =>
    obtain ⟨fresh, hfresh, hanswer, halike⟩ := hflush session.queue
    exact ⟨fresh, hfresh, congrArg SessionAnswer.flushed hanswer, halike⟩
  | flush =>
    obtain ⟨fresh, hfresh, hanswer, halike⟩ := hflush []
    exact ⟨fresh, hfresh, congrArg SessionAnswer.flushed hanswer, halike⟩
  | _ => cases hc

/-- **A clean slate.** Take a session at any time in its life and an operation that replaces its
engine. The operation succeeds, and so does opening a session for the input type and for the output
type of that moment. From then on nothing tells the two apart, except that the first one has the
samples that were kept in front, and the change if one had not been read. Until it is read, packets
are refused; it is read once, as the output type of the new session; and then the first one goes on
as the new one does when its own change, if there is one, has been read. -/
theorem run_after_replacement (hs : create registry input output = .ok start)
    (history : List SessionCall) {call : SessionCall} (hc : call.replacesEngine = true) :
    let session := (start.run history).2
    let replaced := (session.step call).2
    ∃ fresh, create registry session.input session.output = .ok fresh ∧
      (session.step call).1 = .flushed (.ok ()) ∧
      replaced.Indistinguishable (fresh.resume (session.keptBy call) session.sizeChanged) ∧
      (session.sizeChanged = true → ∀ before, .takeFormatChange ∉ before →
        let waiting := (replaced.run before).2
        (∀ packet, (waiting.decode packet).1 = .ok .notAccepting) ∧
        waiting.takeFormatChange.1 = some fresh.output ∧
        ∃ left, left <:+ session.keptBy call ∧
          waiting.takeFormatChange.2.Indistinguishable
            (fresh.takeFormatChange.2.resume left false)) := by
  intro session replaced
  obtain ⟨fresh, hfresh, hanswer, halike⟩ := step_replacement hs history hc
  refine ⟨fresh, hfresh, hanswer, halike.symm.indistinguishable, ?_⟩
  intro hunread before hbefore waiting
  rw [hunread] at halike
  obtain ⟨left, hleft, hrun⟩ := run_resume_unread hfresh (session.keptBy call) hbefore
  -- what the new session with the mark does until the change is read, the old one does too
  have hwaiting : Alike output.kind (fresh.resume left true) waiting := by
    rw [← hrun]
    exact (halike.run before).2
  obtain ⟨htype, hafter⟩ := hwaiting.takeFormatChange
  rw [takeFormatChange_resume_unread] at htype hafter
  refine ⟨?_, htype.symm, left, hleft, hafter.symm.indistinguishable⟩
  intro packet
  rw [← (hwaiting.decode packet).1]
  rfl

/-- The first picture is larger than the engine said when it was opened, and the host flushes before
it has read the change: packets are refused until it is read, and then the session is like a new one
for the larger pictures. -/
theorem run_after_replacement_growing :
    ∃ start, create (grayRegistry ⟨2, 2⟩ [grayOutput ⟨4, 4⟩]) (.video .h264 ⟨2, 2⟩)
        (.video .nv12 ⟨2, 2⟩) = .ok start ∧
      let session := (start.run [.decode onePacket]).2
      let flushed := (session.step .flush).2
      session.sizeChanged = true ∧ session.output.frameSize? = some ⟨4, 4⟩ ∧
      (flushed.decode onePacket).1 = .ok .notAccepting ∧
      ∃ fresh, create (grayRegistry ⟨2, 2⟩ [grayOutput ⟨4, 4⟩]) session.input session.output =
          .ok fresh ∧
        flushed.takeFormatChange.1 = some fresh.output ∧
        flushed.takeFormatChange.2.Indistinguishable fresh.takeFormatChange.2 := by
  have replaced := @run_after_replacement _ _ (grayRegistry ⟨2, 2⟩ [grayOutput ⟨4, 4⟩])
    (.video .h264 ⟨2, 2⟩) (.video .nv12 ⟨2, 2⟩) _ rfl [.decode onePacket] .flush rfl
  obtain ⟨fresh, hfresh, -, -, hunread⟩ := replaced
  obtain ⟨hrefused, htype, left, hleft, hafter⟩ :=
    hunread (by decide +kernel) [] List.not_mem_nil
  rw [List.suffix_nil.mp hleft, resume_nil] at hafter
  exact ⟨_, rfl, by decide +kernel, by decide +kernel, hrefused onePacket, fresh, hfresh, htype,
    hafter⟩

end Session

end StreamDecode
