import StreamDecode.Engine.Scripted
import StreamDecode.Proofs.Session.Run

/-!
# What decoding leaves behind in a scripted engine

Decoding a packet receives what the engine hands out, and ends with the first failure. After a frame
that cannot be rendered the rest is discarded, and discarding ends with the first failure too. In
both cases the engine is left with the outputs behind the first failure of the packet
(`pending_receiveFrames`), so that it is drained exactly when nothing but the last output fails.

An engine that is not drained takes no packet until it is replaced: `pending_step_ne_nil_iff` says
so for one operation and `pending_run_ne_nil_iff` for a run.
-/

namespace StreamDecode

/-! ## Outputs behind a failure -/

namespace ScriptedOutput

/-- Whether an output is a frame and no failure. -/
def isFrame (output : ScriptedOutput) : Bool :=
  match output.result with
  | .ok _ => true
  | .error _ => false

/-- The outputs behind the first failure. -/
def behindFailure (outputs : List ScriptedOutput) : List ScriptedOutput :=
  (outputs.dropWhile isFrame).tail

/-- No output but the last one is a failure. -/
def FailsOnlyAtEnd (outputs : List ScriptedOutput) : Prop :=
  ∀ output ∈ outputs.dropLast, output.isFrame = true

theorem behindFailure_cons_of_frame {output : ScriptedOutput} (h : output.isFrame = true)
    (rest : List ScriptedOutput) : behindFailure (output :: rest) = behindFailure rest := by
  unfold behindFailure
  rw [List.dropWhile_cons_of_pos h]

theorem behindFailure_cons_of_failure {output : ScriptedOutput} (h : output.isFrame = false)
    (rest : List ScriptedOutput) : behindFailure (output :: rest) = rest := by
  unfold behindFailure
  rw [List.dropWhile_cons_of_neg (by rw [h]; exact Bool.false_ne_true), List.tail_cons]

theorem behindFailure_eq_nil_iff {outputs : List ScriptedOutput} :
    behindFailure outputs = [] ↔ FailsOnlyAtEnd outputs := by
  induction outputs with
  | nil => simp [behindFailure, FailsOnlyAtEnd]
  | cons output rest ih =>
    cases h : output.isFrame with
    | true =>
      rw [behindFailure_cons_of_frame h, ih]
      cases rest with
      | nil => simp [FailsOnlyAtEnd]
      | cons next rest =>
        unfold FailsOnlyAtEnd
        rw [List.dropLast_cons_cons]
        constructor
        · intro hr o ho
          rcases List.mem_cons.mp ho with rfl | ho
          · exact h
          · exact hr o ho
        · intro hr o ho
          exact hr o (List.mem_cons_of_mem _ ho)
    | false =>
      rw [behindFailure_cons_of_failure h]
      constructor
      · rintro rfl o ho
        cases ho
      · intro hr
        cases rest with
        | nil => rfl
        | cons next rest =>
          have := hr output (by rw [List.dropLast_cons_cons]; exact List.mem_cons_self)
          rw [h] at this
          cases this

end ScriptedOutput

open ScriptedOutput

/-! ## Receiving and discarding -/

namespace ScriptedEngine

/-- The outputs that the script has for a packet. -/
def outputsFor (engine : ScriptedEngine) (packet : Packet) : List ScriptedOutput :=
  if packet.isEmpty then []
  else
    match engine.script packet with
    | .refuse _ => []
    | .emit outputs _ => outputs

theorem pending_of_receiveFrame_ok {engine next : ScriptedEngine} {frame : Frame}
    (h : Engine.receiveFrame engine = (.ok frame, next)) :
    behindFailure engine.pending = behindFailure next.pending := by
  change engine.receiveFrame = _ at h
  unfold receiveFrame at h
  split at h
  · cases h
  · next output rest hp =>
    obtain ⟨hr, rfl⟩ := Prod.mk.inj h
    rw [hp]
    exact behindFailure_cons_of_frame (by unfold isFrame; rw [hr]) rest

theorem pending_of_receiveFrame_error {engine next : ScriptedEngine} {error : MediaError}
    (h : Engine.receiveFrame engine = (.error error, next)) :
    behindFailure engine.pending = next.pending := by
  change engine.receiveFrame = _ at h
  unfold receiveFrame at h
  split at h
  · next hp =>
    obtain ⟨-, rfl⟩ := Prod.mk.inj h
    rw [hp]
    rfl
  · next output rest hp =>
    obtain ⟨hr, rfl⟩ := Prod.mk.inj h
    rw [hp]
    exact behindFailure_cons_of_failure (by unfold isFrame; rw [hr]) rest

theorem pending_discardFrames (engine : ScriptedEngine) :
    (Engine.discardFrames engine).pending = behindFailure engine.pending := by
  fun_induction Engine.discardFrames engine with
  | case1 engine frame next h ih => rw [ih, pending_of_receiveFrame_ok h]
  | case2 engine error next h => exact (pending_of_receiveFrame_error h).symm

theorem pending_configure (engine : ScriptedEngine) (settings : CodecSettings) :
    (Engine.configure engine settings).2.pending = engine.pending := by
  show (engine.configure settings).2.pending = _
  unfold configure
  split <;> rfl

theorem sendPacket_of_pending {engine : ScriptedEngine} (h : engine.pending ≠ [])
    (packet : Packet) : Engine.sendPacket engine packet = (.error .tryAgain, engine) := by
  show engine.sendPacket packet = _
  unfold sendPacket
  rw [if_pos]
  simpa using h

/-- An engine that has taken a packet was drained before, and now it has the outputs for it. -/
theorem pending_of_sendPacket_ok {engine next : ScriptedEngine} {packet : Packet}
    (h : Engine.sendPacket engine packet = (.ok (), next)) :
    engine.pending = [] ∧ next.pending = engine.outputsFor packet := by
  change engine.sendPacket packet = _ at h
  unfold sendPacket at h
  unfold outputsFor
  split at h
  · cases h
  · next hp =>
    have hp : engine.pending = [] := by simpa using hp
    split at h
    · next he =>
      obtain ⟨-, rfl⟩ := Prod.mk.inj h
      rw [if_pos he]
      exact ⟨hp, hp⟩
    · next he =>
      rw [if_neg he]
      cases hs : engine.script packet with
      | refuse error =>
        rw [hs] at h
        cases h
      | emit outputs reported =>
        rw [hs] at h
        obtain ⟨-, rfl⟩ := Prod.mk.inj h
        rw [hp]
        exact ⟨rfl, List.nil_append outputs⟩

theorem eq_of_sendPacket_error {engine next : ScriptedEngine} {packet : Packet} {error : MediaError}
    (h : Engine.sendPacket engine packet = (.error error, next)) : next = engine := by
  change engine.sendPacket packet = _ at h
  unfold sendPacket at h
  split at h
  · exact (Prod.mk.inj h).2.symm
  · split at h
    · cases h
    · split at h
      · exact (Prod.mk.inj h).2.symm
      · cases h

theorem sendPacket_tryAgain_iff {engine : ScriptedEngine} {packet : Packet} :
    (Engine.sendPacket engine packet).1 = .error .tryAgain ↔
      engine.pending ≠ [] ∨ packet.isEmpty = false ∧ engine.script packet = .refuse .tryAgain := by
  by_cases hp : engine.pending = []
  · show (engine.sendPacket packet).1 = _ ↔ _
    unfold sendPacket
    rw [if_neg (by simpa using hp)]
    split
    · next he => simp [hp, he]
    · next he =>
      split <;> next hs => simp [hp, he, hs]
  · rw [sendPacket_of_pending hp]
    exact ⟨fun _ => Or.inl hp, fun _ => rfl⟩

end ScriptedEngine

/-- All engines of a registry are created without outputs. -/
def EngineRegistry.StartsDrained (registry : EngineRegistry ScriptedEngine) : Prop :=
  ∀ entry ∈ registry.engines, ∀ engine, entry.create = .ok engine → engine.pending = []

theorem EngineRegistry.pending_of_openEngine {registry : EngineRegistry ScriptedEngine}
    (hr : registry.StartsDrained) {settings : CodecSettings} {engine : ScriptedEngine}
    (h : registry.openEngine settings = .ok engine) : engine.pending = [] := by
  obtain ⟨entry, he, created, hc, hconf⟩ := openEngine_eq_ok h
  have hp := ScriptedEngine.pending_configure created settings
  rw [hconf] at hp
  exact hp.trans (hr entry he created hc)

namespace Session

/-! ## Sessions -/

variable {session : Session ScriptedEngine}

/-- Whether a session hands a packet to its engine and the engine takes it. -/
def Accepts (session : Session ScriptedEngine) (packet : Packet) : Prop :=
  session.sizeChanged = false ∧ (Engine.sendPacket session.engine packet).1 = .ok ()

/-- Whether a call decodes a packet whose outputs go on behind a failure. -/
def LeavesBehind (session : Session ScriptedEngine) (call : SessionCall) : Prop :=
  ∃ packet, call = .decode packet ∧ session.Accepts packet ∧
    ¬ FailsOnlyAtEnd (session.engine.outputsFor packet)

theorem pending_receiveFrames (session : Session ScriptedEngine) (packet : Packet) :
    (session.receiveFrames packet).2.engine.pending = behindFailure session.engine.pending := by
  fun_induction receiveFrames session packet with
  | case1 session error engine h => exact (ScriptedEngine.pending_of_receiveFrame_error h).symm
  | case2 session frame engine h error renderer hr =>
    rw [ScriptedEngine.pending_of_receiveFrame_ok h]
    exact ScriptedEngine.pending_discardFrames engine
  | case3 session frame engine h data renderer hr ih =>
    rw [ih, engine_enqueue, ScriptedEngine.pending_of_receiveFrame_ok h]

theorem pending_decode_of_accepts {packet : Packet} (h : session.Accepts packet) :
    (session.decode packet).2.engine.pending =
      behindFailure (session.engine.outputsFor packet) := by
  obtain ⟨hc, hs⟩ := h
  cases hsend : Engine.sendPacket session.engine packet with
  | mk result engine =>
    rw [hsend] at hs
    cases hs
    have hr := pending_receiveFrames { session with engine := engine } packet
    rw [← (ScriptedEngine.pending_of_sendPacket_ok hsend).2]
    unfold decode
    rw [if_neg (by rw [hc]; exact Bool.false_ne_true), hsend]
    dsimp only
    split <;> next h => rw [h] at hr; exact hr

theorem engine_decode_of_not_accepts {packet : Packet} (h : ¬ session.Accepts packet) :
    (session.decode packet).2.engine = session.engine := by
  unfold decode
  split
  · rfl
  · next hc =>
    split
    · next hs => exact ScriptedEngine.eq_of_sendPacket_error hs
    · next hs => exact ScriptedEngine.eq_of_sendPacket_error hs
    · next hs => exact absurd ⟨Bool.eq_false_iff.mpr hc, by rw [hs]⟩ h

theorem pending_flushInput (session : Session ScriptedEngine)
    (hr : session.registry.StartsDrained) : session.flushInput.2.engine.pending = [] := by
  unfold flushInput
  split
  · rfl
  · next engine he =>
    exact (congrArg ScriptedEngine.pending (engine_noteFrameSize _)).trans
      (EngineRegistry.pending_of_openEngine hr he)

/-- An operation leaves outputs in the engine if it decodes a packet that fails before its end, or
if they were there and the engine is not replaced. -/
theorem pending_step_ne_nil_iff (hr : session.registry.StartsDrained) (call : SessionCall) :
    (session.step call).2.engine.pending ≠ [] ↔
      session.LeavesBehind call ∨
        session.engine.pending ≠ [] ∧ call.replacesEngine = false := by
  cases call with
  | decode packet =>
    show (session.decode packet).2.engine.pending ≠ [] ↔ _
    by_cases ha : session.Accepts packet
    · have hp : session.engine.pending = [] :=
        (ScriptedEngine.pending_of_sendPacket_ok (Prod.ext ha.2 rfl)).1
      rw [pending_decode_of_accepts ha, Ne, behindFailure_eq_nil_iff]
      constructor
      · exact fun hf => Or.inl ⟨packet, rfl, ha, hf⟩
      · rintro (⟨_, ⟨⟩, -, hf⟩ | ⟨hne, -⟩)
        · exact hf
        · exact absurd hp hne
    · rw [engine_decode_of_not_accepts ha]
      constructor
      · exact fun hne => Or.inr ⟨hne, rfl⟩
      · rintro (⟨_, ⟨⟩, ha', -⟩ | ⟨hne, -⟩)
        · exact absurd ha' ha
        · exact hne
  | popSample =>
    have he : (session.step .popSample).2.engine = session.engine := by
      show session.popSample.2.engine = _
      unfold popSample
      split <;> rfl
    rw [he]
    simp [LeavesBehind, SessionCall.replacesEngine]
  | takeFormatChange =>
    have he : (session.step .takeFormatChange).2.engine = session.engine := by
      show session.takeFormatChange.2.engine = _
      unfold takeFormatChange
      split <;> rfl
    rw [he]
    simp [LeavesBehind, SessionCall.replacesEngine]
  | flushInput =>
    have he : (session.step .flushInput).2.engine.pending = [] :=
      pending_flushInput session hr
    rw [he]
    simp [LeavesBehind, SessionCall.replacesEngine]
  | flush =>
    have he : (session.step .flush).2.engine.pending = [] :=
      pending_flushInput { session with queue := [] } hr
    rw [he]
    simp [LeavesBehind, SessionCall.replacesEngine]

/-- After a run the engine holds outputs exactly if some call left them behind, or they were there at
the beginning, and the engine has not been replaced since. -/
theorem pending_run_ne_nil_iff (hr : session.registry.StartsDrained) (calls : List SessionCall) :
    (session.run calls).2.engine.pending ≠ [] ↔
      (session.engine.pending ≠ [] ∧ ∀ call ∈ calls, call.replacesEngine = false) ∨
      ∃ before call after, calls = before ++ call :: after ∧
        (session.run before).2.LeavesBehind call ∧
        ∀ later ∈ after, later.replacesEngine = false := by
  induction calls generalizing session with
  | nil => simp
  | cons call calls ih =>
    have hr' : (session.step call).2.registry.StartsDrained := by
      rw [(session.sameOrigin_step call).registry]
      exact hr
    rw [run_cons, ih hr', pending_step_ne_nil_iff hr]
    simp only [List.cons_eq_append_iff]
    constructor
    · rintro (⟨hl | ⟨hne, hc⟩, hcalls⟩ | ⟨before, later, after, rfl, hl, hafter⟩)
      · exact Or.inr ⟨[], call, calls, Or.inl ⟨rfl, rfl⟩, hl, hcalls⟩
      · exact Or.inl ⟨hne, List.forall_mem_cons.mpr ⟨hc, hcalls⟩⟩
      · exact Or.inr ⟨call :: before, later, after, Or.inr ⟨before, rfl, rfl⟩, hl, hafter⟩
    · rintro (⟨hne, hcalls⟩ | ⟨before, later, after, ⟨rfl, h⟩ | ⟨rest, rfl, rfl⟩, hl, hafter⟩)
      · obtain ⟨hc, hcalls⟩ := List.forall_mem_cons.mp hcalls
        exact Or.inl ⟨Or.inr ⟨hne, hc⟩, hcalls⟩
      · obtain ⟨rfl, rfl⟩ := List.cons.inj h
        exact Or.inl ⟨Or.inl hl, hafter⟩
      · exact Or.inr ⟨rest, later, after, rfl, hl, hafter⟩

theorem decode_of_tryAgain {packet : Packet} (hc : session.sizeChanged = false)
    (h : (Engine.sendPacket session.engine packet).1 = .error .tryAgain) :
    session.decode packet = (.error (.internal .engineNotDrained), session) := by
  cases hsend : Engine.sendPacket session.engine packet with
  | mk result engine =>
    rw [hsend] at h
    cases h
    unfold decode
    rw [if_neg (by rw [hc]; exact Bool.false_ne_true), hsend]
    dsimp only
    rw [ScriptedEngine.eq_of_sendPacket_error hsend]

/-- **When an engine is drained.** A packet that the engine takes leaves nothing in it exactly if no
output but the last one fails. After a run the engine asks to be drained exactly if a packet left
something behind and the engine has not been replaced since, or if the script says so on its own;
and then decoding fails and changes nothing. -/
theorem drained_iff_failsOnlyAtEnd {registry : EngineRegistry ScriptedEngine}
    (hr : registry.StartsDrained) {input output : MediaType} {start : Session ScriptedEngine}
    (hs : create registry input output = .ok start) (calls : List SessionCall)
    (packet : Packet) :
    let session := (start.run calls).2
    (session.Accepts packet →
      ((session.decode packet).2.engine.pending = [] ↔
        FailsOnlyAtEnd (session.engine.outputsFor packet))) ∧
    ((Engine.sendPacket session.engine packet).1 = .error .tryAgain ↔
      (∃ before call after, calls = before ++ call :: after ∧
        (start.run before).2.LeavesBehind call ∧
        ∀ later ∈ after, later.replacesEngine = false) ∨
      packet.isEmpty = false ∧ session.engine.script packet = .refuse .tryAgain) ∧
    (session.sizeChanged = false →
      (Engine.sendPacket session.engine packet).1 = .error .tryAgain →
        session.decode packet = (.error (.internal .engineNotDrained), session)) := by
  intro session
  obtain ⟨settings, engine, renderer, -, he, rfl⟩ := eq_of_create hs
  have hp : engine.pending = [] := EngineRegistry.pending_of_openEngine hr he
  refine ⟨?_, ?_, decode_of_tryAgain⟩
  · intro ha
    rw [pending_decode_of_accepts ha, behindFailure_eq_nil_iff]
  · rw [ScriptedEngine.sendPacket_tryAgain_iff, pending_run_ne_nil_iff]
    · rw [engine_noteFrameSize]
      simp only [hp, ne_eq, not_true_eq_false, false_and, false_or]
    · rw [(continues_noteFrameSize _).registry]
      exact hr

/-! ### An engine that fails before its end -/

/-- A scripted engine that answers each packet with a failure and a frame behind it. -/
def stuttering : ScriptedEngine where
  codec := .h264
  name := "scripted"
  timeBase := .undefined
  openError := none
  script _ :=
    .emit
      [⟨none, .error (.engine (.stated "boom"))⟩,
        ⟨none, .ok (.video (.blank ⟨2, 2⟩ .gray8))⟩]
      none
  reported := .fixed .unknown
  openedWith := .unknown
  pending := []
  ended := false

/-- A registry with that engine alone. -/
def stutteringRegistry : EngineRegistry ScriptedEngine :=
  ⟨[⟨.h264, "scripted", .ok stuttering⟩], []⟩

theorem startsDrained_stutteringRegistry : stutteringRegistry.StartsDrained := by
  intro entry he engine hc
  rw [List.mem_singleton.mp he] at hc
  cases hc
  rfl

/-- The first packet of that engine leaves a frame behind, and so the engine asks to be drained when
it is sent the second one. -/
theorem drained_iff_failsOnlyAtEnd_stuttering :
    stutteringRegistry.StartsDrained ∧
    ∃ start, create stutteringRegistry (.video .h264 ⟨2, 2⟩) (.video .nv12 ⟨2, 2⟩) = .ok start ∧
      (start.decode ⟨#[0], 0, 0, .hundredNanos⟩).2.engine.pending ≠ [] ∧
      (Engine.sendPacket (start.run [.decode ⟨#[0], 0, 0, .hundredNanos⟩]).2.engine
        ⟨#[1], 1, 0, .hundredNanos⟩).1 = .error .tryAgain := by
  have created := @drained_iff_failsOnlyAtEnd _ startsDrained_stutteringRegistry
    (.video .h264 ⟨2, 2⟩) (.video .nv12 ⟨2, 2⟩) _ rfl
  have not_failsOnlyAtEnd : ¬ FailsOnlyAtEnd (stuttering.outputsFor ⟨#[0], 0, 0, .hundredNanos⟩) :=
    fun hf => by cases hf ⟨none, .error (.engine (.stated "boom"))⟩ (List.mem_cons_self ..)
  refine ⟨startsDrained_stutteringRegistry, _, rfl, ?_, ?_⟩
  · intro hp
    exact not_failsOnlyAtEnd (((created [] ⟨#[0], 0, 0, .hundredNanos⟩).1 ⟨rfl, rfl⟩).mp hp)
  · refine (created [.decode ⟨#[0], 0, 0, .hundredNanos⟩] ⟨#[1], 1, 0, .hundredNanos⟩).2.1.mpr ?_
    exact Or.inl ⟨[], _, [], rfl, ⟨_, rfl, ⟨rfl, rfl⟩, not_failsOnlyAtEnd⟩, nofun⟩

/-- An engine that takes a packet may be left with a frame that nobody receives, and then the next
packet is refused with the error for an engine that was not drained. -/
theorem not_drained_stuttering :
    ∃ start, create stutteringRegistry (.video .h264 ⟨2, 2⟩) (.video .nv12 ⟨2, 2⟩) = .ok start ∧
      start.Accepts ⟨#[0], 0, 0, .hundredNanos⟩ ∧
      (start.run [.decode ⟨#[0], 0, 0, .hundredNanos⟩, .decode ⟨#[1], 1, 0, .hundredNanos⟩]).1 =
        [.decoded (.error (.engine (.stated "boom"))),
          .decoded (.error (.internal .engineNotDrained))] := by
  refine ⟨_, rfl, ⟨rfl, rfl⟩, ?_⟩
  rw [run_cons, run_cons, run_nil]
  unfold step decode receiveFrames
  rfl

end Session

end StreamDecode
