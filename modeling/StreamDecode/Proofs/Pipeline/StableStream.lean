import StreamDecode.Proofs.Pipeline.Effects
import StreamDecode.Proofs.Pipeline.Lengths
import StreamDecode.Proofs.Session.Stable

/-!
# A stable stream has one format change

A host that follows the announcements commits, once a format change was announced, suggested output
types only (`Permitted`). Then a stable stream is announced at most once, however often the engine is
replaced and the session is made anew (`streamChange_at_most_once`).

The invariant `Steady` relates the pipeline to the events so far: the stored types have the sizes that
the host may ask for, and the session is steady. It knows whether the host has heard of the actual
size, and when the host has, no session has a change any more.
-/

namespace StreamDecode

namespace HostEvent

/-- Whether a format change is announced. -/
def isStreamChange : HostEvent → Bool
  | .streamChange _ => true
  | _ => false

/-- Whether a format change was announced. -/
def Heard (past : List HostEvent) : Prop := past.any isStreamChange = true

instance (past : List HostEvent) : Decidable (Heard past) := by unfold Heard; infer_instance

/-- What the host may do after some events: commit the input type and, once a format change was
announced, output types that were suggested. -/
def Allowed (input : MediaType) (past : List HostEvent) : HostEvent → Prop
  | .inputCommitted type => type = input
  | .outputCommitted type => Heard past → .streamChange type ∈ past
  | .streamChange _ => True

/-- Whether the host may do all of this, one after the other. -/
def Permitted (input : MediaType) (past : List HostEvent) : List HostEvent → Prop
  | [] => True
  | event :: events => event.Allowed input past ∧ Permitted input (past ++ [event]) events

instance (input : MediaType) (past : List HostEvent) (event : HostEvent) :
    Decidable (event.Allowed input past) := by
  cases event <;> unfold Allowed <;> infer_instance

instance decidablePermitted (input : MediaType) (past : List HostEvent) :
    (events : List HostEvent) → Decidable (Permitted input past events)
  | [] => .isTrue trivial
  | event :: events =>
    have := decidablePermitted input (past ++ [event]) events
    inferInstanceAs (Decidable (event.Allowed input past ∧
      Permitted input (past ++ [event]) events))

theorem permitted_append {input : MediaType} {past events later : List HostEvent} :
    Permitted input past (events ++ later) ↔
      Permitted input past events ∧ Permitted input (past ++ events) later := by
  induction events generalizing past with
  | nil => simp [Permitted]
  | cons event events ih =>
    show event.Allowed input past ∧ Permitted input (past ++ [event]) (events ++ later) ↔
      (event.Allowed input past ∧ Permitted input (past ++ [event]) events) ∧
        Permitted input (past ++ event :: events) later
    rw [ih, List.append_assoc, List.singleton_append, and_assoc]

end HostEvent

namespace Answer

/-- Whether the answer is that of a pull that announces a format change. -/
def isStreamChange (answer : Answer) : Bool :=
  match answer.result with
  | .ok (.pulled .streamChange) => true
  | _ => false

theorem isStreamChange_of {α : Type} {reply : α → Reply}
    (h : ∀ value, reply value ≠ .pulled .streamChange) (result : Except MediaError α) :
    (Answer.of reply result).isStreamChange = false := by
  unfold isStreamChange of
  cases result with
  | error error => rfl
  | ok value =>
    dsimp only [Except.map]
    split
    · next he => exact absurd (Except.ok.inj he) (h value)
    · rfl

end Answer

namespace Pipeline

variable {σ : Type} [Engine σ] {registry : EngineRegistry σ} {input : MediaType}
  {actual : FrameSize}

/-- What a pipeline keeps of a stable stream after the events so far. -/
structure Steady (registry : EngineRegistry σ) (input : MediaType) (actual : FrameSize)
    (past : List HostEvent) (pipeline : Pipeline σ) : Prop where
  registry_eq : pipeline.registry = registry
  input_eq : ∀ type, pipeline.negotiation.input = some type → type = input
  output : HostEvent.Heard past →
    ∀ type, pipeline.negotiation.output = some type → type.frameSize? = some actual
  session : ∀ session, pipeline.session = some session →
    session.Steady registry input actual (HostEvent.Heard past)
  suggested : ∀ type, .streamChange type ∈ past → type.frameSize? = some actual
  once : past.countP HostEvent.isStreamChange ≤ 1

theorem steady_new (registry : EngineRegistry σ) (config : PipelineConfig) :
    (new registry config).Steady registry input actual [] where
  registry_eq := rfl
  input_eq _ h := by cases h
  output h := by cases h
  session _ h := by cases h
  suggested _ h := by cases h
  once := Nat.zero_le 1

theorem steady_streamChange {pipeline : Pipeline σ} {past : List HostEvent} {call : Call}
    {session : Session σ} (h : pipeline.Steady registry input actual past)
    (hs : pipeline.session = some session) (hc : session.sizeChanged = true)
    (he : pipeline.event? call = some (.streamChange session.output))
    (hd : pipeline.demands call = [.takeFormatChange]) :
    (pipeline.step call).2.Steady registry input actual
      (past ++ (pipeline.event? call).toList) := by
  have hsession := h.session session hs
  have hunheard : ¬ HostEvent.Heard past := by
    intro hheard
    rw [(hsession.heard hheard).1] at hc
    cases hc
  have htypes := negotiation_step pipeline call
  rw [he] at htypes ⊢
  refine ⟨?_, ?_, ?_, ?_, ?_, ?_⟩
  · rw [registry_step, h.registry_eq]
  · intro type ht
    exact h.input_eq type ((htypes.input ht).resolve_right nofun)
  · intro _ type ht
    rw [show (pipeline.step call).2.negotiation = _ from htypes] at ht
    cases ht
  · intro later hl
    obtain ⟨present, hpresent, rfl⟩ := session_step hl
    rw [ensureSession_of_some hs] at hpresent
    cases hpresent
    rw [hd]
    exact (Session.steady_takeFormatChange hsession hc).imp fun _ => trivial
  · intro type ht
    rcases List.mem_append.mp ht with ht | ht
    · exact h.suggested type ht
    · cases List.mem_singleton.mp ht
      exact hsession.changed hc
  · have hzero : past.countP HostEvent.isStreamChange = 0 := by
      rw [List.countP_eq_zero]
      intro event hm hevent
      exact hunheard (List.any_eq_true.mpr ⟨event, hm, hevent⟩)
    rw [List.countP_append, hzero]
    exact Nat.le_refl 1

theorem steady_of_not_streamChange (hsettles : registry.Settles input actual)
    {pipeline : Pipeline σ} {past : List HostEvent} {call : Call}
    (h : pipeline.Steady registry input actual past)
    (hp : HostEvent.Permitted input past (pipeline.event? call).toList)
    (he : ∀ type, pipeline.event? call ≠ some (.streamChange type))
    (hd : .takeFormatChange ∉ pipeline.demands call) :
    (pipeline.step call).2.Steady registry input actual
      (past ++ (pipeline.event? call).toList) := by
  have hquiet : ∀ event ∈ (pipeline.event? call).toList, event.isStreamChange = false := by
    intro event hm
    cases event with
    | streamChange type => exact absurd (Option.mem_toList.mp hm) (he type)
    | _ => rfl
  have hheard : HostEvent.Heard (past ++ (pipeline.event? call).toList) → HostEvent.Heard past := by
    intro hheard
    obtain ⟨event, hm, hevent⟩ := List.any_eq_true.mp hheard
    rcases List.mem_append.mp hm with hm | hm
    · exact List.any_eq_true.mpr ⟨event, hm, hevent⟩
    · rw [hquiet event hm] at hevent
      cases hevent
  have htypes := negotiation_step pipeline call
  refine ⟨?_, ?_, ?_, ?_, ?_, ?_⟩
  · rw [registry_step, h.registry_eq]
  · intro type ht
    rcases htypes.input ht with ht | hevent
    · exact h.input_eq type ht
    · rw [hevent] at hp
      exact hp.1
  · intro hh type ht
    rcases htypes.output ht with ht | hevent
    · exact h.output (hheard hh) type ht
    · rw [hevent] at hp
      exact h.suggested type (hp.1 (hheard hh))
  · intro later hl
    obtain ⟨present, hpresent, rfl⟩ := session_step hl
    refine Session.Steady.imp ?_ hheard
    refine Session.steady_run hsettles hd ?_
    rcases ensureSession_eq_ok hpresent with hs | ⟨-, stored, output, hi, ho, hc⟩
    · exact h.session present hs
    · rw [h.registry_eq, h.input_eq _ hi] at hc
      exact Session.steady_create hsettles hc fun hh => h.output hh output ho
  · intro type ht
    rcases List.mem_append.mp ht with ht | ht
    · exact h.suggested type ht
    · cases hquiet _ ht
  · have hzero : (pipeline.event? call).toList.countP HostEvent.isStreamChange = 0 := by
      rw [List.countP_eq_zero]
      intro event hm
      rw [hquiet event hm]
      exact Bool.false_ne_true
    rw [List.countP_append, hzero]
    exact h.once

theorem steady_step (hsettles : registry.Settles input actual) {pipeline : Pipeline σ}
    {past : List HostEvent} (call : Call) (h : pipeline.Steady registry input actual past)
    (hp : HostEvent.Permitted input past (pipeline.event? call).toList) :
    (pipeline.step call).2.Steady registry input actual
      (past ++ (pipeline.event? call).toList) := by
  rcases streamChange_cases pipeline call with ⟨session, hs, hc, he, hd⟩ | ⟨he, hd⟩
  · exact steady_streamChange h hs hc he hd
  · exact steady_of_not_streamChange hsettles h hp he hd

theorem steady_run (hsettles : registry.Settles input actual) {pipeline : Pipeline σ}
    {past : List HostEvent} (calls : List Call)
    (h : pipeline.Steady registry input actual past)
    (hp : HostEvent.Permitted input past (pipeline.events calls)) :
    (pipeline.run calls).2.Steady registry input actual (past ++ pipeline.events calls) := by
  induction calls generalizing pipeline past with
  | nil =>
    rw [events, List.append_nil]
    exact h
  | cons call calls ih =>
    rw [events] at hp ⊢
    obtain ⟨hcall, hcalls⟩ := HostEvent.permitted_append.mp hp
    rw [← List.append_assoc]
    exact ih (steady_step hsettles call h hcall) hcalls

/-! ## Answers -/

omit [Engine σ] in
theorem isStreamChange_replaceBy (pipeline : Pipeline σ)
    (result : Except MediaError (Pipeline σ)) :
    (pipeline.replaceBy result).1.isStreamChange = false := by
  cases result <;> rfl

theorem isStreamChange_step (pipeline : Pipeline σ) (call : Call) :
    (pipeline.step call).1.isStreamChange =
      (pipeline.event? call).any HostEvent.isStreamChange := by
  cases call with
  | pull slots =>
    have hstep : (pipeline.step (.pull slots)).1.isStreamChange =
        Answer.isStreamChange ⟨(pipeline.pull slots).1.map .pulled, []⟩ := rfl
    rw [hstep]
    rcases pull_event_cases pipeline slots with ⟨he, hp, -⟩ | ⟨session, -, -, he, hp, -⟩
    · rw [he]
      cases hr : (pipeline.pull slots).1 with
      | error error => rfl
      | ok status =>
        cases status with
        | streamChange => exact absurd hr hp
        | delivered => rfl
        | needMoreInput => rfl
    · rw [he, hp]
      rfl
  | setInputType stream type testOnly =>
    rw [show (pipeline.step (.setInputType stream type testOnly)).1.isStreamChange = false from
      isStreamChange_replaceBy ..]
    rcases setInputType_cases pipeline stream type testOnly with ⟨he, -⟩ | ⟨new, he, -⟩ <;>
      rw [he] <;> rfl
  | setOutputType stream type testOnly =>
    rw [show (pipeline.step (.setOutputType stream type testOnly)).1.isStreamChange = false from
      isStreamChange_replaceBy ..]
    rcases setOutputType_cases pipeline stream type testOnly with ⟨he, -⟩ | ⟨new, he, -⟩ <;>
      rw [he] <;> rfl
  | shutdown => rfl
  | state => rfl
  | config => rfl
  | _ =>
    refine Answer.isStreamChange_of ?_ _
    intro value h
    cases h

theorem countP_answers (pipeline : Pipeline σ) (calls : List Call) :
    (pipeline.run calls).1.countP Answer.isStreamChange =
      (pipeline.events calls).countP HostEvent.isStreamChange := by
  induction calls generalizing pipeline with
  | nil => rfl
  | cons call calls ih =>
    have hcall : (pipeline.event? call).toList.countP HostEvent.isStreamChange =
        ((pipeline.step call).1.isStreamChange).toNat := by
      rw [isStreamChange_step]
      cases pipeline.event? call with
      | none => rfl
      | some event =>
        rw [Option.toList_some, List.countP_singleton, Option.any_some]
        cases event.isStreamChange <;> rfl
    rw [run_cons, events, List.countP_append, hcall, ← ih, List.countP_cons, Nat.add_comm]
    cases (pipeline.step call).1.isStreamChange <;> rfl

/-- **A stable stream is announced at most once.** Take engines that report the frame size of the
input type when they are opened and one and the same size with every frame, and a host that commits
this input type and, after an announcement, suggested output types only. Then at most one pull of the
run announces a format change, whatever else the host does. -/
theorem streamChange_at_most_once (config : PipelineConfig)
    (hsettles : registry.Settles input actual) (calls : List Call)
    (hp : HostEvent.Permitted input [] ((new registry config).events calls)) :
    ((new registry config).run calls).1.countP Answer.isStreamChange ≤ 1 := by
  rw [countP_answers]
  exact (steady_run hsettles calls (steady_new registry config) hp).once

/-! ### Gray pictures of one size -/

/-- The gray engine in use answers every packet with its outputs, and it hands out nothing else. -/
theorem pending_of_inUse {opened : FrameSize} {outputs : List ScriptedOutput}
    {engine : ScriptedEngine} (h : (Session.grayRegistry opened outputs).InUse input engine) :
    (∀ packet, engine.script packet = .emit outputs none) ∧
      ∀ output ∈ engine.pending, output ∈ outputs := by
  induction h with
  | opened _ h =>
    obtain ⟨entry, he, created, hc, hconf⟩ := EngineRegistry.openEngine_eq_ok h
    rw [List.mem_singleton.mp he] at hc
    cases hc
    cases hconf
    exact ⟨fun _ => rfl, fun _ hm => absurd hm List.not_mem_nil⟩
  | @sent engine next packet result _ hs ih =>
    obtain ⟨hscript, hpending⟩ := ih
    have hs : engine.sendPacket packet = (result, next) := hs
    unfold ScriptedEngine.sendPacket at hs
    rw [hscript] at hs
    split at hs
    · cases hs
      exact ⟨hscript, hpending⟩
    · split at hs
      · cases hs
        exact ⟨hscript, hpending⟩
      · cases hs
        refine ⟨hscript, ?_⟩
        intro output hm
        rcases List.mem_append.mp hm with hm | hm
        · exact hpending output hm
        · exact hm
  | @received engine next result _ hr ih =>
    obtain ⟨hscript, hpending⟩ := ih
    have hr : engine.receiveFrame = (result, next) := hr
    unfold ScriptedEngine.receiveFrame at hr
    split at hr
    · cases hr
      exact ⟨hscript, hpending⟩
    · next output rest hp =>
      cases hr
      refine ⟨hscript, ?_⟩
      intro other hm
      exact hpending other (by rw [hp]; exact List.mem_cons_of_mem _ hm)
  | flushed _ ih => exact ⟨ih.1, fun _ hm => absurd hm List.not_mem_nil⟩

theorem settles_grayRegistry {opened : FrameSize} (hi : input.frameSize? = some opened)
    (actual : FrameSize) :
    (Session.grayRegistry opened [Session.grayOutput actual]).Settles input actual where
  opened output settings engine _ h size hs := by
    obtain ⟨entry, he, created, hc, hconf⟩ := EngineRegistry.openEngine_eq_ok h
    rw [List.mem_singleton.mp he] at hc
    cases hc
    cases hconf
    rw [hi]
    exact (Option.filter_eq_some_iff.mp hs).1
  received engine next frame h hr size hs := by
    have hr : engine.receiveFrame = (.ok frame, next) := hr
    unfold ScriptedEngine.receiveFrame at hr
    split at hr
    · cases hr
    · next output rest hp =>
      have hm : output ∈ engine.pending := by rw [hp]; exact List.mem_cons_self
      obtain rfl := List.mem_singleton.mp ((pending_of_inUse h).2 output hm)
      cases hr
      exact (Option.some.inj (Option.filter_eq_some_iff.mp hs).1).symm

/-- The output type that is suggested for pictures of four by four instead of two by two. -/
def suggestedOutput : MediaType := (MediaType.video .nv12 ⟨2, 2⟩).withFrameSize ⟨4, 4⟩

/-- The host drains after the announcement and commits the suggested type. Then it starts the stream
again, and a new session takes a packet. -/
theorem streamChange_at_most_once_restarted :
    let calls := openAndPush ++
      [.pull [.empty], .send .drain, .pull [.empty],
        .setOutputType 0 (some suggestedOutput) false, .pull [.empty],
        .send .startOfStream, .push 0 ⟨#[0], 0, 1⟩ 0, .pull [.empty], .pull [.empty]]
    let pipeline := grayPipeline [Session.grayOutput ⟨4, 4⟩]
    HostEvent.Permitted (.video .h264 ⟨2, 2⟩) [] (pipeline.events calls) ∧
      HostEvent.streamChange suggestedOutput ∈ pipeline.events calls ∧
      (pipeline.run calls).1.countP Answer.isStreamChange ≤ 1 := by
  intro calls pipeline
  have hp : HostEvent.Permitted (.video .h264 ⟨2, 2⟩) [] (pipeline.events calls) := by decide +kernel
  refine ⟨hp, by decide +kernel, ?_⟩
  exact streamChange_at_most_once .standard (settles_grayRegistry rfl ⟨4, 4⟩) calls hp

end Pipeline

end StreamDecode
