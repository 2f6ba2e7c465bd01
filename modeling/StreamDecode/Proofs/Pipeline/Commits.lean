import StreamDecode.Proofs.Pipeline.Effects

/-!
# Where stored types come from

A stored input type has passed its check, and a stored output type has passed its own check against
the input type of that moment. Later commits do not look back: an input type that is committed after
the output type need not fit it, and a suggestion outlives all commits of input types.

`StemsFrom` relates a pipeline to the events of its past. Its parts for the types follow the event of
a call (`stemsFrom_step`), and its part for the session says what can be announced: an output type
that would pass the check, and only of a video stream (`Session.SoundOutput`).
-/

namespace StreamDecode

/-! ## Output types -/

namespace Negotiation

/-- Whether a type has the coding of the outputs of its kind. -/
def IsOutput (type : MediaType) : Prop := type.coding = outputCoding type.kind

theorem validateOutput_eq_ok_iff {negotiation : Negotiation} {type : MediaType} :
    negotiation.validateOutput type = .ok () ↔
      IsOutput type ∧ ∃ input, negotiation.input = some input ∧ type.kind = input.kind := by
  unfold validateOutput IsOutput
  cases negotiation.input with
  | none => simp
  | some input =>
    by_cases hkind : type.kind = input.kind
    · by_cases hcoding : type.coding = outputCoding type.kind <;> simp [hkind, hcoding]
    · simp [hkind]

theorem setInput_some (negotiation : Negotiation) (type : MediaType) (testOnly : Bool) :
    negotiation.setInput (some type) testOnly =
      (validateInput type).map fun _ =>
        if testOnly then (false, negotiation)
        else (true, { negotiation with input := some type }) := by
  unfold setInput
  dsimp only
  cases validateInput type with
  | error error => rfl
  | ok => cases testOnly <;> rfl

theorem setOutput_some (negotiation : Negotiation) (type : MediaType) (testOnly : Bool) :
    negotiation.setOutput (some type) testOnly =
      (negotiation.validateOutput type).map fun _ =>
        if testOnly then (false, negotiation)
        else (true, { negotiation with output := some type, suggested := none }) := by
  unfold setOutput
  cases hinput : negotiation.input with
  | none =>
    unfold validateOutput
    rw [hinput]
    rfl
  | some input =>
    rw [Option.isNone_some, if_neg Bool.false_ne_true]
    dsimp only
    cases negotiation.validateOutput type with
    | error error => rfl
    | ok => cases testOnly <;> rfl

theorem validateOutput_of_kind_ne {negotiation : Negotiation} {input type : MediaType}
    (hinput : negotiation.input = some input) (hkind : type.kind ≠ input.kind) :
    negotiation.validateOutput type =
      .error (.invalidMediaType (.outputKind type.kind input.kind)) := by
  unfold validateOutput
  rw [hinput]
  exact if_pos hkind

theorem kind_derivedOutput (input : MediaType) : (derivedOutput input).kind = input.kind := by
  unfold derivedOutput
  cases hkind : input.kind with
  | audio => rfl
  | video => rfl

theorem isOutput_derivedOutput (input : MediaType) : IsOutput (derivedOutput input) := by
  unfold IsOutput derivedOutput
  cases input.kind with
  | audio => rfl
  | video => rfl

end Negotiation

theorem MediaType.SameButFrameSize.isOutput {a b : MediaType} (h : a.SameButFrameSize b)
    (hb : Negotiation.IsOutput b) : Negotiation.IsOutput a := by
  unfold Negotiation.IsOutput
  rw [h.coding, h.kind]
  exact hb

/-! ## What a session can announce -/

namespace Session

variable {σ : Type}

/-- A session whose output type has the coding of its kind, and that has a change of the frame size
only if it decodes a video stream. -/
structure SoundOutput (session : Session σ) : Prop where
  isOutput : Negotiation.IsOutput session.output
  video : session.sizeChanged = true → session.output.kind = .video

namespace SoundOutput

variable {session later : Session σ}

theorem update (h : session.SoundOutput) (engine : σ) (renderer : Renderer)
    (queue : List Sample) (observedSize : Option FrameSize) :
    SoundOutput
      { session with
        engine := engine, renderer := renderer, queue := queue, observedSize := observedSize } :=
  ⟨h.isOutput, h.video⟩

theorem takeFormatChange (h : session.SoundOutput) : session.takeFormatChange.2.SoundOutput := by
  unfold Session.takeFormatChange
  split
  · exact ⟨h.isOutput, nofun⟩
  · exact h

theorem popSample (h : session.SoundOutput) : session.popSample.2.SoundOutput := by
  unfold Session.popSample
  split
  · exact h
  · exact h.update ..

variable [Engine σ]

theorem noteFrameSize (h : session.SoundOutput) : session.noteFrameSize.SoundOutput := by
  have hsame := (continues_noteFrameSize session).output
  refine ⟨hsame.isOutput h.isOutput, ?_⟩
  intro hc
  rw [hsame.kind]
  rcases sizeChanged_noteFrameSize.mp hc with hc | ⟨size, hreported, -⟩
  · exact h.video hc
  · unfold reportedSize? at hreported
    by_contra hkind
    rw [if_neg hkind] at hreported
    cases hreported

theorem receiveFrames (h : session.SoundOutput) (packet : Packet) :
    (session.receiveFrames packet).2.SoundOutput := by
  fun_induction Session.receiveFrames session packet with
  | case1 => exact h.update ..
  | case2 => exact h.update ..
  | case3 session frame engine _ data renderer _ ih => exact ih (h.update ..).noteFrameSize

theorem decode (h : session.SoundOutput) (packet : Packet) :
    (session.decode packet).2.SoundOutput := by
  unfold Session.decode
  split
  · exact h
  · split
    · exact h.update ..
    · exact h.update ..
    · next engine _ =>
      have hstart : SoundOutput { session with engine := engine } := h.update ..
      have hreceived := hstart.receiveFrames packet
      split <;> next hr => rw [hr] at hreceived; exact hreceived

theorem flushInput (h : session.SoundOutput) : session.flushInput.2.SoundOutput := by
  unfold Session.flushInput
  split
  · exact h.update ..
  · exact (h.update ..).noteFrameSize

theorem step (h : session.SoundOutput) (call : SessionCall) :
    (session.step call).2.SoundOutput := by
  cases call with
  | decode packet => exact h.decode packet
  | popSample => exact h.popSample
  | takeFormatChange => exact h.takeFormatChange
  | flushInput => exact h.flushInput
  | flush =>
    have hstart : SoundOutput { session with queue := [] } := h.update ..
    exact hstart.flushInput

theorem run (h : session.SoundOutput) (calls : List SessionCall) :
    (session.run calls).2.SoundOutput := by
  induction calls generalizing session with
  | nil => exact h
  | cons call calls ih => exact ih (h.step call)

theorem create {registry : EngineRegistry σ} {input output : MediaType}
    (hc : Session.create registry input output = .ok session)
    (houtput : Negotiation.IsOutput output) : session.SoundOutput := by
  obtain ⟨settings, engine, renderer, -, -, rfl⟩ := eq_of_create hc
  exact noteFrameSize ⟨houtput, nofun⟩

end SoundOutput

end Session

/-! ## Suggestions -/

namespace HostEvent

/-- The suggestion after an event: an announcement puts one forward, and the commit of an output type
takes it away. -/
def suggestionAfter (suggestion : Option MediaType) : HostEvent → Option MediaType
  | .inputCommitted _ => suggestion
  | .outputCommitted _ => none
  | .streamChange type => some type

/-- The suggestion that stands after some events. -/
def standing? (events : List HostEvent) : Option MediaType := events.foldl suggestionAfter none

theorem standing?_append_singleton (past : List HostEvent) (event : HostEvent) :
    standing? (past ++ [event]) = suggestionAfter (standing? past) event := by
  unfold standing?
  rw [List.foldl_append]
  rfl

end HostEvent

theorem Negotiation.Follows.suggested {after before : Negotiation} {event : HostEvent}
    (h : after.Follows before (some event)) :
    after.suggested = event.suggestionAfter before.suggested := by
  cases event <;> cases h <;> rfl

namespace Pipeline

variable {σ : Type} [Engine σ] {pipeline : Pipeline σ} {past : List HostEvent}

/-! ## Events -/

theorem not_shutDown_of_changes {next : Pipeline σ} (hc : Changes pipeline next)
    (h : next.isShutDown = false) : pipeline.isShutDown = false := by
  by_contra hdown
  rw [Bool.not_eq_false] at hdown
  rw [hc.property hdown isShutDown_of_change] at h
  cases h

theorem not_shutDown_of_step {call : Call} (h : (pipeline.step call).2.isShutDown = false) :
    pipeline.isShutDown = false :=
  not_shutDown_of_changes (changes_step pipeline call) h

theorem not_shutDown_of_run {calls : List Call} (h : (pipeline.run calls).2.isShutDown = false) :
    pipeline.isShutDown = false :=
  not_shutDown_of_changes (changes_run pipeline calls) h

/-- What must be the case when an event occurs: a type that is committed passes its check, and a type
that is announced is the output type of a session with a change. -/
def Admitted (pipeline : Pipeline σ) : HostEvent → Prop
  | .inputCommitted type => Negotiation.validateInput type = .ok ()
  | .outputCommitted type => pipeline.negotiation.validateOutput type = .ok ()
  | .streamChange type => ∃ session, pipeline.session = some session ∧
      session.sizeChanged = true ∧ session.output = type

omit [Engine σ] in
theorem taken_of_event {stream : UInt32} (result : Except MediaError (Bool × Negotiation))
    {commit event : HostEvent}
    (h : (match (pipeline.replaceBy (do
        pipeline.enter stream
        let (committed, negotiation) ← result
        .ok (pipeline.withNegotiation committed negotiation))).1.result with
      | .ok _ => some commit
      | .error _ => none) = some event) :
    event = commit ∧ ∃ committed negotiation, result = .ok (committed, negotiation) := by
  rcases replaceBy_cases pipeline stream result with ⟨error, he⟩ | ⟨committed, negotiation, hn, he⟩
  · rw [he] at h
    cases h
  · rw [he] at h
    exact ⟨(Option.some.inj h).symm, committed, negotiation, hn⟩

theorem admitted_of_setInputType {stream : UInt32} {type : MediaType} {event : HostEvent}
    (h : pipeline.event? (.setInputType stream (some type) false) = some event) :
    pipeline.Admitted event := by
  obtain ⟨rfl, committed, negotiation, hn⟩ :=
    taken_of_event (pipeline.negotiation.setInput (some type) false) h
  rcases Negotiation.setInput_eq_ok hn with ⟨-, ht | ht, -⟩ | ⟨-, -, new, ht, hv, -⟩
  · cases ht
  · cases ht
  · cases ht
    exact hv

theorem admitted_of_setOutputType {stream : UInt32} {type : MediaType} {event : HostEvent}
    (h : pipeline.event? (.setOutputType stream (some type) false) = some event) :
    pipeline.Admitted event := by
  obtain ⟨rfl, committed, negotiation, hn⟩ :=
    taken_of_event (pipeline.negotiation.setOutput (some type) false) h
  rcases Negotiation.setOutput_eq_ok hn with ⟨-, ht | ht, -⟩ | ⟨-, -, new, ht, hv, -⟩
  · cases ht
  · cases ht
  · cases ht
    exact hv

theorem admitted_of_event {call : Call} {event : HostEvent}
    (h : pipeline.event? call = some event) : pipeline.Admitted event := by
  cases call with
  | setInputType stream new testOnly =>
    match new, testOnly with
    | some new, false => exact admitted_of_setInputType h
    | none, _ => cases h
    | some new, true => cases h
  | setOutputType stream new testOnly =>
    match new, testOnly with
    | some new, false => exact admitted_of_setOutputType h
    | none, _ => cases h
    | some new, true => cases h
  | pull slots =>
    rcases pull_event_cases pipeline slots with ⟨he, -⟩ | ⟨session, hs, hc, he, -⟩
    · cases he.symm.trans h
    · cases he.symm.trans h
      exact ⟨session, hs, hc, rfl⟩
  | _ => cases h

theorem suggested_of_no_event {call : Call} (he : pipeline.event? call = none)
    (hrun : (pipeline.step call).2.isShutDown = false) :
    (pipeline.step call).2.negotiation.suggested = pipeline.negotiation.suggested := by
  cases call with
  | setInputType stream type testOnly =>
    rcases replaceBy_cases pipeline stream (pipeline.negotiation.setInput type testOnly) with
      ⟨error, h⟩ | ⟨committed, negotiation, hn, h⟩
    · rw [show pipeline.step (.setInputType stream type testOnly) = _ from h]
    · rw [show pipeline.step (.setInputType stream type testOnly) = _ from h,
        negotiation_withNegotiation]
      rcases Negotiation.setInput_eq_ok hn with ⟨-, -, rfl | rfl⟩ | ⟨-, -, new, -, -, rfl⟩ <;> rfl
  | setOutputType stream type testOnly =>
    rcases replaceBy_cases pipeline stream (pipeline.negotiation.setOutput type testOnly) with
      ⟨error, h⟩ | ⟨committed, negotiation, hn, h⟩
    · rw [show pipeline.step (.setOutputType stream type testOnly) = _ from h]
    · rcases Negotiation.setOutput_eq_ok hn with ⟨-, -, hsame⟩ | ⟨-, rfl, new, rfl, -, -⟩
      · rw [show pipeline.step (.setOutputType stream type testOnly) = _ from h,
          negotiation_withNegotiation]
        rcases hsame with rfl | rfl <;> rfl
      · -- a commit is an event
        unfold event? at he
        dsimp only at he
        rw [show pipeline.step (.setOutputType stream (some new) false) = _ from h] at he
        cases he
  | pull slots =>
    rcases pull_event_cases pipeline slots with ⟨-, -, hn⟩ | ⟨session, -, -, hevent, -⟩
    · exact congrArg Negotiation.suggested hn
    · cases he.symm.trans hevent
  | push stream sample flags =>
    exact congrArg Negotiation.suggested (negotiation_push pipeline stream sample flags)
  | send message => exact congrArg Negotiation.suggested (negotiation_send pipeline message)
  | shutdown => cases (isShutDown_shutdown pipeline).symm.trans hrun
  -- the queries
  | _ => rfl

/-- The suggestion follows the event of a call. -/
theorem suggested_step {call : Call} (hrun : (pipeline.step call).2.isShutDown = false) :
    (pipeline.step call).2.negotiation.suggested =
      (pipeline.event? call).elim pipeline.negotiation.suggested
        (HostEvent.suggestionAfter pipeline.negotiation.suggested) := by
  have htypes := negotiation_step pipeline call
  cases he : pipeline.event? call with
  | none => exact suggested_of_no_event he hrun
  | some event =>
    rw [he] at htypes
    exact htypes.suggested

/-! ## The invariant -/

/-- How a pipeline stems from the events of its past. The stored input type has passed the check. The
stored output type is the one committed last, and the stored input type fits it or was committed
later. The suggestion is the one that stands. -/
structure StemsFrom (past : List HostEvent) (pipeline : Pipeline σ) : Prop where
  input : ∀ type, pipeline.negotiation.input = some type → Negotiation.validateInput type = .ok ()
  isOutput : ∀ type, pipeline.negotiation.output = some type → Negotiation.IsOutput type
  output : ∀ type, pipeline.negotiation.output = some type →
    ∃ before after, past = before ++ .outputCommitted type :: after ∧
      (∀ other, .outputCommitted other ∉ after) ∧
      ∀ input, pipeline.negotiation.input = some input →
        input.kind = type.kind ∨ .inputCommitted input ∈ after
  suggested : pipeline.isShutDown = false →
    pipeline.negotiation.suggested = HostEvent.standing? past
  announced : ∀ type, HostEvent.standing? past = some type →
    Negotiation.IsOutput type ∧ type.kind = .video
  session : ∀ session, pipeline.session = some session → session.SoundOutput

omit [Engine σ] in
theorem stemsFrom_new (registry : EngineRegistry σ) (config : PipelineConfig) :
    (new registry config).StemsFrom [] where
  input _ h := by cases h
  isOutput _ h := by cases h
  output _ h := by cases h
  suggested _ := rfl
  announced _ h := by cases h
  session _ h := by cases h

namespace StemsFrom

variable (h : pipeline.StemsFrom past) (call : Call)
include h

theorem session_step : ∀ later, (pipeline.step call).2.session = some later →
    later.SoundOutput := by
  intro later hl
  obtain ⟨session, hs, rfl⟩ := Pipeline.session_step hl
  rcases ensureSession_eq_ok hs with hs | ⟨-, input, output, -, ho, hc⟩
  · exact (h.session session hs).run _
  · exact (Session.SoundOutput.create hc (h.isOutput output ho)).run _

theorem suggested_step (hrun : (pipeline.step call).2.isShutDown = false) :
    (pipeline.step call).2.negotiation.suggested =
      HostEvent.standing? (past ++ (pipeline.event? call).toList) := by
  rw [Pipeline.suggested_step hrun, h.suggested (not_shutDown_of_step hrun)]
  cases pipeline.event? call with
  | none => exact congrArg HostEvent.standing? (List.append_nil past).symm
  | some event => exact (HostEvent.standing?_append_singleton past event).symm

theorem input_step : ∀ type, (pipeline.step call).2.negotiation.input = some type →
    Negotiation.validateInput type = .ok () := by
  intro type ht
  rcases (negotiation_step pipeline call).input ht with ht | he
  · exact h.input type ht
  · exact admitted_of_event he

theorem isOutput_step : ∀ type, (pipeline.step call).2.negotiation.output = some type →
    Negotiation.IsOutput type := by
  intro type ht
  rcases (negotiation_step pipeline call).output ht with ht | he
  · exact h.isOutput type ht
  · exact (Negotiation.validateOutput_eq_ok_iff.mp (admitted_of_event he)).1

theorem announced_step : ∀ type,
    HostEvent.standing? (past ++ (pipeline.event? call).toList) = some type →
    Negotiation.IsOutput type ∧ type.kind = .video := by
  intro type ht
  cases he : pipeline.event? call with
  | none =>
    rw [he, Option.toList_none, List.append_nil] at ht
    exact h.announced type ht
  | some event =>
    rw [he, Option.toList_some, HostEvent.standing?_append_singleton] at ht
    cases event with
    | inputCommitted other => exact h.announced type ht
    | outputCommitted other => cases ht
    | streamChange other =>
      cases ht
      obtain ⟨session, hs, hc, rfl⟩ := admitted_of_event he
      exact ⟨(h.session session hs).isOutput, (h.session session hs).video hc⟩

theorem output_step : ∀ type, (pipeline.step call).2.negotiation.output = some type →
    ∃ before after, past ++ (pipeline.event? call).toList =
        before ++ .outputCommitted type :: after ∧
      (∀ other, .outputCommitted other ∉ after) ∧
      ∀ input, (pipeline.step call).2.negotiation.input = some input →
        input.kind = type.kind ∨ .inputCommitted input ∈ after := by
  intro type ht
  have htypes := negotiation_step pipeline call
  cases he : pipeline.event? call with
  | none =>
    rw [he] at htypes
    have hwithin : (pipeline.step call).2.negotiation.Within pipeline.negotiation := htypes
    obtain ⟨before, after, hpast, hlast, hinput⟩ := h.output type (hwithin.output type ht)
    rw [Option.toList_none, List.append_nil]
    exact ⟨before, after, hpast, hlast, fun input hi => hinput input (hwithin.input input hi)⟩
  | some event =>
    rw [he] at htypes
    cases event with
    | inputCommitted new =>
      have htypes : (pipeline.step call).2.negotiation = _ := htypes
      rw [htypes] at ht ⊢
      obtain ⟨before, after, rfl, hlast, -⟩ := h.output type ht
      refine ⟨before, after ++ [.inputCommitted new], List.append_assoc .., ?_, ?_⟩
      · intro other hm
        rcases List.mem_append.mp hm with hm | hm
        · exact hlast other hm
        · cases List.mem_singleton.mp hm
      · intro input hi
        cases hi
        exact Or.inr (List.mem_append_right _ List.mem_cons_self)
    | outputCommitted new =>
      have htypes : (pipeline.step call).2.negotiation = _ := htypes
      rw [htypes] at ht ⊢
      cases ht
      obtain ⟨-, stored, hstored, hkind⟩ :=
        Negotiation.validateOutput_eq_ok_iff.mp (admitted_of_event he)
      refine ⟨past, [], rfl, fun _ => List.not_mem_nil, ?_⟩
      intro input hi
      cases hstored.symm.trans hi
      exact Or.inl hkind.symm
    | streamChange new =>
      have htypes : (pipeline.step call).2.negotiation = _ := htypes
      rw [htypes] at ht
      cases ht

theorem step : (pipeline.step call).2.StemsFrom (past ++ (pipeline.event? call).toList) where
  input := h.input_step call
  isOutput := h.isOutput_step call
  output := h.output_step call
  suggested := h.suggested_step call
  announced := h.announced_step call
  session := h.session_step call

omit call in
theorem run (calls : List Call) :
    (pipeline.run calls).2.StemsFrom (past ++ pipeline.events calls) := by
  induction calls generalizing pipeline past with
  | nil =>
    rw [events, List.append_nil]
    exact h
  | cons call calls ih =>
    rw [events, ← List.append_assoc]
    exact ih (h.step call)

end StemsFrom

end Pipeline

end StreamDecode
