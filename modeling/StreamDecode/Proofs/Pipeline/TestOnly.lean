import StreamDecode.Proofs.Pipeline.Handshake
import StreamDecode.Proofs.Pipeline.Mode

/-!
# Calls that only test a type

A host may ask whether a type would be taken. The answer is the one that the commit would have
(`answer_of_test`). Afterwards everything is as before, with two exceptions: asking about no type
clears the stored type, and every call that sets a type refreshes the mode, so that an announcement
which was overlooked no longer is. `answers_after_test` says that later calls tell of the test in
these cases and in no other.
-/

namespace StreamDecode

/-! ## Directions -/

/-- The side of a pipeline on which a host sets a type. -/
inductive Direction where
  | input
  | output
deriving DecidableEq, Repr

namespace Direction

/-- The call that sets the type of a direction. -/
def setType : Direction → UInt32 → Option MediaType → Bool → Call
  | .input => .setInputType
  | .output => .setOutputType

/-- The call that asks for the stored type of a direction. -/
def currentType : Direction → Call
  | .input => .inputType 0
  | .output => .outputType 0

/-- The stored type of a direction. -/
def stored : Direction → Negotiation → Option MediaType
  | .input => Negotiation.input
  | .output => Negotiation.output

/-- The stored types without the one of a direction. -/
def clear : Direction → Negotiation → Negotiation
  | .input, negotiation => { negotiation with input := none }
  | .output, negotiation => { negotiation with output := none }

/-- What setting the type of a direction does to the stored types. -/
def set : Direction → Negotiation → Option MediaType → Bool →
    Except MediaError (Bool × Negotiation)
  | .input => Negotiation.setInput
  | .output => Negotiation.setOutput

variable {direction : Direction} {negotiation : Negotiation}

theorem clear_of_none (h : direction.stored negotiation = none) :
    direction.clear negotiation = negotiation := by
  cases negotiation
  cases direction <;> cases h <;> rfl

theorem stored_clear (direction : Direction) (negotiation : Negotiation) :
    direction.stored (direction.clear negotiation) = none := by
  cases direction <;> rfl

/-- The check of a type that a direction makes. -/
def check : Direction → Negotiation → MediaType → Except MediaError Unit
  | .input, _, type => Negotiation.validateInput type
  | .output, negotiation, type => negotiation.validateOutput type

/-- The stored types with a type that has been committed in a direction. -/
def commit : Direction → Negotiation → MediaType → Negotiation
  | .input, negotiation, type => { negotiation with input := some type }
  | .output, negotiation, type => { negotiation with output := some type, suggested := none }

theorem set_some (direction : Direction) (negotiation : Negotiation) (type : MediaType)
    (testOnly : Bool) :
    direction.set negotiation (some type) testOnly =
      (direction.check negotiation type).map fun _ =>
        if testOnly then (false, negotiation) else (true, direction.commit negotiation type) := by
  cases direction with
  | input => exact negotiation.setInput_some type testOnly
  | output => exact negotiation.setOutput_some type testOnly

theorem set_none (direction : Direction) (negotiation : Negotiation) (testOnly : Bool) :
    direction.set negotiation none testOnly = direction.set negotiation none false := by
  cases direction <;> rfl

theorem set_none_eq_ok {testOnly committed : Bool} {next : Negotiation}
    (h : direction.set negotiation none testOnly = .ok (committed, next)) :
    committed = false ∧ next = direction.clear negotiation := by
  cases direction with
  | input =>
    cases h
    exact ⟨rfl, rfl⟩
  | output =>
    have h : negotiation.setOutput none testOnly = .ok (committed, next) := h
    unfold Negotiation.setOutput at h
    by_cases hinput : negotiation.input.isNone = true
    · rw [if_pos hinput] at h
      cases h
    · rw [if_neg hinput] at h
      cases h
      exact ⟨rfl, rfl⟩

theorem set_test_eq_ok {type : Option MediaType} {committed : Bool} {next : Negotiation}
    (h : direction.set negotiation type true = .ok (committed, next)) :
    committed = false ∧
      next = if type = none then direction.clear negotiation else negotiation := by
  cases type with
  | none => exact set_none_eq_ok h
  | some type =>
    rw [set_some] at h
    cases hc : direction.check negotiation type with
    | error error =>
      rw [hc] at h
      cases h
    | ok =>
      rw [hc] at h
      cases h
      exact ⟨rfl, rfl⟩

end Direction

namespace Pipeline

variable {σ : Type} [Engine σ] {pipeline : Pipeline σ} {direction : Direction} {stream : UInt32}
  {type : Option MediaType}

/-! ## A test -/

theorem step_setType (pipeline : Pipeline σ) (direction : Direction) (stream : UInt32)
    (type : Option MediaType) (testOnly : Bool) :
    pipeline.step (direction.setType stream type testOnly) =
      pipeline.replaceBy (do
        pipeline.enter stream
        let (committed, negotiation) ← direction.set pipeline.negotiation type testOnly
        .ok (pipeline.withNegotiation committed negotiation)) := by
  cases direction <;> rfl

/-- A test has the answer of the commit. -/
theorem answer_of_test (pipeline : Pipeline σ) (direction : Direction) (stream : UInt32)
    (type : Option MediaType) :
    (pipeline.step (direction.setType stream type true)).1 =
      (pipeline.step (direction.setType stream type false)).1 := by
  rw [step_setType, step_setType]
  cases type with
  | none => rw [Direction.set_none]
  | some type =>
    rw [Direction.set_some, Direction.set_some]
    cases pipeline.enter stream with
    | error error => rfl
    | ok =>
      cases direction.check pipeline.negotiation type with
      | error error => rfl
      | ok => rfl

/-- A test is refused and changes nothing, or it refreshes the mode, and clears the stored type if
there is no type to test. -/
theorem test_cases (pipeline : Pipeline σ) (direction : Direction) (stream : UInt32)
    (type : Option MediaType) :
    (∃ error, pipeline.step (direction.setType stream type true) =
        (⟨.error error, []⟩, pipeline)) ∨
      pipeline.isShutDown = false ∧
        pipeline.step (direction.setType stream type true) =
          (.ok .done, refreshMode
            { pipeline with
              negotiation :=
                if type = none then direction.clear pipeline.negotiation
                else pipeline.negotiation }) := by
  rw [step_setType]
  cases henter : pipeline.enter stream with
  | error error => exact Or.inl ⟨error, rfl⟩
  | ok =>
    cases hset : direction.set pipeline.negotiation type true with
    | error error => exact Or.inl ⟨error, rfl⟩
    | ok result =>
      obtain ⟨committed, negotiation⟩ := result
      obtain ⟨rfl, rfl⟩ := Direction.set_test_eq_ok hset
      refine Or.inr ⟨(enter_eq_ok_iff.mp henter).2, ?_⟩
      show (_, pipeline.withNegotiation false _) = _
      unfold withNegotiation
      rw [Bool.false_and, Bool.or_false]

/-! ## What the mode hides -/

omit [Engine σ] in
theorem FitsHistory.refreshMode_eq_self {history : StreamHistory} (h : pipeline.FitsHistory history)
    (hc : ¬ (history.started = false ∧ history.overlooked = true)) :
    pipeline.refreshMode = pipeline := by
  unfold refreshMode
  split
  · rfl
  · next hmode =>
    rw [h.mode_eq_streaming_iff, Bool.not_eq_true] at hmode
    have hnone : history.overlooked = false := by
      rw [← Bool.not_eq_true]
      exact fun ho => hc ⟨hmode, ho⟩
    have hm := h.mode_of_not_started hmode
    rw [hnone, Bool.or_false] at hm
    rw [← hm]

omit [Engine σ] in
/-- After an announcement that was overlooked, refreshing changes the mode. -/
theorem FitsHistory.mode_refreshMode {history : StreamHistory} (h : pipeline.FitsHistory history)
    (hs : history.started = false) (ho : history.overlooked = true) :
    pipeline.mode = .typesNegotiated ∧
      pipeline.refreshMode = { pipeline with mode := .idle } := by
  have hm : pipeline.mode = .typesNegotiated := by
    rw [h.mode_of_not_started hs, ho, Bool.or_true]
    rfl
  refine ⟨hm, ?_⟩
  unfold refreshMode Negotiation.isComplete
  rw [hm, (h.overlooked ho).2, Option.isSome_none, Bool.and_false]
  rfl

/-- The call that pulls a sample. -/
def pullOne : Call := .pull [.empty]

theorem mode_of_pulls (pipeline : Pipeline σ) (count : Nat) :
    (pipeline.run (List.replicate count pullOne)).2.mode = pipeline.mode ∧
      (pipeline.run (List.replicate count pullOne)).2.isShutDown = pipeline.isShutDown := by
  induction count generalizing pipeline with
  | zero => exact ⟨rfl, rfl⟩
  | succ count ih =>
    obtain ⟨hm, hd⟩ := ih (pipeline.pull [.empty]).2.2
    obtain ⟨hpulled, hrunning⟩ := pull_keeps pipeline [.empty]
    exact ⟨hm.trans hpulled, hd.trans hrunning⟩

theorem released_of_pulls {session : Session σ} (h : pipeline.Held session) :
    (pipeline.run (List.replicate (max 1 session.waiting.length) pullOne)).2.Released
      pipeline.formatChanging session := by
  have hpulls (count : Nat) :
      FlowCall.pulls (List.replicate count (FlowCall.pull .empty rfl)) = count := by
    induction count with
    | zero => rfl
    | succ count ih => exact congrArg (· + 1) ih
  have hslot : OutputSlot.empty.stream = 0 := rfl
  obtain ⟨count, hcount⟩ : ∃ count, max 1 session.waiting.length = count + 1 :=
    ⟨max 1 session.waiting.length - 1, by omega⟩
  obtain ⟨-, hreleased⟩ := run_through_last_pull h
    (List.replicate count (FlowCall.pull .empty rfl)) hslot (by rw [hpulls, hcount])
  rw [List.map_append, List.map_replicate] at hreleased
  rw [hcount, List.replicate_succ']
  exact hreleased

/-- Some pulls bring the mode to light, whatever it is. -/
theorem state_after_pulls (h : pipeline.Consistent) (hrun : pipeline.isShutDown = false) :
    ∃ count, ∀ mode,
      (({ pipeline with mode := mode } : Pipeline σ).run (List.replicate count pullOne)).2.state =
        mode.state := by
  by_cases hb : pipeline.draining = true ∨ pipeline.formatChanging = true
  · obtain ⟨session, hs, -, -⟩ := h.held hb
    refine ⟨max 1 session.waiting.length, fun mode => ?_⟩
    have hheld : ({ pipeline with mode := mode } : Pipeline σ).Held session := ⟨hs, hrun, hb⟩
    have hreleased := released_of_pulls hheld
    obtain ⟨hm, hd⟩ := mode_of_pulls { pipeline with mode := mode } (max 1 session.waiting.length)
    rw [state_of_calm (hd.trans hrun) hreleased.draining hreleased.formatChanging, hm]
  · rw [not_or, Bool.not_eq_true, Bool.not_eq_true] at hb
    exact ⟨0, fun mode => state_of_calm hrun hb.1 hb.2⟩

/-! ## What later calls tell -/

omit [Engine σ] in
theorem negotiation_refreshMode (pipeline : Pipeline σ) :
    pipeline.refreshMode.negotiation = pipeline.negotiation := by
  obtain ⟨mode, hr⟩ := refreshMode_eq pipeline
  rw [hr]

theorem result_currentType (pipeline : Pipeline σ) (direction : Direction) :
    (pipeline.step direction.currentType).1.result =
      (do
        pipeline.enter 0
        committed (direction.stored pipeline.negotiation)).map .mediaType := by
  cases direction <;> rfl

/-- A host that asks for a type finds out whether there is one. -/
theorem result_currentType_eq_ok_iff :
    (∃ reply, (pipeline.step direction.currentType).1.result = .ok reply) ↔
      pipeline.isShutDown = false ∧ direction.stored pipeline.negotiation ≠ none := by
  rw [result_currentType]
  cases henter : pipeline.enter 0 with
  | error error =>
    have hdown : ¬ pipeline.isShutDown = false := by
      intro hrun
      cases henter.symm.trans (enter_eq_ok_iff.mpr ⟨rfl, hrun⟩)
    simp [hdown, bind, Except.bind, Except.map]
  | ok =>
    have hrun := (enter_eq_ok_iff.mp henter).2
    cases direction.stored pipeline.negotiation with
    | none => simp [committed, bind, Except.bind, Except.map]
    | some type => simp [hrun, committed, bind, Except.bind, Except.map]

/-- Pulls and a question for the state tell two modes apart. -/
theorem exists_run_ne_of_mode (h : pipeline.Consistent) (hrun : pipeline.isShutDown = false)
    {mode other : StreamMode} (hne : mode.state ≠ other.state) :
    ∃ later, (({ pipeline with mode := mode } : Pipeline σ).run later).1 ≠
      (({ pipeline with mode := other } : Pipeline σ).run later).1 := by
  obtain ⟨count, hstate⟩ := state_after_pulls h hrun
  refine ⟨List.replicate count pullOne ++ [.state], ?_⟩
  intro hsame
  rw [run_append, run_append] at hsame
  have hlast := (List.append_inj' hsame rfl).2
  have hstates := Except.ok.inj (congrArg Answer.result (List.singleton_inj.mp hlast))
  rw [Reply.state.injEq, hstate, hstate] at hstates
  exact hne hstates

/-- **Tests.** In every run, a call that only tests a type has the answer of the call that commits it.
All later calls have the same answers as without the test exactly if it is refused, or if it clears no
stored type and outside a stream finds no announcement that was overlooked. -/
theorem answers_after_test (registry : EngineRegistry σ) (config : PipelineConfig)
    (calls : List Call) (direction : Direction) (stream : UInt32) (type : Option MediaType) :
    let pipeline := ((new registry config).run calls).2
    let history := (new registry config).streamHistory .fresh calls
    let test := direction.setType stream type true
    let commit := direction.setType stream type false
    (pipeline.step test).1 = (pipeline.step commit).1 ∧
      ((∀ later, ((pipeline.step test).2.run later).1 = (pipeline.run later).1) ↔
        (∃ error, (pipeline.step test).1.result = .error error) ∨
          (type = none → direction.stored pipeline.negotiation = none) ∧
            ¬ (history.started = false ∧ history.overlooked = true)) := by
  intro pipeline history test commit
  refine ⟨answer_of_test pipeline direction stream type, ?_⟩
  have hconsistent : pipeline.Consistent := (Consistent.new registry config).run calls
  rcases test_cases pipeline direction stream type with ⟨error, hs⟩ | ⟨hrun, hs⟩
  · have hs : pipeline.step test = (⟨.error error, []⟩, pipeline) := hs
    rw [hs]
    exact ⟨fun _ => Or.inl ⟨error, rfl⟩, fun _ _ => rfl⟩
  have hs : pipeline.step test = _ := hs
  have hfits : pipeline.FitsHistory history := (fitsHistory_new registry config).run calls hrun
  have haccepted : ¬ ∃ error, (pipeline.step test).1.result = .error error := by
    rw [hs]
    rintro ⟨error, he⟩
    cases he
  have hkept (h : type = none → direction.stored pipeline.negotiation = none) :
      (if type = none then direction.clear pipeline.negotiation else pipeline.negotiation) =
        pipeline.negotiation := by
    split_ifs with htype
    · exact Direction.clear_of_none (h htype)
    · rfl
  rw [or_iff_right haccepted, hs]
  constructor
  · intro hsame
    have hstored : type = none → direction.stored pipeline.negotiation = none := by
      intro htype
      by_contra hstored
      obtain ⟨reply, hreply⟩ := result_currentType_eq_ok_iff.mpr ⟨hrun, hstored⟩
      have hasked := List.singleton_inj.mp (hsame [direction.currentType])
      have htold := result_currentType_eq_ok_iff.mp
        ⟨reply, (congrArg Answer.result hasked).trans hreply⟩
      rw [negotiation_refreshMode, if_pos htype] at htold
      exact htold.2 (direction.stored_clear pipeline.negotiation)
    refine ⟨hstored, ?_⟩
    rintro ⟨hstarted, hoverlooked⟩
    obtain ⟨hm, hrefreshed⟩ := hfits.mode_refreshMode hstarted hoverlooked
    obtain ⟨later, hne⟩ := exists_run_ne_of_mode hconsistent hrun
      (show StreamMode.idle.state ≠ StreamMode.typesNegotiated.state from nofun)
    apply hne
    have hlater := hsame later
    rw [hkept hstored] at hlater
    rw [← hrefreshed, ← hm]
    exact hlater
  · rintro ⟨hstored, hseen⟩ later
    rw [hkept hstored]
    exact congrArg (fun start => (run start later).1) (hfits.refreshMode_eq_self hseen)

/-- Two tests that are noticed: one without a type, which clears the stored type, and one after the
announcement of a larger picture, which makes the state tell that the output type is missing. -/
theorem tests_noticed :
    let picture : MediaType := .video .h264 ⟨2, 2⟩
    let stored := ((grayPipeline []).run [.setInputType 0 (some picture) false]).2
    let noType := stored.step (.setInputType 0 none true)
    let announced := ((grayPipeline [Session.grayOutput ⟨4, 4⟩]).run
      (openAndPush ++ [.pull [.empty]])).2
    let smallType := announced.step (.setOutputType 0 (some (.video .nv12 ⟨2, 2⟩)) true)
    (stored.inputType 0 = .ok picture ∧ noType.1.result = .ok .done ∧
        noType.2.inputType 0 = .error .typeNotSet) ∧
      announced.state = .typesNegotiated ∧ smallType.1.result = .ok .done ∧
        smallType.2.state = .idle := by
  intro picture stored noType announced smallType
  refine ⟨⟨?_, ?_, ?_⟩, ?_, ?_, ?_⟩ <;> decide +kernel

end Pipeline

end StreamDecode
