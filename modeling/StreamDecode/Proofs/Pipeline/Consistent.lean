import StreamDecode.Proofs.Pipeline.Changes

/-!
# The types of a pipeline and of its session

A pipeline stores the types that the host sees, and its session has copies of the types that it was
made for. The two change by different operations: the host commits and clears types, the frame size
of a session follows the data, and a format change that is announced clears the output type.

`Consistent` says that a session which does not wait for its end still has the stored types. It
also says where a session must be, and what is left after the shutdown. Every elementary change
keeps it (`Consistent.change`).
-/

namespace StreamDecode

/-! ## Setting a type -/

namespace Negotiation

variable {negotiation next : Negotiation} {type : Option MediaType} {testOnly committed : Bool}

theorem setInput_eq_ok (h : negotiation.setInput type testOnly = .ok (committed, next)) :
    committed = false ∧ (type = none ∨ testOnly = true) ∧
        (next = negotiation ∨ next = { negotiation with input := none }) ∨
      committed = true ∧ testOnly = false ∧ ∃ new, type = some new ∧ validateInput new = .ok () ∧
        next = { negotiation with input := some new } := by
  unfold setInput at h
  split at h
  · cases h
    exact Or.inl ⟨rfl, Or.inl rfl, Or.inr rfl⟩
  · next new =>
    split at h
    · cases h
    · next hv =>
      split at h
      · next ht =>
        cases h
        exact Or.inl ⟨rfl, Or.inr ht, Or.inl rfl⟩
      · next ht =>
        cases h
        exact Or.inr ⟨rfl, Bool.eq_false_iff.mpr ht, new, rfl, hv, rfl⟩

theorem setOutput_eq_ok (h : negotiation.setOutput type testOnly = .ok (committed, next)) :
    committed = false ∧ (type = none ∨ testOnly = true) ∧
        (next = negotiation ∨ next = { negotiation with output := none }) ∨
      committed = true ∧ testOnly = false ∧ ∃ new, type = some new ∧
        negotiation.validateOutput new = .ok () ∧
        next = { negotiation with output := some new, suggested := none } := by
  unfold setOutput at h
  split at h
  · cases h
  · split at h
    · cases h
      exact Or.inl ⟨rfl, Or.inl rfl, Or.inr rfl⟩
    · next new =>
      split at h
      · cases h
      · next hv =>
        split at h
        · next ht =>
          cases h
          exact Or.inl ⟨rfl, Or.inr ht, Or.inl rfl⟩
        · next ht =>
          cases h
          exact Or.inr ⟨rfl, Bool.eq_false_iff.mpr ht, new, rfl, hv, rfl⟩

/-- Whether all committed types were committed before. -/
structure Within (after before : Negotiation) : Prop where
  input : ∀ type, after.input = some type → before.input = some type
  output : ∀ type, after.output = some type → before.output = some type

theorem Within.refl (negotiation : Negotiation) : negotiation.Within negotiation :=
  ⟨fun _ => id, fun _ => id⟩

theorem within_of_setInput (h : negotiation.setInput type testOnly = .ok (false, next)) :
    next.Within negotiation := by
  rcases setInput_eq_ok h with ⟨-, -, rfl | rfl⟩ | ⟨hc, -⟩
  · exact .refl _
  · exact ⟨nofun, fun _ => id⟩
  · cases hc

theorem within_of_setOutput (h : negotiation.setOutput type testOnly = .ok (false, next)) :
    next.Within negotiation := by
  rcases setOutput_eq_ok h with ⟨-, -, rfl | rfl⟩ | ⟨hc, -⟩
  · exact .refl _
  · exact ⟨fun _ => id, nofun⟩
  · cases hc

end Negotiation

namespace Pipeline

variable {σ : Type}

/-! ## The invariant -/

/-- Stored types agree with those of a session. The frame size of the output type may differ while
the session has a change that the host has not seen. -/
structure Agrees (negotiation : Negotiation) (session : Session σ) : Prop where
  input : ∀ type, negotiation.input = some type → type = session.input
  output : ∀ type, negotiation.output = some type → type.SameButFrameSize session.output
  output_eq : ∀ type, negotiation.output = some type → session.sizeChanged = false →
    type = session.output

/-- What is true of every pipeline that a host can bring about. -/
structure Consistent (pipeline : Pipeline σ) : Prop where
  session_of_busy : pipeline.draining = true ∨ pipeline.formatChanging = true →
    pipeline.session.isSome = true
  session_of_shutDown : pipeline.isShutDown = true → pipeline.session = none
  negotiation_of_shutDown : pipeline.isShutDown = true → pipeline.negotiation = .empty
  agrees : ∀ session, pipeline.session = some session → pipeline.formatChanging = false →
    Agrees pipeline.negotiation session

namespace Agrees

variable {negotiation next : Negotiation} {session later : Session σ}

theorem within (h : Agrees negotiation session) (hn : next.Within negotiation) :
    Agrees next session where
  input type ht := h.input type (hn.input type ht)
  output type ht := h.output type (hn.output type ht)
  output_eq type ht := h.output_eq type (hn.output type ht)

theorem continues (h : Agrees negotiation session) (hs : session.Continues later) :
    Agrees negotiation later where
  input type ht := (h.input type ht).trans hs.input.symm
  output type ht := (h.output type ht).trans hs.output.symm
  output_eq type ht hc := by
    rw [h.output_eq type ht (hs.sizeChanged_eq_false hc), hs.output_eq hc]

theorem create [Engine σ] {registry : EngineRegistry σ} {input output : MediaType}
    (hi : negotiation.input = some input) (ho : negotiation.output = some output)
    (h : Session.create registry input output = .ok session) : Agrees negotiation session := by
  obtain ⟨settings, engine, renderer, -, -, rfl⟩ := Session.eq_of_create h
  refine continues ?_ (Session.continues_noteFrameSize _)
  refine ⟨?_, ?_, ?_⟩
  · intro type ht
    exact Option.some.inj (ht.symm.trans hi)
  · intro type ht
    rw [Option.some.inj (ht.symm.trans ho)]
    exact .refl _
  · intro type ht _
    exact Option.some.inj (ht.symm.trans ho)

end Agrees

namespace Consistent

variable {pipeline next : Pipeline σ}

theorem not_shutDown (h : pipeline.Consistent) (hs : pipeline.session.isSome = true) :
    pipeline.isShutDown = false := by
  cases hrun : pipeline.isShutDown with
  | false => rfl
  | true =>
    rw [h.session_of_shutDown hrun] at hs
    cases hs

theorem new (registry : EngineRegistry σ) (config : PipelineConfig) :
    (Pipeline.new registry config).Consistent where
  session_of_busy h := by rcases h with h | h <;> cases h
  session_of_shutDown h := by cases h
  negotiation_of_shutDown h := by cases h
  agrees _ hs := by cases hs

/-- A pipeline that runs is consistent if its session is where it must be and has the types. -/
theorem of_running (hrun : pipeline.isShutDown = false)
    (hb : pipeline.draining = true ∨ pipeline.formatChanging = true →
      pipeline.session.isSome = true)
    (ha : ∀ session, pipeline.session = some session → pipeline.formatChanging = false →
      Agrees pipeline.negotiation session) : pipeline.Consistent where
  session_of_busy := hb
  session_of_shutDown h := by cases hrun.symm.trans h
  negotiation_of_shutDown h := by cases hrun.symm.trans h
  agrees := ha

theorem continue_session (h : pipeline.Consistent) {session later : Session σ}
    (hs : pipeline.session = some session) (hl : session.Continues later) :
    Consistent { pipeline with session := some later } := by
  have hrun : pipeline.isShutDown = false := h.not_shutDown (by rw [hs]; rfl)
  refine of_running hrun (fun _ => rfl) ?_
  intro session' hs' hf
  cases hs'
  exact (h.agrees session hs hf).continues hl

theorem withNegotiation (h : pipeline.Consistent) (hrun : pipeline.isShutDown = false)
    {committed : Bool} {negotiation : Negotiation}
    (hn : committed = false → negotiation.Within pipeline.negotiation) :
    (pipeline.withNegotiation committed negotiation).Consistent := by
  obtain ⟨mode, hw⟩ := withNegotiation_eq pipeline committed negotiation
  rw [hw]
  refine of_running hrun ?_ ?_
  · rintro (hd | hf)
    · exact h.session_of_busy (Or.inl hd)
    · rcases Bool.or_eq_true_iff.mp hf with hf | hc
      · exact h.session_of_busy (Or.inr hf)
      · exact (Bool.and_eq_true_iff.mp hc).2
  · intro session hs hf
    obtain ⟨hf, hc⟩ := Bool.or_eq_false_iff.mp hf
    have hs : pipeline.session = some session := hs
    rw [hs, Option.isSome_some, Bool.and_true] at hc
    exact (h.agrees session hs hf).within (hn hc)

theorem settle (h : pipeline.Consistent) : pipeline.settle.Consistent := by
  by_cases hq : pipeline.queue = []
  · rw [settle_of_empty hq]
    refine ⟨?_, ?_, h.negotiation_of_shutDown, ?_⟩
    · rintro (hb | hb) <;> cases hb
    · intro hd
      dsimp only
      rw [h.session_of_shutDown hd, ite_self]
    · intro session hs _
      cases hf : pipeline.formatChanging with
      | true =>
        simp only [hf, if_true, reduceCtorEq] at hs
      | false =>
        simp only [hf, Bool.false_eq_true, if_false] at hs
        exact h.agrees session hs hf
  · rw [settle_of_samples hq]
    exact h

/-- An elementary change leaves a consistent pipeline consistent. -/
theorem change [Engine σ] (h : pipeline.Consistent) (hc : Change pipeline next) :
    next.Consistent := by
  cases hc with
  | act call hcall hs => exact h.continue_session hs (Session.continues_step _ hcall)
  | openSession hrun hd hf hs hi ho hcreate =>
    refine of_running hrun (fun _ => rfl) ?_
    intro session' hs' _
    cases hs'
    exact .create hi ho hcreate
  | setPacket packet => exact ⟨h.1, h.2, h.3, h.4⟩
  | setInput hrun hn =>
    apply h.withNegotiation hrun
    rintro rfl
    exact Negotiation.within_of_setInput hn
  | setOutput hrun hn =>
    apply h.withNegotiation hrun
    rintro rfl
    exact Negotiation.within_of_setOutput hn
  | announce hs hc =>
    have hrun : pipeline.isShutDown = false := h.not_shutDown (by rw [hs]; rfl)
    refine of_running hrun (fun _ => rfl) ?_
    intro session' hs' hf
    cases hs'
    -- the announcement clears the stored output type
    exact ⟨(h.agrees _ hs hf).input, nofun, nofun⟩
  | settle => exact h.settle
  | setMode mode => exact ⟨h.1, h.2, h.3, h.4⟩
  | drain hs =>
    exact of_running (h.not_shutDown hs) (fun _ => hs) h.agrees
  | shutdown =>
    unfold shutdown
    split
    · exact h
    · refine ⟨?_, fun _ => rfl, fun _ => rfl, ?_⟩
      · rintro (hb | hb) <;> cases hb
      · intro session hs
        cases hs

theorem run [Engine σ] (h : pipeline.Consistent) (calls : List Call) :
    (pipeline.run calls).2.Consistent :=
  (changes_run pipeline calls).property h fun hc hb => hb.change hc

end Consistent

/-! ## The shutdown and the current types -/

theorem isShutDown_of_change [Engine σ] {before after : Pipeline σ} (hc : Change before after)
    (h : before.isShutDown = true) : after.isShutDown = true := by
  cases hc with
  | settle =>
    unfold settle
    split <;> exact h
  | shutdown =>
    unfold shutdown
    rw [if_pos h]
    exact h
  | setInput hrun => cases hrun.symm.trans h
  | setOutput hrun => cases hrun.symm.trans h
  | _ => exact h

theorem isShutDown_shutdown (pipeline : Pipeline σ) : pipeline.shutdown.isShutDown = true := by
  unfold shutdown
  split
  · assumption
  · rfl

theorem isShutDown_run [Engine σ] (pipeline : Pipeline σ) {calls : List Call}
    (h : .shutdown ∈ calls) : (pipeline.run calls).2.isShutDown = true := by
  induction calls generalizing pipeline with
  | nil => cases h
  | cons call calls ih =>
    rw [run_cons]
    rcases List.mem_cons.mp h with rfl | h
    · exact (changes_run pipeline.shutdown calls).property (isShutDown_shutdown pipeline)
        isShutDown_of_change
    · exact ih _ h

theorem committed_eq_ok {type : Option MediaType} {current : MediaType}
    (h : committed type = .ok current) : type = some current := by
  unfold committed at h
  split at h
  · cases h
    rfl
  · cases h

theorem input_of_inputType {pipeline : Pipeline σ} {stream : UInt32} {type : MediaType}
    (h : pipeline.inputType stream = .ok type) : pipeline.negotiation.input = some type := by
  unfold inputType at h
  cases he : pipeline.enter stream with
  | error error => rw [he] at h; cases h
  | ok => rw [he] at h; exact committed_eq_ok h

theorem output_of_outputType {pipeline : Pipeline σ} {stream : UInt32} {type : MediaType}
    (h : pipeline.outputType stream = .ok type) : pipeline.negotiation.output = some type := by
  unfold outputType at h
  cases he : pipeline.enter stream with
  | error error => rw [he] at h; cases h
  | ok => rw [he] at h; exact committed_eq_ok h

/-- **Pipeline and session agree.** After every run a pipeline that drains or changes its format has
a session, a pipeline that was shut down has nothing left, and a session that does not wait for its
end has the stored types, up to a frame size that the host has not seen. So a session that takes
packets decodes for the types that the host sees. -/
theorem session_agrees_after_run [Engine σ] (registry : EngineRegistry σ)
    (config : PipelineConfig) (calls : List Call) :
    let pipeline := ((new registry config).run calls).2
    (pipeline.draining = true ∨ pipeline.formatChanging = true →
      pipeline.session.isSome = true) ∧
    (.shutdown ∈ calls →
      pipeline.session = none ∧ pipeline.negotiation = .empty ∧ pipeline.draining = false ∧
        pipeline.formatChanging = false) ∧
    ∀ session, pipeline.session = some session → pipeline.formatChanging = false →
      (∀ type, pipeline.negotiation.input = some type → type = session.input) ∧
      (∀ type, pipeline.negotiation.output = some type →
        type.SameButFrameSize session.output ∧
          (session.sizeChanged = false → type = session.output)) ∧
      (session.sizeChanged = false →
        (∀ type, pipeline.inputType 0 = .ok type → type = session.input) ∧
        ∀ type, pipeline.outputType 0 = .ok type → type = session.output) := by
  intro pipeline
  have h : pipeline.Consistent := (Consistent.new registry config).run calls
  refine ⟨h.session_of_busy, ?_, ?_⟩
  · intro hc
    have hrun : pipeline.isShutDown = true := isShutDown_run _ hc
    have hs : pipeline.session = none := h.session_of_shutDown hrun
    have hb : ¬ (pipeline.draining = true ∨ pipeline.formatChanging = true) := by
      intro hb
      have hsome := h.session_of_busy hb
      rw [hs] at hsome
      cases hsome
    rw [not_or, Bool.not_eq_true, Bool.not_eq_true] at hb
    exact ⟨hs, h.negotiation_of_shutDown hrun, hb⟩
  · intro session hs hf
    have ha := h.agrees session hs hf
    refine ⟨ha.input, fun type ht => ⟨ha.output type ht, ha.output_eq type ht⟩, ?_⟩
    intro hc
    exact ⟨fun type ht => ha.input type (input_of_inputType ht),
      fun type ht => ha.output_eq type (output_of_outputType ht) hc⟩

end Pipeline

end StreamDecode
