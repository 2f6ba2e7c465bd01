import StreamDecode.Proofs.Pipeline.Handshake
import StreamDecode.Proofs.Pipeline.Lengths

/-!
# Committed types and the old session

While a pipeline changes its format, the samples of the old session are still pulled. The stored types
are already those for the next session, and the pulls leave them alone, with one exception: if the old
session has a change of the frame size that the host has not seen, the first pull announces it, and
the announcement clears the stored output type.

`HandsOver` says what has become of the types and of the old session after some pulls. Each pull keeps
it (`handsOver_pull`), and once the queue is empty the next push makes a session for the stored types,
or fails because there is no output type (`committed_types_after_pulls`).
-/

namespace StreamDecode

/-- Whether a pull has one slot, of stream `0`, as it must have. -/
def isServed : List OutputSlot → Bool
  | [slot] => slot.stream = 0
  | _ => false

theorem isServed_iff {slots : List OutputSlot} :
    isServed slots = true ↔ ∃ slot, slots = [slot] ∧ slot.stream = 0 := by
  unfold isServed
  split
  · simp
  · next hne =>
    constructor
    · intro h
      cases h
    · rintro ⟨slot, rfl, -⟩
      exact absurd rfl (hne slot)

namespace Session

theorem output_advance {σ : Type} (session : Session σ) :
    session.advance.output = session.output := by
  unfold advance
  split <;> rfl

end Session

namespace Pipeline

variable {σ : Type} [Engine σ] {before pipeline : Pipeline σ} {session : Session σ}

/-- The types after pulls in a format change with an old session. -/
def typesAfter (before : Pipeline σ) (session : Session σ) (served : Bool) : Negotiation :=
  if session.sizeChanged && served then
    { before.negotiation with output := none, suggested := some session.output }
  else before.negotiation

/-- What has become of a pipeline that changed its format with an old session, after pulls of which
some was served or none. -/
structure HandsOver (before : Pipeline σ) (session : Session σ) (served : Bool)
    (pipeline : Pipeline σ) : Prop where
  running : pipeline.isShutDown = false
  types : pipeline.negotiation = before.typesAfter session served
  present :
    (∃ later, pipeline.Held later ∧ pipeline.formatChanging = true ∧
      later.sizeChanged = (session.sizeChanged && !served) ∧ later.output = session.output ∧
      (served = true → later.queue ≠ [])) ∨
    (served = true ∧ pipeline.session = none ∧ pipeline.formatChanging = false ∧
      pipeline.draining = false)

omit [Engine σ] in
theorem negotiation_pull_of_held (h : pipeline.Held session) {slot : OutputSlot}
    (hslot : slot.stream = 0) :
    (pipeline.pull [slot]).2.2.negotiation =
      if session.sizeChanged then
        { pipeline.negotiation with output := none, suggested := some session.output }
      else pipeline.negotiation := by
  rw [pull_of_running hslot h.running, negotiation_settle]
  cases hc : session.sizeChanged with
  | true =>
    rw [deliver_of_change slot h.session_eq hc]
    rfl
  | false =>
    cases hq : session.queue with
    | nil =>
      rw [deliver_of_empty slot h.session_eq hc hq]
      rfl
    | cons sample rest =>
      rw [deliver_of_sample slot h.session_eq hc hq]
      rfl

theorem step_pull_of_not_served (pipeline : Pipeline σ) {slots : List OutputSlot}
    (hs : isServed slots = false) : (pipeline.step (.pull slots)).2 = pipeline := by
  show (pipeline.pull slots).2.2 = pipeline
  rcases pull_cases pipeline slots with ⟨error, hp⟩ | ⟨slot, rfl, hslot, -⟩
  · rw [hp]
  · rw [isServed_iff.mpr ⟨slot, rfl, hslot⟩] at hs
    cases hs

omit [Engine σ] in
theorem types_of_held {served : Bool} {later : Session σ} {negotiation : Negotiation}
    (ht : negotiation = before.typesAfter session served)
    (hc : later.sizeChanged = (session.sizeChanged && !served))
    (ho : later.output = session.output) :
    (if later.sizeChanged then
      { negotiation with output := none, suggested := some later.output }
    else negotiation) = before.typesAfter session true := by
  rw [ht, hc, ho]
  unfold typesAfter
  cases session.sizeChanged <;> cases served <;> rfl

theorem handsOver_pull {served : Bool} (h : before.HandsOver session served pipeline)
    (slots : List OutputSlot) :
    before.HandsOver session (served || isServed slots) (pipeline.step (.pull slots)).2 := by
  cases hs : isServed slots with
  | false =>
    rw [Bool.or_false, step_pull_of_not_served pipeline hs]
    exact h
  | true =>
    rw [Bool.or_true]
    obtain ⟨slot, rfl, hslot⟩ := isServed_iff.mp hs
    rcases h.present with ⟨later, hheld, hf, hc, ho, -⟩ | ⟨rfl, hnone, hf, hd⟩
    · -- the first pull that is served announces the change, and then there is none
      have htypes := (negotiation_pull_of_held hheld hslot).trans (types_of_held h.types hc ho)
      obtain ⟨next, hstep, hnext, hchanging⟩ := step_pull_of_held hheld hslot
      have hafter : (pipeline.pull [slot]).2.2 = next.settle := congrArg Prod.snd hstep
      rw [hafter] at htypes
      rw [hstep]
      refine ⟨(isShutDown_settle next).trans hnext.running, htypes, ?_⟩
      by_cases hq : later.advance.queue = []
      · have hreleased := released_settle hnext later.sizeChanged_advance hq
        rw [hchanging, hf] at hreleased
        exact Or.inr
          ⟨rfl, hreleased.session_eq, hreleased.formatChanging, hreleased.draining⟩
      · obtain ⟨hsettled, hkept⟩ := held_settle hnext hq
        refine Or.inl ⟨later.advance, hsettled, hkept.trans (hchanging.trans hf), ?_, ?_,
          fun _ => hq⟩
        · rw [later.sizeChanged_advance, Bool.not_true, Bool.and_false]
        · rw [later.output_advance, ho]
    · -- the session is gone already
      have hstep : (pipeline.step (.pull [slot])).2 = pipeline.settle := by
        show (pipeline.pull [slot]).2.2 = _
        rw [pull_of_running hslot h.running, deliver_of_none slot hnone]
      rw [hstep]
      refine ⟨(isShutDown_settle pipeline).trans h.running,
        (negotiation_settle pipeline).trans h.types, Or.inr ?_⟩
      rw [settle_of_empty (queue_of_none hnone), hnone, ite_self]
      exact ⟨rfl, rfl, rfl, rfl⟩

theorem handsOver_run {served : Bool} (h : before.HandsOver session served pipeline)
    (pulls : List (List OutputSlot)) :
    before.HandsOver session (served || pulls.any isServed)
      (pipeline.run (pulls.map .pull)).2 := by
  induction pulls generalizing pipeline served with
  | nil =>
    rw [List.any_nil, Bool.or_false]
    exact h
  | cons slots pulls ih =>
    rw [List.any_cons, ← Bool.or_assoc]
    exact ih (handsOver_pull h slots)

omit [Engine σ] in
theorem Held.handsOver (h : pipeline.Held session) (hf : pipeline.formatChanging = true) :
    pipeline.HandsOver session false pipeline where
  running := h.running
  types := by
    unfold typesAfter
    rw [Bool.and_false, if_neg Bool.false_ne_true]
  present := Or.inl ⟨session, h, hf, by rw [Bool.not_false, Bool.and_true], rfl, nofun⟩

/-! ## Commits -/

omit [Engine σ] in
theorem formatChanging_withNegotiation (hs : pipeline.session.isSome = true)
    (negotiation : Negotiation) :
    (pipeline.withNegotiation true negotiation).formatChanging = true := by
  obtain ⟨mode, hw⟩ := withNegotiation_eq pipeline true negotiation
  rw [hw, hs]
  exact Bool.or_true _

theorem formatChanging_of_commit (hs : pipeline.session.isSome = true) {call : Call}
    {type : MediaType} (he : pipeline.event? call = some (.inputCommitted type) ∨
      pipeline.event? call = some (.outputCommitted type)) :
    (pipeline.step call).2.formatChanging = true := by
  cases call with
  | setInputType stream new testOnly =>
    rcases setInputType_cases pipeline stream new testOnly with ⟨hn, -⟩ | ⟨new, -, hn⟩
    · rw [hn] at he
      rcases he with he | he <;> cases he
    · rw [hn]
      exact formatChanging_withNegotiation hs _
  | setOutputType stream new testOnly =>
    rcases setOutputType_cases pipeline stream new testOnly with ⟨hn, -⟩ | ⟨new, -, hn⟩
    · rw [hn] at he
      rcases he with he | he <;> cases he
    · rw [hn]
      exact formatChanging_withNegotiation hs _
  | pull slots =>
    rcases pull_event_cases pipeline slots with ⟨hn, -⟩ | ⟨session, -, -, hn, -⟩ <;>
      rw [hn] at he <;> rcases he with he | he <;> cases he
  | _ => rcases he with he | he <;> cases he

/-! ## The next push -/

section Push

variable {sample : Sample} {input output : MediaType}

/-- Without a session, a push makes one for the stored types, and the session decodes the packet. -/
theorem session_push_of_types (hs : pipeline.session = none)
    (ha : pipeline.Admits 0 sample 0) (hi : pipeline.negotiation.input = some input)
    (ho : pipeline.negotiation.output = some output) :
    (pipeline.push 0 sample 0).2.session =
      (Session.create pipeline.registry input output).toOption.map fun start =>
        (start.run (pipeline.demands (.push 0 sample 0))).2 := by
  have he : pipeline.ensureSession = Session.create pipeline.registry input output := by
    unfold ensureSession
    rw [hs, hi, ho]
    rfl
  rw [← he]
  cases hl : (pipeline.push 0 sample 0).2.session with
  | some later =>
    obtain ⟨session, hsession, rfl⟩ := session_push hl
    rw [hsession]
    rfl
  | none =>
    rw [push_of_admits ha] at hl
    cases hsession : pipeline.ensureSession with
    | error error => rfl
    | ok session =>
      rw [hsession] at hl
      unfold decodeSample at hl
      dsimp only at hl
      split at hl <;> cases hl

theorem push_of_no_types (hs : pipeline.session = none) (ha : pipeline.Admits 0 sample 0)
    (hn : pipeline.negotiation.input = none ∨ pipeline.negotiation.output = none) :
    pipeline.push 0 sample 0 = (.error .typeNotSet, pipeline) := by
  rw [push_of_admits ha]
  unfold ensureSession
  rw [hs]
  rcases hn with hn | hn
  · rw [hn]
    rfl
  · rw [hn]
    cases pipeline.negotiation.input <;> rfl

end Push

/-- **Commits during a session.** A commit begins a format change if there is a session. In a format
change, pulls leave the stored types alone, unless the session has a change of the frame size that the
host has not seen: the first pull with the right arguments announces that change and clears the output
type. When the queue has been pulled empty, the session is gone. The next push that brings data makes a
session for the types that were stored before the pulls; if one of them is missing or has been cleared
by the announcement, it fails. -/
theorem committed_types_after_pulls (registry : EngineRegistry σ) (config : PipelineConfig)
    (calls : List Call) :
    let pipeline := ((new registry config).run calls).2
    (∀ call type, pipeline.session.isSome = true →
      (pipeline.event? call = some (.inputCommitted type) ∨
        pipeline.event? call = some (.outputCommitted type)) →
      (pipeline.step call).2.formatChanging = true) ∧
    (pipeline.formatChanging = true → ∃ session, pipeline.session = some session ∧
      (session.sizeChanged = true → ∀ slot : OutputSlot, slot.stream = 0 →
        (pipeline.step (.pull [slot])).1 = PullOutcome.streamChange.answer slot) ∧
      ∀ pulls : List (List OutputSlot),
        let after := (pipeline.run (pulls.map .pull)).2
        (session.sizeChanged = false → after.negotiation = pipeline.negotiation) ∧
        (session.sizeChanged = true → after.negotiation =
          if pulls.any isServed then
            { pipeline.negotiation with output := none, suggested := some session.output }
          else pipeline.negotiation) ∧
        (pulls.any isServed = true → after.queue = [] →
          after.session = none ∧ after.draining = false ∧ after.formatChanging = false ∧
          ∀ sample : Sample, sample.data.isEmpty = false →
            (∀ input output, session.sizeChanged = false →
              pipeline.negotiation.input = some input →
              pipeline.negotiation.output = some output →
              (after.push 0 sample 0).2.session =
                (Session.create registry input output).toOption.map fun start =>
                  (start.run (after.demands (.push 0 sample 0))).2) ∧
            (session.sizeChanged = true ∨ pipeline.negotiation.input = none ∨
                pipeline.negotiation.output = none →
              after.push 0 sample 0 = (.error .typeNotSet, after)))) := by
  intro pipeline
  refine ⟨fun call type hs he => formatChanging_of_commit hs he, ?_⟩
  intro hf
  obtain ⟨session, hheld⟩ := ((Consistent.new registry config).run calls).held (Or.inr hf)
  refine ⟨session, hheld.session_eq, ?_, ?_⟩
  · intro hc slot hslot
    obtain ⟨next, hstep, -⟩ := step_pull_of_held hheld hslot
    rw [hstep, Session.waiting_of_change hc]
    rfl
  intro pulls after
  have h : pipeline.HandsOver session (pulls.any isServed) after :=
    handsOver_run (hheld.handsOver hf) pulls
  have htypes := h.types
  unfold typesAfter at htypes
  refine ⟨?_, ?_, ?_⟩
  · intro hc
    rw [htypes, hc]
    rfl
  · intro hc
    rw [htypes, hc, Bool.true_and]
  · intro hserved hq
    rcases h.present with ⟨later, hlater, -, -, -, hleft⟩ | ⟨-, hnone, hchanging, hdraining⟩
    · rw [queue_of_some hlater.session_eq] at hq
      exact absurd hq (hleft hserved)
    refine ⟨hnone, hdraining, hchanging, ?_⟩
    intro sample hdata
    have hadmits : after.Admits 0 sample 0 :=
      ⟨rfl, rfl, h.running, hdata, hdraining, hchanging⟩
    have hregistry : after.registry = registry :=
      (registry_run _ _).trans (registry_run _ calls)
    refine ⟨?_, ?_⟩
    · intro input output hc hi ho
      have hsame : after.negotiation = pipeline.negotiation := by
        rw [htypes, hc]
        rfl
      rw [← hregistry]
      exact session_push_of_types hnone hadmits (by rw [hsame, hi]) (by rw [hsame, ho])
    · intro hmissing
      refine push_of_no_types hnone hadmits ?_
      rw [htypes, hserved, Bool.and_true]
      cases hc : session.sizeChanged with
      | true => exact Or.inr rfl
      | false =>
        rw [hc] at hmissing
        exact hmissing.resolve_left Bool.false_ne_true

/-! ### Commits behind a picture -/

/-- After the first packet the host asks for larger pictures. -/
def openPushAndCommit : List Call :=
  openAndPush ++ [.setOutputType 0 (some (.video .nv12 ⟨6, 6⟩)) false]

/-- The picture has the size that the host was told: it is pulled, and the next session is made for the
committed type. -/
theorem committed_types_after_pulls_kept :
    let pipeline := ((grayPipeline [Session.grayOutput ⟨2, 2⟩]).run openPushAndCommit).2
    let after := (pipeline.run [.pull [.empty]]).2
    let sample : Sample := ⟨#[1], 1, 1⟩
    pipeline.formatChanging = true ∧ after.negotiation = pipeline.negotiation ∧
      ∃ start, Session.create (Session.grayRegistry ⟨2, 2⟩ [Session.grayOutput ⟨2, 2⟩])
          (.video .h264 ⟨2, 2⟩) (.video .nv12 ⟨6, 6⟩) = .ok start ∧
        (after.push 0 sample 0).2.session =
          some (start.run (after.demands (.push 0 sample 0))).2 := by
  intro pipeline after sample
  have hf : pipeline.formatChanging = true := by decide +kernel
  obtain ⟨session, hs, -, h⟩ := (committed_types_after_pulls
    (Session.grayRegistry ⟨2, 2⟩ [Session.grayOutput ⟨2, 2⟩]) .standard openPushAndCommit).2 hf
  have hc : pipeline.session.map Session.sizeChanged = some false := by decide +kernel
  rw [show pipeline.session = some session from hs, Option.map_some, Option.some.injEq] at hc
  obtain ⟨hsame, -, hnext⟩ := h [[.empty]]
  obtain ⟨-, -, -, hpush⟩ := hnext rfl (by decide +kernel)
  have hsession := (hpush sample rfl).1 (.video .h264 ⟨2, 2⟩) (.video .nv12 ⟨6, 6⟩) hc
    (by decide +kernel) (by decide +kernel)
  exact ⟨hf, hsame hc, _, rfl, hsession⟩

/-- The picture is larger than the host was told: the pull that announces it clears the committed type,
and the next push fails. -/
theorem committed_output_cleared :
    let pipeline := ((grayPipeline [Session.grayOutput ⟨4, 4⟩]).run openPushAndCommit).2
    let after := (pipeline.run [.pull [.empty], .pull [.empty]]).2
    pipeline.formatChanging = true ∧
      pipeline.negotiation.output = some (.video .nv12 ⟨6, 6⟩) ∧
      (pipeline.step (.pull [.empty])).2.negotiation.output = none ∧
      after.queue = [] ∧ after.session.isNone = true ∧
      (after.push 0 ⟨#[1], 1, 1⟩ 0).1 = .error .typeNotSet := by
  intro pipeline after
  refine ⟨?_, ?_, ?_, ?_, ?_, ?_⟩ <;> decide +kernel

end Pipeline

end StreamDecode
