import Mathlib.Control.Monad.Basic
import StreamDecode.Proofs.Pipeline.Consistent

/-!
# The effects of a call

What a call does to a pipeline is told in two parts.

1. To the session: `demands` lists the operations that the call performs on it. If there is a session
   after the call, it is the one before, or a new one for the committed types, after these
   operations (`session_step`).
2. To the types: `event?` says whether the call commits a type or announces a format change, and
   `negotiation_step` what the stored types are then. A call without an event commits nothing.

`events` lists the events of a run.
-/

namespace StreamDecode

/-- What a message asks of the session. -/
def Message.demands : Message → List SessionCall
  | .startOfStream | .flush => [.flush]
  | .drain => [.flushInput]
  | _ => []

/-- What an answered pull has asked of the session. -/
def PullStatus.demand : PullStatus → SessionCall
  | .streamChange => .takeFormatChange
  | .delivered | .needMoreInput => .popSample

/-- What concerns the types: the host commits one, or a format change announces one. -/
inductive HostEvent where
  | inputCommitted (type : MediaType)
  | outputCommitted (type : MediaType)
  | streamChange (suggested : MediaType)
deriving DecidableEq

/-- The stored types after a call that has one event or none. -/
def Negotiation.Follows (after before : Negotiation) : Option HostEvent → Prop
  | none => after.Within before
  | some (.inputCommitted type) => after = { before with input := some type }
  | some (.outputCommitted type) => after = { before with output := some type, suggested := none }
  | some (.streamChange type) => after = { before with output := none, suggested := some type }

namespace Negotiation

variable {after before : Negotiation} {event : Option HostEvent} {type : MediaType}

theorem Follows.input (h : after.Follows before event) (ht : after.input = some type) :
    before.input = some type ∨ event = some (.inputCommitted type) := by
  unfold Follows at h
  split at h
  · exact Or.inl (h.input type ht)
  · subst h
    cases ht
    exact Or.inr rfl
  · subst h
    exact Or.inl ht
  · subst h
    exact Or.inl ht

theorem Follows.output (h : after.Follows before event) (ht : after.output = some type) :
    before.output = some type ∨ event = some (.outputCommitted type) := by
  unfold Follows at h
  split at h
  · exact Or.inl (h.output type ht)
  · subst h
    exact Or.inl ht
  · subst h
    cases ht
    exact Or.inr rfl
  · subst h
    cases ht

end Negotiation

namespace Pipeline

variable {σ : Type}

theorem session_of_settle {pipeline : Pipeline σ} {session : Session σ}
    (h : pipeline.settle.session = some session) : pipeline.session = some session := by
  by_cases hq : pipeline.queue = []
  · rw [settle_of_empty hq] at h
    cases hf : pipeline.formatChanging with
    | true => simp only [hf, if_true, reduceCtorEq] at h
    | false => simpa only [hf, Bool.false_eq_true, if_false] using h
  · rwa [settle_of_samples hq] at h

@[simp] theorem negotiation_settle (pipeline : Pipeline σ) :
    pipeline.settle.negotiation = pipeline.negotiation := by
  unfold settle
  split <;> rfl

@[simp] theorem registry_settle (pipeline : Pipeline σ) :
    pipeline.settle.registry = pipeline.registry := by
  unfold settle
  split <;> rfl

@[simp] theorem isShutDown_settle (pipeline : Pipeline σ) :
    pipeline.settle.isShutDown = pipeline.isShutDown := by
  unfold settle
  split <;> rfl

variable [Engine σ]

/-! ## The session -/

/-- What a call asks of the session. A pull takes a format change or, if there is none, a sample. -/
def demands (pipeline : Pipeline σ) : Call → List SessionCall
  | .push stream sample flags =>
    ((pipeline.submission? stream sample flags).map (SessionCall.decode ·.2)).toList
  | .pull slots => ((pipeline.pull slots).1.toOption.map PullStatus.demand).toList
  | .send message => if pipeline.isShutDown then [] else message.demands
  | _ => []

theorem demands_push (pipeline : Pipeline σ) (stream : UInt32) (sample : Sample)
    (flags : UInt32) :
    pipeline.demands (.push stream sample flags) =
      ((pipeline.submission? stream sample flags).map (SessionCall.decode ·.2)).toList := rfl

theorem demands_pull (pipeline : Pipeline σ) (slots : List OutputSlot) :
    pipeline.demands (.pull slots) =
      ((pipeline.pull slots).1.toOption.map PullStatus.demand).toList := rfl

theorem ensureSession_of_some {pipeline : Pipeline σ} {session : Session σ}
    (hs : pipeline.session = some session) : pipeline.ensureSession = .ok session := by
  unfold ensureSession
  rw [hs]

theorem session_flushQueue {pipeline : Pipeline σ} {later : Session σ}
    (h : pipeline.flushQueue.2.session = some later) :
    ∃ session, pipeline.session = some session ∧ later = session.flush.2 := by
  have hflush : ∀ {next : Session σ}, (pipeline.onSession Session.flush).2.session = some next →
      ∃ session, pipeline.session = some session ∧ next = session.flush.2 := by
    intro next hn
    unfold onSession at hn
    cases hs : pipeline.session with
    | none =>
      rw [hs] at hn
      cases hs.symm.trans hn
    | some session =>
      rw [hs] at hn
      exact ⟨session, rfl, (Option.some.inj hn).symm⟩
  unfold flushQueue at h
  split at h
  · next he =>
    rw [he] at hflush
    exact hflush (session_of_settle h)
  · exact hflush h

theorem session_startStream {pipeline : Pipeline σ} {later : Session σ}
    (h : pipeline.startStream.2.session = some later) :
    ∃ session, pipeline.session = some session ∧ later = session.flush.2 := by
  have hflush := @session_flushQueue σ _ pipeline
  unfold startStream at h
  split at h
  · next he =>
    rw [he] at hflush
    exact hflush h
  · exact hflush h

theorem session_drain {pipeline : Pipeline σ} {later : Session σ}
    (h : pipeline.drain.2.session = some later) :
    ∃ session, pipeline.session = some session ∧ later = session.flushInput.2 := by
  unfold drain onSession at h
  cases hs : pipeline.session with
  | none =>
    rw [hs] at h
    cases hs.symm.trans h
  | some session =>
    rw [hs] at h
    refine ⟨session, rfl, ?_⟩
    dsimp only at h
    split at h
    · next he =>
      obtain ⟨-, rfl⟩ := Prod.mk.inj he
      exact (Option.some.inj h).symm
    · exact (Option.some.inj h).symm

theorem session_send {pipeline : Pipeline σ} {message : Message} {later : Session σ}
    (h : (pipeline.send message).2.session = some later) :
    ∃ session, pipeline.session = some session ∧
      later = (session.run (pipeline.demands (.send message))).2 := by
  unfold send requireRunning at h
  unfold demands
  cases hrun : pipeline.isShutDown with
  | true =>
    rw [hrun] at h
    exact ⟨later, h, rfl⟩
  | false =>
    rw [hrun] at h
    cases message with
    | startOfStream => exact session_startStream h
    | flush => exact session_flushQueue h
    | drain => exact session_drain h
    | endOfStream stream =>
      cases he : pipeline.endStream stream with
      | error error =>
        simp only [he, Bool.false_eq_true, if_false] at h
        exact ⟨later, h, rfl⟩
      | ok next =>
        obtain ⟨mode, rfl⟩ := endStream_eq he
        simp only [he, Bool.false_eq_true, if_false] at h
        exact ⟨later, h, rfl⟩
    | beginStreaming => exact ⟨later, h, rfl⟩
    | endStreaming => exact ⟨later, h, rfl⟩
    | marker value => exact ⟨later, h, rfl⟩

theorem session_pull {pipeline : Pipeline σ} {slots : List OutputSlot} {later : Session σ}
    (h : (pipeline.pull slots).2.2.session = some later) :
    ∃ session, pipeline.session = some session ∧
      later = (session.run (pipeline.demands (.pull slots))).2 := by
  rw [demands_pull]
  rcases pull_cases pipeline slots with ⟨error, hp⟩ | ⟨slot, rfl, hslot, hrun⟩
  · rw [hp] at h ⊢
    exact ⟨later, h, rfl⟩
  · rw [pull_of_running hslot hrun] at h ⊢
    have h := session_of_settle h
    cases hs : pipeline.session with
    | none =>
      rw [deliver_of_none slot hs] at h
      cases hs.symm.trans h
    | some session =>
      refine ⟨session, rfl, ?_⟩
      cases hc : session.sizeChanged with
      | true =>
        rw [deliver_of_change slot hs hc] at h ⊢
        show later = session.takeFormatChange.2
        unfold Session.takeFormatChange
        rw [if_pos hc]
        exact (Option.some.inj h).symm
      | false =>
        cases hq : session.queue with
        | nil =>
          rw [deliver_of_empty slot hs hc hq] at h ⊢
          show later = session.popSample.2
          unfold Session.popSample
          rw [hq]
          exact Option.some.inj (h.symm.trans hs)
        | cons sample rest =>
          rw [deliver_of_sample slot hs hc hq] at h ⊢
          show later = session.popSample.2
          unfold Session.popSample
          rw [hq]
          exact (Option.some.inj h).symm

theorem session_push {pipeline : Pipeline σ} {stream flags : UInt32} {sample : Sample}
    {later : Session σ} (h : (pipeline.push stream sample flags).2.session = some later) :
    ∃ session, pipeline.ensureSession = .ok session ∧
      later = (session.run (pipeline.demands (.push stream sample flags))).2 := by
  rw [demands_push]
  rcases push_cases pipeline stream sample flags with
    ⟨hn, hp⟩ | ⟨-, session, packet, he, ⟨hn, hp⟩ | ⟨hs, hp⟩⟩
  · rw [hn]
    rw [hp] at h
    exact ⟨later, ensureSession_of_some h, rfl⟩
  · rw [hn]
    rw [hp] at h
    exact ⟨session, he, (Option.some.inj h).symm⟩
  · rw [hs]
    rw [hp] at h
    exact ⟨session, he, (Option.some.inj h).symm⟩

omit [Engine σ] in
theorem session_of_bind {pipeline next : Pipeline σ} {stream : UInt32}
    {result : Except MediaError (Bool × Negotiation)}
    (h : (do
      pipeline.enter stream
      let (committed, negotiation) ← result
      .ok (pipeline.withNegotiation committed negotiation)) = Except.ok next) :
    next.session = pipeline.session := by
  obtain ⟨-, committed, negotiation, -, rfl⟩ := eq_withNegotiation_of_bind h
  obtain ⟨mode, hw⟩ := withNegotiation_eq pipeline committed negotiation
  rw [hw]

/-- **The session after a call** is the one before, or a new one for the committed types, after the
operations that the call asks for. -/
theorem session_step {pipeline : Pipeline σ} {call : Call} {later : Session σ}
    (h : (pipeline.step call).2.session = some later) :
    ∃ session, pipeline.ensureSession = .ok session ∧
      later = (session.run (pipeline.demands call)).2 := by
  cases call with
  | push stream sample flags => exact session_push h
  | pull slots =>
    obtain ⟨session, hs, hl⟩ := session_pull h
    exact ⟨session, ensureSession_of_some hs, hl⟩
  | send message =>
    obtain ⟨session, hs, hl⟩ := session_send h
    exact ⟨session, ensureSession_of_some hs, hl⟩
  | setInputType stream type testOnly =>
    refine ⟨later, ensureSession_of_some ?_, rfl⟩
    rw [← h]
    show _ = (pipeline.replaceBy _).2.session
    cases hn : pipeline.setInputType stream type testOnly with
    | error error => rfl
    | ok next => exact (session_of_bind hn).symm
  | setOutputType stream type testOnly =>
    refine ⟨later, ensureSession_of_some ?_, rfl⟩
    rw [← h]
    show _ = (pipeline.replaceBy _).2.session
    cases hn : pipeline.setOutputType stream type testOnly with
    | error error => rfl
    | ok next => exact (session_of_bind hn).symm
  | shutdown =>
    have h : pipeline.shutdown.session = some later := h
    unfold shutdown at h
    split at h
    · exact ⟨later, ensureSession_of_some h, rfl⟩
    · cases h
  -- the queries
  | _ => exact ⟨later, ensureSession_of_some h, rfl⟩

theorem registry_of_change {before after : Pipeline σ} (hc : Change before after) :
    after.registry = before.registry := by
  cases hc with
  | setInput hrun hn =>
    obtain ⟨mode, hw⟩ := withNegotiation_eq before _ _
    rw [hw]
  | setOutput hrun hn =>
    obtain ⟨mode, hw⟩ := withNegotiation_eq before _ _
    rw [hw]
  | settle => exact registry_settle before
  | shutdown =>
    unfold shutdown
    split <;> rfl
  | _ => rfl

theorem registry_of_changes {before after : Pipeline σ} (h : Changes before after) :
    after.registry = before.registry :=
  h.property (P := fun next => next.registry = before.registry) rfl
    fun hc hb => (registry_of_change hc).trans hb

theorem registry_step (pipeline : Pipeline σ) (call : Call) :
    (pipeline.step call).2.registry = pipeline.registry :=
  registry_of_changes (changes_step pipeline call)

theorem registry_run (pipeline : Pipeline σ) (calls : List Call) :
    (pipeline.run calls).2.registry = pipeline.registry :=
  registry_of_changes (changes_run pipeline calls)

/-! ## The types -/

/-- The output type that the answer to a pull announces. -/
def announced? : Except MediaError PullStatus × List OutputSlot × Pipeline σ → Option MediaType
  | (.ok .streamChange, _, next) => next.negotiation.suggested
  | _ => none

/-- The event of a call, told by its answer: a commit that succeeds, or an announcement. -/
def event? (pipeline : Pipeline σ) (call : Call) : Option HostEvent :=
  match call with
  | .setInputType _ (some type) false =>
    match (pipeline.step call).1.result with
    | .ok _ => some (.inputCommitted type)
    | .error _ => none
  | .setOutputType _ (some type) false =>
    match (pipeline.step call).1.result with
    | .ok _ => some (.outputCommitted type)
    | .error _ => none
  | .pull slots => (announced? (pipeline.pull slots)).map .streamChange
  | _ => none

/-- The events of a run. -/
def events (pipeline : Pipeline σ) : List Call → List HostEvent
  | [] => []
  | call :: calls => (pipeline.event? call).toList ++ (pipeline.step call).2.events calls

omit [Engine σ] in
theorem negotiation_onSession (pipeline : Pipeline σ)
    (act : Session σ → Except MediaError Unit × Session σ) :
    (pipeline.onSession act).2.negotiation = pipeline.negotiation := by
  unfold onSession
  split <;> rfl

theorem negotiation_flushQueue (pipeline : Pipeline σ) :
    pipeline.flushQueue.2.negotiation = pipeline.negotiation := by
  have hflush := pipeline.negotiation_onSession Session.flush
  unfold flushQueue
  split
  · next he =>
    rw [he] at hflush
    exact (negotiation_settle _).trans hflush
  · exact hflush

theorem negotiation_startStream (pipeline : Pipeline σ) :
    pipeline.startStream.2.negotiation = pipeline.negotiation := by
  have hflush := pipeline.negotiation_flushQueue
  unfold startStream
  split
  · next he =>
    rw [he] at hflush
    exact hflush
  · exact hflush

theorem negotiation_drain (pipeline : Pipeline σ) :
    pipeline.drain.2.negotiation = pipeline.negotiation := by
  have hflush := pipeline.negotiation_onSession Session.flushInput
  unfold drain
  split
  · next he =>
    rw [he] at hflush
    exact hflush
  · exact hflush

theorem negotiation_send (pipeline : Pipeline σ) (message : Message) :
    (pipeline.send message).2.negotiation = pipeline.negotiation := by
  unfold send
  split
  · rfl
  · split
    · exact negotiation_startStream pipeline
    · split
      · next he =>
        obtain ⟨mode, rfl⟩ := endStream_eq he
        rfl
      · rfl
    · exact negotiation_drain pipeline
    · exact negotiation_flushQueue pipeline
    · rfl
    · rfl
    · rfl

theorem negotiation_push (pipeline : Pipeline σ) (stream : UInt32) (sample : Sample)
    (flags : UInt32) :
    (pipeline.push stream sample flags).2.negotiation = pipeline.negotiation := by
  rcases push_cases pipeline stream sample flags with
    ⟨-, hp⟩ | ⟨-, session, packet, -, ⟨-, hp⟩ | ⟨-, hp⟩⟩ <;> rw [hp]

omit [Engine σ] in
/-- Setting a type fails and changes nothing, or it stores what the negotiation makes of it. -/
theorem replaceBy_cases (pipeline : Pipeline σ) (stream : UInt32)
    (result : Except MediaError (Bool × Negotiation)) :
    (∃ error, pipeline.replaceBy (do
        pipeline.enter stream
        let (committed, negotiation) ← result
        .ok (pipeline.withNegotiation committed negotiation)) = (⟨.error error, []⟩, pipeline)) ∨
      ∃ committed negotiation, result = .ok (committed, negotiation) ∧
        pipeline.replaceBy (do
          pipeline.enter stream
          let (committed, negotiation) ← result
          .ok (pipeline.withNegotiation committed negotiation)) =
            (.ok .done, pipeline.withNegotiation committed negotiation) := by
  cases pipeline.enter stream with
  | error error => exact Or.inl ⟨error, rfl⟩
  | ok =>
    cases result with
    | error error => exact Or.inl ⟨error, rfl⟩
    | ok result => exact Or.inr ⟨result.1, result.2, rfl, rfl⟩

omit [Engine σ] in
theorem negotiation_withNegotiation (pipeline : Pipeline σ) (committed : Bool)
    (negotiation : Negotiation) :
    (pipeline.withNegotiation committed negotiation).negotiation = negotiation := by
  obtain ⟨mode, hw⟩ := withNegotiation_eq pipeline committed negotiation
  rw [hw]

/-- Setting the input type is a commit, or it is no event and commits nothing. -/
theorem setInputType_cases (pipeline : Pipeline σ) (stream : UInt32) (type : Option MediaType)
    (testOnly : Bool) :
    let call : Call := .setInputType stream type testOnly
    (pipeline.event? call = none ∧
      (pipeline.step call).2.negotiation.Within pipeline.negotiation) ∨
    ∃ new, pipeline.event? call = some (.inputCommitted new) ∧
      (pipeline.step call).2 = pipeline.withNegotiation true
        { pipeline.negotiation with input := some new } := by
  intro call
  have hcases := replaceBy_cases pipeline stream (pipeline.negotiation.setInput type testOnly)
  unfold event?
  rcases hcases with ⟨error, h⟩ | ⟨committed, negotiation, hn, h⟩
  · rw [show pipeline.step call = _ from h]
    rcases type with _ | new <;> cases testOnly <;> exact Or.inl ⟨rfl, .refl _⟩
  · rw [show pipeline.step call = _ from h]
    rcases Negotiation.setInput_eq_ok hn with ⟨rfl, htype, -⟩ | ⟨rfl, rfl, new, rfl, -, rfl⟩
    · have hevent := Negotiation.within_of_setInput hn
      rw [negotiation_withNegotiation]
      rcases htype with rfl | rfl
      · exact Or.inl ⟨rfl, hevent⟩
      · cases type <;> exact Or.inl ⟨rfl, hevent⟩
    · exact Or.inr ⟨new, rfl, rfl⟩

theorem setOutputType_cases (pipeline : Pipeline σ) (stream : UInt32) (type : Option MediaType)
    (testOnly : Bool) :
    let call : Call := .setOutputType stream type testOnly
    (pipeline.event? call = none ∧
      (pipeline.step call).2.negotiation.Within pipeline.negotiation) ∨
    ∃ new, pipeline.event? call = some (.outputCommitted new) ∧
      (pipeline.step call).2 = pipeline.withNegotiation true
        { pipeline.negotiation with output := some new, suggested := none } := by
  intro call
  have hcases := replaceBy_cases pipeline stream (pipeline.negotiation.setOutput type testOnly)
  unfold event?
  rcases hcases with ⟨error, h⟩ | ⟨committed, negotiation, hn, h⟩
  · rw [show pipeline.step call = _ from h]
    rcases type with _ | new <;> cases testOnly <;> exact Or.inl ⟨rfl, .refl _⟩
  · rw [show pipeline.step call = _ from h]
    rcases Negotiation.setOutput_eq_ok hn with ⟨rfl, htype, -⟩ | ⟨rfl, rfl, new, rfl, -, rfl⟩
    · have hevent := Negotiation.within_of_setOutput hn
      rw [negotiation_withNegotiation]
      rcases htype with rfl | rfl
      · exact Or.inl ⟨rfl, hevent⟩
      · cases type <;> exact Or.inl ⟨rfl, hevent⟩
    · exact Or.inr ⟨new, rfl, rfl⟩

/-- What a pull does to the types: nothing, unless it announces the format change of the session. -/
theorem pull_event_cases (pipeline : Pipeline σ) (slots : List OutputSlot) :
    (pipeline.event? (.pull slots) = none ∧
      (pipeline.pull slots).1 ≠ .ok .streamChange ∧
      (pipeline.pull slots).2.2.negotiation = pipeline.negotiation) ∨
    ∃ session, pipeline.session = some session ∧ session.sizeChanged = true ∧
      pipeline.event? (.pull slots) = some (.streamChange session.output) ∧
      (pipeline.pull slots).1 = .ok .streamChange ∧
      (pipeline.pull slots).2.2.negotiation =
        { pipeline.negotiation with output := none, suggested := some session.output } := by
  unfold event?
  rcases pull_cases pipeline slots with ⟨error, hp⟩ | ⟨slot, rfl, hslot, hrun⟩
  · dsimp only
    rw [hp]
    exact Or.inl ⟨rfl, nofun, rfl⟩
  · dsimp only
    rw [pull_of_running hslot hrun, negotiation_settle]
    cases hs : pipeline.session with
    | none =>
      rw [deliver_of_none slot hs]
      exact Or.inl ⟨rfl, nofun, rfl⟩
    | some session =>
      cases hc : session.sizeChanged with
      | true =>
        rw [deliver_of_change slot hs hc]
        refine Or.inr ⟨session, rfl, hc, ?_, rfl, rfl⟩
        exact congrArg (fun types => types.suggested.map HostEvent.streamChange)
          (negotiation_settle _)
      | false =>
        cases hq : session.queue with
        | nil =>
          rw [deliver_of_empty slot hs hc hq]
          exact Or.inl ⟨rfl, nofun, rfl⟩
        | cons sample rest =>
          rw [deliver_of_sample slot hs hc hq]
          exact Or.inl ⟨rfl, nofun, rfl⟩

/-- **The types after a call** are those before, changed by its event. -/
theorem negotiation_step (pipeline : Pipeline σ) (call : Call) :
    (pipeline.step call).2.negotiation.Follows pipeline.negotiation (pipeline.event? call) := by
  cases call with
  | setInputType stream type testOnly =>
    rcases setInputType_cases pipeline stream type testOnly with ⟨he, hn⟩ | ⟨new, he, hn⟩
    · rw [he]
      exact hn
    · rw [he, hn]
      exact negotiation_withNegotiation ..
  | setOutputType stream type testOnly =>
    rcases setOutputType_cases pipeline stream type testOnly with ⟨he, hn⟩ | ⟨new, he, hn⟩
    · rw [he]
      exact hn
    · rw [he, hn]
      exact negotiation_withNegotiation ..
  | pull slots =>
    show (pipeline.pull slots).2.2.negotiation.Follows _ _
    rcases pull_event_cases pipeline slots with ⟨he, -, hn⟩ | ⟨session, -, -, he, -, hn⟩
    · rw [he, hn]
      exact .refl _
    · rw [he, hn]
      rfl
  | push stream sample flags =>
    show (pipeline.push stream sample flags).2.negotiation.Within pipeline.negotiation
    rw [negotiation_push]
    exact .refl _
  | send message =>
    show (pipeline.send message).2.negotiation.Within pipeline.negotiation
    rw [negotiation_send]
    exact .refl _
  | shutdown =>
    show pipeline.shutdown.negotiation.Within pipeline.negotiation
    unfold shutdown
    split
    · exact .refl _
    · exact ⟨nofun, nofun⟩
  -- the queries
  | _ => exact .refl pipeline.negotiation

/-- An announcement takes the format change of the session; nothing else takes one. -/
theorem streamChange_cases (pipeline : Pipeline σ) (call : Call) :
    (∃ session, pipeline.session = some session ∧ session.sizeChanged = true ∧
      pipeline.event? call = some (.streamChange session.output) ∧
      pipeline.demands call = [.takeFormatChange]) ∨
    ((∀ type, pipeline.event? call ≠ some (.streamChange type)) ∧
      .takeFormatChange ∉ pipeline.demands call) := by
  cases call with
  | pull slots =>
    rw [demands_pull]
    rcases pull_event_cases pipeline slots with ⟨he, hp, -⟩ | ⟨session, hs, hc, he, hp, -⟩
    · refine Or.inr ⟨?_, ?_⟩
      · rw [he]
        exact nofun
      · cases hr : (pipeline.pull slots).1 with
        | error error => exact nofun
        | ok status =>
          cases status with
          | streamChange => exact absurd hr hp
          | delivered => simp [PullStatus.demand, Except.toOption]
          | needMoreInput => simp [PullStatus.demand, Except.toOption]
    · rw [hp]
      exact Or.inl ⟨session, hs, hc, he, rfl⟩
  | push stream sample flags =>
    rw [demands_push]
    refine Or.inr ⟨nofun, ?_⟩
    cases pipeline.submission? stream sample flags <;> simp
  | send message =>
    refine Or.inr ⟨nofun, ?_⟩
    unfold demands
    cases pipeline.isShutDown <;> cases message <;> simp [Message.demands]
  | setInputType stream type testOnly =>
    refine Or.inr ⟨?_, List.not_mem_nil⟩
    rcases setInputType_cases pipeline stream type testOnly with ⟨he, -⟩ | ⟨new, he, -⟩ <;>
      rw [he] <;> exact nofun
  | setOutputType stream type testOnly =>
    refine Or.inr ⟨?_, List.not_mem_nil⟩
    rcases setOutputType_cases pipeline stream type testOnly with ⟨he, -⟩ | ⟨new, he, -⟩ <;>
      rw [he] <;> exact nofun
  -- the queries and the shutdown
  | _ => exact Or.inr ⟨nofun, List.not_mem_nil⟩

end Pipeline

end StreamDecode
