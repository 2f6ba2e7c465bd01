import Mathlib.Logic.Relation
import StreamDecode.Proofs.Pipeline.Flow
import StreamDecode.Proofs.Session.Run

/-!
# What a call changes

`Change` lists the elementary changes of a pipeline, and every call is a sequence of them
(`changes_step`). A property that each elementary change keeps is therefore kept by every run
(`Changes.property`); an invariant is proved by looking at ten changes and not at twenty calls.
-/

namespace StreamDecode

namespace Pipeline

variable {σ : Type} [Engine σ]

/-! ## Runs -/

@[simp] theorem run_nil (pipeline : Pipeline σ) : pipeline.run [] = ([], pipeline) := rfl

@[simp] theorem run_cons (pipeline : Pipeline σ) (call : Call) (calls : List Call) :
    pipeline.run (call :: calls) =
      ((pipeline.step call).1 :: ((pipeline.step call).2.run calls).1,
        ((pipeline.step call).2.run calls).2) := rfl

theorem run_append (pipeline : Pipeline σ) (calls later : List Call) :
    pipeline.run (calls ++ later) =
      ((pipeline.run calls).1 ++ ((pipeline.run calls).2.run later).1,
        ((pipeline.run calls).2.run later).2) := by
  induction calls generalizing pipeline with
  | nil => rfl
  | cons call calls ih => rw [List.cons_append, run_cons, ih, run_cons, List.cons_append]

theorem length_run (pipeline : Pipeline σ) (calls : List Call) :
    (pipeline.run calls).1.length = calls.length := by
  induction calls generalizing pipeline with
  | nil => rfl
  | cons call calls ih => rw [run_cons, List.length_cons, ih, List.length_cons]

/-! ## Elementary changes -/

/-- An elementary change: the session acts or is made, a packet is filled, a type is set, a format
change is announced, the queue is found empty or not, the mode is set, draining begins, or the
pipeline is shut down. -/
inductive Change : Pipeline σ → Pipeline σ → Prop
  | act {pipeline : Pipeline σ} {session : Session σ} (call : SessionCall)
      (hc : call ≠ .takeFormatChange) (hs : pipeline.session = some session) :
      Change pipeline { pipeline with session := some (session.step call).2 }
  | openSession {pipeline : Pipeline σ} {session : Session σ} {input output : MediaType}
      (hrun : pipeline.isShutDown = false) (hd : pipeline.draining = false)
      (hf : pipeline.formatChanging = false) (hs : pipeline.session = none)
      (hi : pipeline.negotiation.input = some input)
      (ho : pipeline.negotiation.output = some output)
      (hc : Session.create pipeline.registry input output = .ok session) :
      Change pipeline { pipeline with session := some session }
  | setPacket (pipeline : Pipeline σ) (packet : Packet) :
      Change pipeline { pipeline with packet := packet }
  | setInput {pipeline : Pipeline σ} {type : Option MediaType} {testOnly committed : Bool}
      {negotiation : Negotiation} (hrun : pipeline.isShutDown = false)
      (hn : pipeline.negotiation.setInput type testOnly = .ok (committed, negotiation)) :
      Change pipeline (pipeline.withNegotiation committed negotiation)
  | setOutput {pipeline : Pipeline σ} {type : Option MediaType} {testOnly committed : Bool}
      {negotiation : Negotiation} (hrun : pipeline.isShutDown = false)
      (hn : pipeline.negotiation.setOutput type testOnly = .ok (committed, negotiation)) :
      Change pipeline (pipeline.withNegotiation committed negotiation)
  | announce {pipeline : Pipeline σ} {session : Session σ}
      (hs : pipeline.session = some session) (hc : session.sizeChanged = true) :
      Change pipeline (pipeline.announce { session with sizeChanged := false } session.output)
  | settle (pipeline : Pipeline σ) : Change pipeline pipeline.settle
  | setMode (pipeline : Pipeline σ) (mode : StreamMode) :
      Change pipeline { pipeline with mode := mode }
  | drain {pipeline : Pipeline σ} (hs : pipeline.session.isSome = true) :
      Change pipeline { pipeline with draining := true }
  | shutdown (pipeline : Pipeline σ) : Change pipeline pipeline.shutdown

/-- A sequence of elementary changes. -/
abbrev Changes : Pipeline σ → Pipeline σ → Prop := Relation.ReflTransGen Change

/-! ## Calls -/

omit [Engine σ] in
theorem eq_withNegotiation_of_bind {pipeline next : Pipeline σ} {stream : UInt32}
    {result : Except MediaError (Bool × Negotiation)}
    (h : (do
      pipeline.enter stream
      let (committed, negotiation) ← result
      .ok (pipeline.withNegotiation committed negotiation)) = Except.ok next) :
    pipeline.isShutDown = false ∧ ∃ committed negotiation,
      result = .ok (committed, negotiation) ∧
        next = pipeline.withNegotiation committed negotiation := by
  cases he : pipeline.enter stream with
  | error error => rw [he] at h; cases h
  | ok =>
    cases result with
    | error error => rw [he] at h; cases h
    | ok result =>
      rw [he] at h
      cases h
      exact ⟨(enter_eq_ok_iff.mp he).2, result.1, result.2, rfl, rfl⟩

theorem changes_setInputType (pipeline : Pipeline σ) (stream : UInt32) (type : Option MediaType)
    (testOnly : Bool) :
    Changes pipeline (pipeline.step (.setInputType stream type testOnly)).2 := by
  show Changes pipeline (pipeline.replaceBy _).2
  cases h : pipeline.setInputType stream type testOnly with
  | error error => exact .refl
  | ok next =>
    obtain ⟨hrun, committed, negotiation, hn, rfl⟩ := eq_withNegotiation_of_bind h
    exact .single (.setInput hrun hn)

theorem changes_setOutputType (pipeline : Pipeline σ) (stream : UInt32) (type : Option MediaType)
    (testOnly : Bool) :
    Changes pipeline (pipeline.step (.setOutputType stream type testOnly)).2 := by
  show Changes pipeline (pipeline.replaceBy _).2
  cases h : pipeline.setOutputType stream type testOnly with
  | error error => exact .refl
  | ok next =>
    obtain ⟨hrun, committed, negotiation, hn, rfl⟩ := eq_withNegotiation_of_bind h
    exact .single (.setOutput hrun hn)

theorem changes_flushQueue (pipeline : Pipeline σ) : Changes pipeline pipeline.flushQueue.2 := by
  have hflush : Changes pipeline (pipeline.onSession Session.flush).2 := by
    unfold onSession
    split
    · exact .refl
    · next hs => exact .single (.act .flush nofun hs)
  unfold flushQueue
  split
  · next h =>
    rw [h] at hflush
    exact hflush.tail (.settle _)
  · exact hflush

theorem changes_startStream (pipeline : Pipeline σ) : Changes pipeline pipeline.startStream.2 := by
  have hflush := changes_flushQueue pipeline
  unfold startStream
  split
  · next h =>
    rw [h] at hflush
    exact hflush.tail (.setMode _ _)
  · exact hflush

theorem changes_drain (pipeline : Pipeline σ) : Changes pipeline pipeline.drain.2 := by
  unfold drain onSession
  cases hs : pipeline.session with
  | none =>
    have hd : { pipeline with draining := pipeline.draining || pipeline.session.isSome } =
        pipeline := by
      rw [hs, Option.isSome_none, Bool.or_false, ← hs]
    dsimp only
    rw [hd]
  | some session =>
    have hflush : Changes pipeline { pipeline with session := some session.flushInput.2 } :=
      .single (.act .flushInput nofun hs)
    dsimp only
    cases h : session.flushInput with
    | mk result after =>
      rw [h] at hflush
      cases result with
      | error error => exact hflush
      | ok =>
        show Changes pipeline
          { pipeline with session := some after, draining := pipeline.draining || true }
        rw [Bool.or_true]
        exact hflush.tail (.drain rfl)

theorem changes_send (pipeline : Pipeline σ) (message : Message) :
    Changes pipeline (pipeline.send message).2 := by
  unfold send
  split
  · exact .refl
  · split
    · exact changes_startStream pipeline
    · next stream =>
      unfold endStream
      cases requireStream stream with
      | error error => exact .refl
      | ok =>
        show Changes pipeline (if pipeline.mode = .streaming then
          refreshMode { pipeline with mode := .idle } else pipeline)
        split
        · unfold refreshMode
          rw [if_neg (by exact nofun)]
          exact .single (.setMode _ _)
        · exact .refl
    · exact changes_drain pipeline
    · exact changes_flushQueue pipeline
    · exact .refl
    · exact .refl
    · exact .refl

theorem changes_push (pipeline : Pipeline σ) (stream : UInt32) (sample : Sample)
    (flags : UInt32) : Changes pipeline (pipeline.push stream sample flags).2 := by
  rcases push_cases pipeline stream sample flags with
    ⟨-, hp⟩ | ⟨⟨-, -, hrun, -, hd, hf⟩, session, packet, he, h⟩
  · rw [hp]
  · have hopen : Changes pipeline { pipeline with session := some session } := by
      rcases ensureSession_eq_ok he with hs | ⟨hs, input, output, hi, ho, hc⟩
      · rw [← hs]
      · exact .single (.openSession hrun hd hf hs hi ho hc)
    have hfill := hopen.tail (.setPacket _ packet)
    rcases h with ⟨-, hp⟩ | ⟨-, hp⟩
    · rw [hp]
      exact hfill
    · rw [hp]
      exact hfill.tail (.act (.decode packet) nofun rfl)

theorem changes_pull (pipeline : Pipeline σ) (slots : List OutputSlot) :
    Changes pipeline (pipeline.pull slots).2.2 := by
  rcases pull_cases pipeline slots with ⟨error, h⟩ | ⟨slot, rfl, hslot, hrun⟩
  · rw [h]
  · rw [pull_of_running hslot hrun]
    refine Relation.ReflTransGen.tail ?_ (.settle _)
    cases hs : pipeline.session with
    | none => rw [deliver_of_none slot hs]
    | some session =>
      cases hc : session.sizeChanged with
      | true =>
        rw [deliver_of_change slot hs hc]
        exact .single (.announce hs hc)
      | false =>
        cases hq : session.queue with
        | nil => rw [deliver_of_empty slot hs hc hq]
        | cons sample rest =>
          rw [deliver_of_sample slot hs hc hq]
          have hpop : (session.step .popSample).2 = { session with queue := rest } := by
            show session.popSample.2 = _
            unfold Session.popSample
            rw [hq]
          rw [← hpop]
          exact .single (.act .popSample nofun hs)

/-- Every call is a sequence of elementary changes. -/
theorem changes_step (pipeline : Pipeline σ) (call : Call) :
    Changes pipeline (pipeline.step call).2 := by
  cases call with
  | setInputType stream type testOnly => exact changes_setInputType pipeline stream type testOnly
  | setOutputType stream type testOnly =>
    exact changes_setOutputType pipeline stream type testOnly
  | send message => exact changes_send pipeline message
  | push stream sample flags => exact changes_push pipeline stream sample flags
  | pull slots => exact changes_pull pipeline slots
  | shutdown => exact .single (.shutdown pipeline)
  -- the queries
  | _ => exact .refl

theorem changes_run (pipeline : Pipeline σ) (calls : List Call) :
    Changes pipeline (pipeline.run calls).2 := by
  induction calls generalizing pipeline with
  | nil => exact .refl
  | cons call calls ih => exact (changes_step pipeline call).trans (ih _)

/-- What each elementary change keeps is kept by every sequence of them. -/
theorem Changes.property {P : Pipeline σ → Prop} {pipeline next : Pipeline σ}
    (h : Changes pipeline next) (hP : P pipeline)
    (keeps : ∀ {before after : Pipeline σ}, Change before after → P before → P after) :
    P next := by
  induction h with
  | refl => exact hP
  | tail _ hc ih => exact keeps hc ih

end Pipeline

end StreamDecode
