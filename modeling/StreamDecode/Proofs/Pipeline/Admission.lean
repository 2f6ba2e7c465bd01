import StreamDecode.Proofs.Pipeline.Refusals

/-!
# What the input status says about the next push

A session refuses a packet exactly while it has an unread change (`decode_eq_notAccepting_iff`), and
so a pipeline does not take a sample exactly while it drains, while its format changes, and when the
session that the sample comes to has such a change (`push_eq_notAccepting_iff`). The input status
looks at the session that there is. If there is none, the push opens one, and the engine may report
at once a size that neither type has (`OpensChanged`); of that the status knows nothing.
`inputStatus_predicts` says that it is right in all other cases.
-/

namespace StreamDecode

namespace Session

variable {σ : Type} [Engine σ] {session : Session σ}

theorem decode_eq_notAccepting_iff (packet : Packet) :
    (session.decode packet).1 = .ok .notAccepting ↔ session.sizeChanged = true := by
  constructor
  · intro h
    by_cases hc : session.sizeChanged = true
    · exact hc
    · unfold decode at h
      rw [if_neg hc] at h
      split at h
      · cases h
      · cases h
      · split at h
        · cases h
        · split at h <;> cases h
  · intro hc
    unfold decode
    rw [if_pos hc]

/-- A new session has a change if its engine reports a size that neither type has. -/
theorem sizeChanged_of_create {registry : EngineRegistry σ} {input output : MediaType}
    (h : create registry input output = .ok session) :
    session.sizeChanged = true ↔ ∃ size, session.reportedSize? = some size ∧
      input.frameSize? ≠ some size ∧ output.frameSize? ≠ some size := by
  obtain ⟨settings, engine, renderer, -, -, rfl⟩ := eq_of_create h
  rw [sizeChanged_noteFrameSize, reportedSize?_noteFrameSize]
  simp

end Session

namespace Pipeline

variable {σ : Type} [Engine σ] {pipeline : Pipeline σ} {sample : Sample}

/-- Whether the session that the next push opens has a change at once: there is no session yet, and
the engine for the committed types reports a size that neither of them has. -/
def OpensChanged (pipeline : Pipeline σ) : Prop :=
  pipeline.session = none ∧ ∃ input output session size,
    pipeline.negotiation.input = some input ∧ pipeline.negotiation.output = some output ∧
    Session.create pipeline.registry input output = .ok session ∧
    session.reportedSize? = some size ∧
    input.frameSize? ≠ some size ∧ output.frameSize? ≠ some size

theorem decodeSample_eq_notAccepting_iff (session : Session σ)
    (hl : sample.data.size ≤ maxBufferLength) :
    (pipeline.decodeSample session sample).1 = .ok .notAccepting ↔ session.sizeChanged = true := by
  obtain ⟨reused, hfilled⟩ := pipeline.packet.fill_of_le hl sample.time sample.duration
  unfold decodeSample
  rw [hfilled, ← Session.decode_eq_notAccepting_iff ⟨sample.data, sample.time, sample.duration,
    .hundredNanos⟩]
  dsimp only
  cases Session.decode session ⟨sample.data, sample.time, sample.duration, .hundredNanos⟩ with
  | mk result after =>
    cases result with
    | error error => simp [Except.map]
    | ok status => cases status <;> simp [Except.map, PushStatus.ofDecode]

theorem ensureSession_of_none (hs : pipeline.session = none) {input output : MediaType}
    (hinput : pipeline.negotiation.input = some input)
    (houtput : pipeline.negotiation.output = some output) :
    pipeline.ensureSession = Session.create pipeline.registry input output := by
  unfold ensureSession
  rw [hs, hinput, houtput]
  rfl

/-- A session that is there refuses a sample because of its change; one that is opened for it, because
of the size that its engine reports. -/
theorem push_eq_notAccepting_of_admits (ha : pipeline.Admits 0 sample 0)
    (hl : sample.data.size ≤ maxBufferLength) :
    (pipeline.push 0 sample 0).1 = .ok .notAccepting ↔
      pipeline.hasFormatChange = true ∨ pipeline.OpensChanged := by
  rw [push_of_admits ha]
  unfold hasFormatChange OpensChanged
  cases hs : pipeline.session with
  | some session =>
    rw [ensureSession_of_some hs]
    simp [decodeSample_eq_notAccepting_iff session hl]
  | none =>
    simp only [Option.any_none, Bool.false_eq_true, false_or, true_and]
    cases hensure : pipeline.ensureSession with
    | error error =>
      simp only [reduceCtorEq, false_iff]
      rintro ⟨input, output, session, size, hinput, houtput, hcreate, -⟩
      rw [ensureSession_of_none hs hinput houtput, hcreate] at hensure
      cases hensure
    | ok session =>
      rcases ensureSession_eq_ok hensure with hs' | ⟨-, input, output, hinput, houtput, hcreate⟩
      · cases hs.symm.trans hs'
      · dsimp only
        rw [decodeSample_eq_notAccepting_iff session hl, Session.sizeChanged_of_create hcreate]
        constructor
        · rintro ⟨size, hsize⟩
          exact ⟨input, output, session, size, hinput, houtput, hcreate, hsize⟩
        · rintro ⟨input', output', opened, size, hinput', houtput', hcreate', hsize⟩
          obtain rfl : input = input' := Option.some.inj (hinput.symm.trans hinput')
          obtain rfl : output = output' := Option.some.inj (houtput.symm.trans houtput')
          obtain rfl : session = opened := Except.ok.inj (hcreate.symm.trans hcreate')
          exact ⟨size, hsize⟩

theorem push_eq_notAccepting_iff (hrun : pipeline.isShutDown = false)
    (hdata : sample.data.isEmpty = false) (hl : sample.data.size ≤ maxBufferLength) :
    (pipeline.push 0 sample 0).1 = .ok .notAccepting ↔
      (pipeline.draining = true ∨ pipeline.formatChanging = true) ∨
        pipeline.hasFormatChange = true ∨ pipeline.OpensChanged := by
  by_cases hb : pipeline.draining = true ∨ pipeline.formatChanging = true
  · rw [push_of_busy hrun hdata hb]
    exact ⟨fun _ => Or.inl hb, fun _ => rfl⟩
  · have hfree := not_or.mp hb
    have ha : pipeline.Admits 0 sample 0 :=
      ⟨rfl, rfl, hrun, hdata, Bool.eq_false_iff.mpr hfree.1, Bool.eq_false_iff.mpr hfree.2⟩
    rw [push_eq_notAccepting_of_admits ha hl, or_iff_right hb]

omit [Engine σ] in
theorem inputStatus_eq_ok {flags : UInt32} (h : pipeline.inputStatus 0 = .ok flags) :
    pipeline.isShutDown = false ∧
      flags = if pipeline.draining || pipeline.formatChanging || pipeline.hasFormatChange then
        StreamFlags.none else StreamFlags.acceptsData := by
  unfold inputStatus at h
  cases henter : pipeline.enter 0 with
  | error error =>
    rw [henter] at h
    cases h
  | ok =>
    rw [henter] at h
    cases hinput : pipeline.negotiation.input with
    | none =>
      rw [hinput] at h
      cases h
    | some input =>
      rw [hinput] at h
      exact ⟨(enter_eq_ok_iff.mp henter).2, (Except.ok.inj h).symm⟩

/-- **The input status and the next push.** The status either says nothing or that data is taken. A
sample with data that is pushed next is not taken exactly if the status said nothing, or if there is
no session yet and the one that the push opens has a change at once, because its engine reports a
frame size that neither of the committed types has. -/
theorem inputStatus_predicts {flags : UInt32} (hstatus : pipeline.inputStatus 0 = .ok flags)
    (hdata : sample.data.isEmpty = false) (hl : sample.data.size ≤ maxBufferLength) :
    (flags = StreamFlags.none ∨ flags = StreamFlags.acceptsData) ∧
      ((pipeline.push 0 sample 0).1 = .ok .notAccepting ↔
        flags = StreamFlags.none ∨ pipeline.OpensChanged) := by
  obtain ⟨hrun, rfl⟩ := inputStatus_eq_ok hstatus
  rw [push_eq_notAccepting_iff hrun hdata hl, ← or_assoc]
  split
  · next hbusy =>
    simp only [Bool.or_eq_true] at hbusy
    exact ⟨Or.inl rfl, iff_of_true (Or.inl hbusy) (Or.inl rfl)⟩
  · next hfree =>
    simp only [Bool.or_eq_true] at hfree
    have hflags : StreamFlags.acceptsData ≠ StreamFlags.none := by decide
    refine ⟨Or.inr rfl, ?_⟩
    rw [or_iff_right hfree, or_iff_right hflags]

/-- As long as the host has not read that the pictures are larger, the status says nothing, and no
sample is taken. -/
theorem inputStatus_predicts_unread :
    let pipeline := ((grayPipeline [Session.grayOutput ⟨4, 4⟩]).run openAndPush).2
    pipeline.inputStatus 0 = .ok StreamFlags.none ∧
      (pipeline.push 0 ⟨#[0], 0, 1⟩ 0).1 = .ok .notAccepting := by
  intro pipeline
  have hstatus : pipeline.inputStatus 0 = .ok StreamFlags.none := by decide +kernel
  have predicted := @inputStatus_predicts _ _ pipeline ⟨#[0], 0, 1⟩ _ hstatus rfl (by decide)
  exact ⟨hstatus, predicted.2.mpr (Or.inl rfl)⟩

/-- The host asks for pictures of two by two, and the engine says on opening that they are four by
four. The status says that data is taken, but the first sample is not. -/
theorem inputStatus_unaware :
    let pipeline := ((new (Session.grayRegistry ⟨4, 4⟩ [Session.grayOutput ⟨4, 4⟩]) .standard).run
      openAndPush.dropLast).2
    pipeline.inputStatus 0 = .ok StreamFlags.acceptsData ∧
      (pipeline.push 0 ⟨#[0], 0, 1⟩ 0).1 = .ok .notAccepting := by
  constructor <;> decide +kernel

end Pipeline

end StreamDecode
