import StreamDecode.Proofs.Pipeline.Ledger
import StreamDecode.Proofs.Pipeline.Lengths

/-!
# Pulls after a flush

When the host throws the queue away, no sample is left to be pulled, and draining and a format change
are over (`flush_eq_ok`). A change of the frame size that the host has not read is not thrown away:
it stays marked until it is read. And the new engine may bring one, if it reports on opening a size
that neither type has (`Session.FindsChange`). `pull_after_flush` says what the next pulls bring:
that more input is needed, after the change if there is one.
-/

namespace StreamDecode

namespace Session

variable {σ : Type} [Engine σ] {session after : Session σ}

/-- Whether a new engine of the session reports on opening a frame size that is neither that of the
input type nor that of the output type. -/
def FindsChange (session : Session σ) : Prop :=
  ∃ engine size, session.registry.openEngine session.settings = .ok engine ∧
    reportedSize? { session with engine := engine } = some size ∧
    session.input.frameSize? ≠ some size ∧ session.output.frameSize? ≠ some size

/-- After the engine was replaced, there is the change that was not read or the one that was found. -/
theorem sizeChanged_flushInput (h : session.flushInput = (.ok (), after)) :
    after.sizeChanged = true ↔ session.sizeChanged = true ∨ session.FindsChange := by
  obtain ⟨engine, hopen, rfl⟩ := flushInput_eq_ok h
  rw [sizeChanged_noteFrameSize]
  refine or_congr_right ⟨?_, ?_⟩
  · rintro ⟨size, hreported, hinput, houtput⟩
    exact ⟨engine, size, hopen, hreported, hinput, houtput⟩
  · rintro ⟨opened, size, hopened, hreported, hinput, houtput⟩
    obtain rfl : opened = engine := Except.ok.inj (hopened.symm.trans hopen)
    exact ⟨size, hreported, hinput, houtput⟩

end Session

namespace Pipeline

variable {σ : Type} [Engine σ] {pipeline after : Pipeline σ}

/-- Whether there is a change to be read once the queue has been thrown away. A format change of the
host drops the session with everything. -/
def KeepsChange (pipeline : Pipeline σ) : Prop :=
  pipeline.formatChanging = false ∧ ∃ session, pipeline.session = some session ∧
    (session.sizeChanged = true ∨ session.FindsChange)

/-- A pipeline without samples that has ended draining and a format change. -/
structure Quiet (pipeline : Pipeline σ) : Prop where
  running : pipeline.isShutDown = false
  draining : pipeline.draining = false
  formatChanging : pipeline.formatChanging = false
  queue : pipeline.queue = []

omit [Engine σ] in
theorem Quiet.settle_eq (h : pipeline.Quiet) : pipeline.settle = pipeline := by
  rw [settle_of_empty h.queue]
  obtain ⟨registry, config, negotiation, mode, draining, formatChanging, isShutDown, session,
    packet⟩ := pipeline
  obtain rfl : draining = false := h.draining
  obtain rfl : formatChanging = false := h.formatChanging
  rfl

omit [Engine σ] in
theorem quiet_settle (hrun : pipeline.isShutDown = false) (hq : pipeline.queue = []) :
    pipeline.settle.Quiet := by
  refine ⟨by rw [isShutDown_settle, hrun], ?_, ?_, by rw [queue_settle, hq]⟩
  · rw [settle_of_empty hq]
  · rw [settle_of_empty hq]

omit [Engine σ] in
theorem Quiet.pull_of_no_change (h : pipeline.Quiet) (hc : pipeline.hasFormatChange = false)
    {slot : OutputSlot} (hslot : slot.stream = 0) :
    pipeline.pull [slot] = (.ok .needMoreInput, [slot], pipeline) := by
  have hdeliver : pipeline.deliver slot = (.needMoreInput, slot, pipeline) := by
    cases hs : pipeline.session with
    | none => exact deliver_of_none slot hs
    | some session =>
      have hq : session.queue = [] := (queue_of_some hs).symm.trans h.queue
      unfold hasFormatChange at hc
      rw [hs] at hc
      exact deliver_of_empty slot hs hc hq
  rw [pull_of_running hslot h.running, hdeliver, h.settle_eq]

omit [Engine σ] in
theorem Quiet.pull_of_change (h : pipeline.Quiet) (hc : pipeline.hasFormatChange = true)
    {slot : OutputSlot} (hslot : slot.stream = 0) :
    ∃ next : Pipeline σ,
      pipeline.pull [slot] = (.ok .streamChange, [{ slot with formatChange := true }], next) ∧
        next.Quiet ∧ next.hasFormatChange = false := by
  unfold hasFormatChange at hc
  cases hs : pipeline.session with
  | none =>
    rw [hs] at hc
    cases hc
  | some session =>
    rw [hs] at hc
    have hq : session.queue = [] := (queue_of_some hs).symm.trans h.queue
    have hannounced : (pipeline.announce { session with sizeChanged := false }
        session.output).Quiet := ⟨h.running, h.draining, h.formatChanging, hq⟩
    rw [pull_of_running hslot h.running, deliver_of_change slot hs hc]
    dsimp only
    rw [hannounced.settle_eq]
    exact ⟨_, rfl, hannounced, rfl⟩

/-- Throwing the queue away succeeds if there is no session or its flush succeeds, and then settles. -/
theorem flushQueue_eq_ok (h : pipeline.flushQueue = (.ok (), after)) :
    pipeline.session = none ∧ after = pipeline.settle ∨
      ∃ session last, pipeline.session = some session ∧ session.flush = (.ok (), last) ∧
        after = settle { pipeline with session := some last } := by
  unfold flushQueue onSession at h
  cases hs : pipeline.session with
  | none =>
    rw [hs] at h
    obtain ⟨-, rfl⟩ := Prod.mk.inj h
    exact Or.inl ⟨rfl, rfl⟩
  | some session =>
    rw [hs] at h
    dsimp only at h
    cases hsession : session.flush with
    | mk result last =>
      rw [hsession] at h
      cases result with
      | error error => cases h
      | ok =>
        obtain ⟨-, rfl⟩ := Prod.mk.inj h
        exact Or.inr ⟨session, last, rfl, hsession, rfl⟩

theorem send_flush_eq_ok (h : pipeline.send .flush = (.ok (), after)) :
    pipeline.isShutDown = false ∧ pipeline.flushQueue = (.ok (), after) := by
  cases hrun : pipeline.isShutDown with
  | true =>
    rw [send_of_shutDown hrun] at h
    cases h
  | false =>
    unfold send requireRunning at h
    rw [hrun] at h
    exact ⟨rfl, h⟩

theorem flush_eq_ok (h : pipeline.send .flush = (.ok (), after)) :
    after.Quiet ∧ (after.hasFormatChange = true ↔ pipeline.KeepsChange) := by
  obtain ⟨hrun, hflush⟩ := send_flush_eq_ok h
  unfold KeepsChange
  rcases flushQueue_eq_ok hflush with ⟨hs, rfl⟩ | ⟨session, last, hs, hsession, rfl⟩
  · have hq := queue_of_none hs
    refine ⟨quiet_settle hrun hq, ?_⟩
    rw [settle_of_empty hq]
    unfold hasFormatChange
    simp [hs]
  · have hreplaced : Session.flushInput { session with queue := [] } = (.ok (), last) := hsession
    have hlast := Session.sizeChanged_flushInput hreplaced
    have hchanged : last.sizeChanged = true ↔ session.sizeChanged = true ∨ session.FindsChange :=
      hlast
    have hq : queue { pipeline with session := some last } = [] := by
      have hlast := session.queue_flush
      rw [hsession] at hlast
      exact hlast
    refine ⟨quiet_settle hrun hq, ?_⟩
    rw [settle_of_empty hq]
    unfold hasFormatChange
    -- a format change of the host drops the session and the change in it
    cases hf : pipeline.formatChanging with
    | true => simp
    | false => simp [hs, hchanged]

/-- **After a flush.** When the host has thrown the queue away, no sample is left, and the next pull
leaves its slot alone and needs more input, unless there is a change to be read: one that the host
had not read before, in a session that is not dropped, or one that the new engine brings when it is
opened. Then that pull tells of the change, and the one after it needs more input. -/
theorem pull_after_flush (hf : pipeline.send .flush = (.ok (), after)) {slot : OutputSlot}
    (hslot : slot.stream = 0) :
    after.queue = [] ∧
    (¬ pipeline.KeepsChange → after.pull [slot] = (.ok .needMoreInput, [slot], after)) ∧
    (pipeline.KeepsChange → ∃ next,
      after.pull [slot] = (.ok .streamChange, [{ slot with formatChange := true }], next) ∧
        ∀ second : OutputSlot, second.stream = 0 →
          next.pull [second] = (.ok .needMoreInput, [second], next)) := by
  obtain ⟨hquiet, hchange⟩ := flush_eq_ok hf
  refine ⟨hquiet.queue, ?_, ?_⟩
  · intro hkeeps
    have hc : after.hasFormatChange = false := Bool.eq_false_iff.mpr (hkeeps ∘ hchange.mp)
    exact hquiet.pull_of_no_change hc hslot
  · intro hkeeps
    obtain ⟨next, hpull, hnext, hread⟩ := hquiet.pull_of_change (hchange.mpr hkeeps) hslot
    exact ⟨next, hpull, fun second hsecond => hnext.pull_of_no_change hread hsecond⟩

/-! ### Flushes of pictures -/

/-- The host pushes a packet of small pictures and pulls nothing: no change is left, and the pull
after the flush needs more input. -/
theorem pull_after_flush_unchanged :
    let pipeline := ((grayPipeline [Session.grayOutput ⟨2, 2⟩]).run openAndPush).2
    pipeline.hasSamples = true ∧ ∃ after, pipeline.send .flush = (.ok (), after) ∧
      after.pull [.empty] = (.ok .needMoreInput, [.empty], after) := by
  intro pipeline
  have hflush : pipeline.send .flush = (.ok (), (pipeline.send .flush).2) :=
    Prod.ext (by decide +kernel) rfl
  have hread : (pipeline.send .flush).2.hasFormatChange = false := by decide +kernel
  have hkeeps : ¬ pipeline.KeepsChange := by
    intro hkeeps
    rw [(flush_eq_ok hflush).2.mpr hkeeps] at hread
    cases hread
  exact ⟨by decide +kernel, _, hflush, (pull_after_flush hflush rfl).2.1 hkeeps⟩

/-- A change that the host has not read outlives the flush, and a flush may bring one. In the first
pipeline the first picture is larger than the engine said. In the second one the engine says that
pictures are four by four and brings larger ones, and the host has read both changes; the new engine
says four by four again. -/
theorem streamChange_after_flush :
    let unread := ((grayPipeline [Session.grayOutput ⟨4, 4⟩]).run openAndPush).2
    let read := ((new (Session.grayRegistry ⟨4, 4⟩ [Session.grayOutput ⟨6, 6⟩]) .standard).run
      (openAndPush ++ [.pull [.empty], .push 0 ⟨#[0], 0, 1⟩ 0, .pull [.empty]])).2
    ((unread.send .flush).1 = .ok () ∧
      ((unread.send .flush).2.pull [.empty]).1 = .ok .streamChange ∧
      ((unread.send .flush).2.pull [.empty]).2.1 ≠ [.empty]) ∧
    read.hasFormatChange = false ∧ (read.send .flush).1 = .ok () ∧
      ((read.send .flush).2.pull [.empty]).1 = .ok .streamChange ∧
      ((read.send .flush).2.pull [.empty]).2.1 ≠ [.empty] := by
  refine ⟨⟨?_, ?_, ?_⟩, ?_, ?_, ?_, ?_⟩ <;> decide +kernel

end Pipeline

end StreamDecode
