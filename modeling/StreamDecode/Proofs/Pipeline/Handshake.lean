import StreamDecode.Engine.Pcm
import StreamDecode.Proofs.Pipeline.Consistent

/-!
# Emptying the queue

A pipeline that drains or changes its format takes no packets until its queue is empty. `Held` says
that it does so with a given session. What pulls then bring is fixed by that session
(`Session.waiting`): the format change that the host has not seen, and after it the queued samples.

1. a push is not accepted and changes nothing (`step_push_of_held`);
2. a pull brings what waits first and leaves the rest (`step_pull_of_held`);
3. the pipeline is held as long as something is left (`held_settle`), and released otherwise
   (`released_settle`).

`handshake` puts this together for every sequence of pushes and pulls.
-/

namespace StreamDecode

/-! ## Pushes and pulls -/

/-- What a pull brings. -/
inductive PullOutcome where
  | needMoreInput
  | streamChange
  | delivered (sample : Sample)
deriving DecidableEq

/-- The answer of a pull: a format change is marked in the slot, and a sample is put into it. -/
def PullOutcome.answer (slot : OutputSlot) : PullOutcome → Answer
  | .needMoreInput => ⟨.ok (.pulled .needMoreInput), [slot]⟩
  | .streamChange => ⟨.ok (.pulled .streamChange), [{ slot with formatChange := true }]⟩
  | .delivered sample =>
    ⟨.ok (.pulled .delivered), [{ slot with sample := some (sample.cutTo slot.sample) }]⟩

/-- A push that brings data, or a pull, each with arguments that are not refused. -/
inductive FlowCall where
  | push (sample : Sample) (data : sample.data.isEmpty = false)
  | pull (slot : OutputSlot) (stream : slot.stream = 0)

namespace FlowCall

/-- The push or the pull as an operation of a host. -/
def call : FlowCall → Call
  | .push sample _ => .push 0 sample 0
  | .pull slot _ => .pull [slot]

def pulls : List FlowCall → Nat
  | [] => 0
  | .push _ _ :: calls => pulls calls
  | .pull _ _ :: calls => pulls calls + 1

/-- The answers when no push is accepted and each pull brings the next outcome, as long as there is
one. -/
def answers (outcomes : List PullOutcome) : List FlowCall → List Answer
  | [] => []
  | .push _ _ :: calls => .ok (.pushed .notAccepting) :: answers outcomes calls
  | .pull slot _ :: calls =>
    (outcomes.headD .needMoreInput).answer slot :: answers outcomes.tail calls

theorem answers_append (outcomes : List PullOutcome) (calls later : List FlowCall) :
    answers outcomes (calls ++ later) =
      answers outcomes calls ++ answers (outcomes.drop (pulls calls)) later := by
  induction calls generalizing outcomes with
  | nil => rfl
  | cons call calls ih =>
    cases call with
    | push sample data =>
      show _ :: answers outcomes (calls ++ later) = _
      rw [ih outcomes]
      rfl
    | pull slot stream =>
      show _ :: answers outcomes.tail (calls ++ later) = _
      rw [ih outcomes.tail, ← List.drop_one, List.drop_drop, Nat.add_comm 1, List.drop_one]
      rfl

end FlowCall

/-! ## What waits -/

namespace Session

variable {σ : Type}

/-- What pulls bring while nothing is appended: the format change that has not been taken, then the
queued samples. -/
def waiting (session : Session σ) : List PullOutcome :=
  List.replicate session.sizeChanged.toNat .streamChange ++ session.queue.map .delivered

/-- The session after one pull. -/
def advance (session : Session σ) : Session σ :=
  if session.sizeChanged then { session with sizeChanged := false }
  else { session with queue := session.queue.tail }

/-- The session after all pulls. -/
def emptied (session : Session σ) : Session σ :=
  { session with queue := [], sizeChanged := false }

theorem length_waiting (session : Session σ) :
    session.waiting.length = session.sizeChanged.toNat + session.queue.length := by
  unfold waiting
  rw [List.length_append, List.length_replicate, List.length_map]

theorem waiting_of_change {session : Session σ} (hc : session.sizeChanged = true) :
    session.waiting = .streamChange :: session.queue.map .delivered := by
  unfold waiting
  rw [hc]
  rfl

theorem waiting_of_no_change {session : Session σ} (hc : session.sizeChanged = false) :
    session.waiting = session.queue.map .delivered := by
  unfold waiting
  rw [hc]
  rfl

theorem advance_of_change {session : Session σ} (hc : session.sizeChanged = true) :
    session.advance = { session with sizeChanged := false } := by
  unfold advance
  rw [if_pos hc]

theorem advance_of_no_change {session : Session σ} (hc : session.sizeChanged = false) :
    session.advance = { session with queue := session.queue.tail } := by
  unfold advance
  rw [if_neg (Bool.eq_false_iff.mp hc)]

theorem sizeChanged_advance (session : Session σ) : session.advance.sizeChanged = false := by
  cases hc : session.sizeChanged with
  | true => rw [advance_of_change hc]
  | false => rw [advance_of_no_change hc, hc]

theorem waiting_advance (session : Session σ) :
    session.advance.waiting = session.waiting.tail := by
  rw [waiting_of_no_change session.sizeChanged_advance]
  cases hc : session.sizeChanged with
  | true =>
    rw [advance_of_change hc, waiting_of_change hc]
    rfl
  | false =>
    rw [advance_of_no_change hc, waiting_of_no_change hc]
    exact List.map_tail

theorem emptied_advance (session : Session σ) : session.advance.emptied = session.emptied := by
  unfold advance
  split
  · rfl
  · rfl

/-- After a pull only samples wait. -/
theorem queue_advance_eq_nil_iff {session : Session σ} :
    session.advance.queue = [] ↔ session.waiting.tail = [] := by
  rw [← waiting_advance, waiting_of_no_change session.sizeChanged_advance]
  exact List.map_eq_nil_iff.symm

theorem emptied_of_queue {session : Session σ} (hc : session.sizeChanged = false)
    (hq : session.queue = []) : session.emptied = session := by
  unfold emptied
  rw [← hc, ← hq]

end Session

namespace Pipeline

variable {σ : Type} {pipeline : Pipeline σ} {session : Session σ}

/-! ## Held and released -/

/-- The pipeline takes no packets until the queue of the session is empty. -/
structure Held (pipeline : Pipeline σ) (session : Session σ) : Prop where
  session_eq : pipeline.session = some session
  running : pipeline.isShutDown = false
  busy : pipeline.draining = true ∨ pipeline.formatChanging = true

/-- The pipeline takes packets again; a format change has dropped the session. -/
structure Released (pipeline : Pipeline σ) (changing : Bool) (session : Session σ) : Prop where
  draining : pipeline.draining = false
  formatChanging : pipeline.formatChanging = false
  session_eq : pipeline.session = if changing then none else some session.emptied

theorem Consistent.held (h : pipeline.Consistent)
    (hb : pipeline.draining = true ∨ pipeline.formatChanging = true) :
    ∃ session, pipeline.Held session := by
  have hsome := h.session_of_busy hb
  obtain ⟨session, hs⟩ := Option.isSome_iff_exists.mp hsome
  exact ⟨session, hs, h.not_shutDown hsome, hb⟩

theorem Released.queue {changing : Bool} (h : pipeline.Released changing session) :
    pipeline.queue = [] := by
  cases changing with
  | true => exact queue_of_none h.session_eq
  | false => rw [queue_of_some h.session_eq]; rfl

theorem held_settle (h : pipeline.Held session) (hq : session.queue ≠ []) :
    pipeline.settle.Held session ∧ pipeline.settle.formatChanging = pipeline.formatChanging := by
  rw [settle_of_samples (by rw [queue_of_some h.session_eq]; exact hq)]
  exact ⟨h, rfl⟩

theorem released_settle (h : pipeline.Held session) (hc : session.sizeChanged = false)
    (hq : session.queue = []) : pipeline.settle.Released pipeline.formatChanging session := by
  rw [settle_of_empty (by rw [queue_of_some h.session_eq]; exact hq)]
  refine ⟨rfl, rfl, ?_⟩
  rw [session.emptied_of_queue hc hq, ← h.session_eq]

/-! ## One call -/

variable [Engine σ]

theorem step_push_of_held (h : pipeline.Held session) {sample : Sample}
    (hdata : sample.data.isEmpty = false) :
    pipeline.step (.push 0 sample 0) = (.ok (.pushed .notAccepting), pipeline) := by
  show (pipeline.push 0 sample 0).map (Answer.of .pushed) id = _
  rw [push_of_busy h.running hdata h.busy]
  rfl

/-- A pull brings what waits first. Before it settles, the session has the rest. -/
theorem step_pull_of_held (h : pipeline.Held session) {slot : OutputSlot}
    (hslot : slot.stream = 0) :
    ∃ next : Pipeline σ,
      pipeline.step (.pull [slot]) =
        ((session.waiting.headD .needMoreInput).answer slot, next.settle) ∧
      next.Held session.advance ∧ next.formatChanging = pipeline.formatChanging := by
  have hp := pull_of_running hslot h.running
  have hb := h.busy
  have hrun := h.running
  simp only [step, hp]
  cases hc : session.sizeChanged with
  | true =>
    rw [deliver_of_change slot h.session_eq hc, Session.waiting_of_change hc,
      Session.advance_of_change hc]
    exact ⟨_, rfl, ⟨rfl, hrun, hb⟩, rfl⟩
  | false =>
    rw [Session.waiting_of_no_change hc, Session.advance_of_no_change hc]
    cases hq : session.queue with
    | nil =>
      have hsame : { session with queue := [].tail } = session := by rw [List.tail_nil, ← hq]
      rw [deliver_of_empty slot h.session_eq hc hq, hsame]
      exact ⟨_, rfl, h, rfl⟩
    | cons sample rest =>
      rw [deliver_of_sample slot h.session_eq hc hq]
      exact ⟨_, rfl, ⟨rfl, hrun, hb⟩, rfl⟩

/-! ## Runs -/

/-- Before the last pull the pipeline is held with what the pulls have left. -/
theorem run_of_held (h : pipeline.Held session) (calls : List FlowCall)
    (hcalls : FlowCall.pulls calls < max 1 session.waiting.length) :
    (pipeline.run (calls.map FlowCall.call)).1 = FlowCall.answers session.waiting calls ∧
    ∃ later : Session σ, (pipeline.run (calls.map FlowCall.call)).2.Held later ∧
      later.waiting = session.waiting.drop (FlowCall.pulls calls) ∧
      later.emptied = session.emptied ∧
      (pipeline.run (calls.map FlowCall.call)).2.formatChanging = pipeline.formatChanging := by
  induction calls generalizing pipeline session with
  | nil => exact ⟨rfl, session, h, rfl, rfl, rfl⟩
  | cons call calls ih =>
    rw [List.map_cons, run_cons]
    cases call with
    | push sample data =>
      rw [show (FlowCall.push sample data).call = .push 0 sample 0 from rfl,
        step_push_of_held h data]
      obtain ⟨ha, later, hheld, hw, he, hf⟩ := ih h hcalls
      exact ⟨congrArg _ ha, later, hheld, hw, he, hf⟩
    | pull slot stream =>
      obtain ⟨next, hstep, hnext, hchanging⟩ := step_pull_of_held h stream
      rw [show (FlowCall.pull slot stream).call = .pull [slot] from rfl, hstep]
      -- more than one pull is due, so that something is left after this one
      have hlength : FlowCall.pulls calls + 1 < max 1 session.waiting.length := hcalls
      have htail : session.waiting.tail.length = session.waiting.length - 1 := List.length_tail
      have hleft : session.advance.queue ≠ [] := by
        intro hq
        rw [Session.queue_advance_eq_nil_iff.mp hq, List.length_nil] at htail
        omega
      obtain ⟨hheld, hsettle⟩ := held_settle hnext hleft
      have hrest : FlowCall.pulls calls < max 1 session.advance.waiting.length := by
        rw [session.waiting_advance, htail]
        omega
      obtain ⟨ha, later, hlater, hw, he, hf⟩ := ih hheld hrest
      refine ⟨?_, later, hlater, ?_, ?_, ?_⟩
      · dsimp only
        rw [ha, session.waiting_advance]
        rfl
      · rw [hw, session.waiting_advance, ← List.drop_one, List.drop_drop, Nat.add_comm]
        rfl
      · exact he.trans session.emptied_advance
      · exact hf.trans (hsettle.trans hchanging)

theorem step_last_pull (h : pipeline.Held session) {slot : OutputSlot} (hslot : slot.stream = 0)
    (hw : session.waiting.length ≤ 1) :
    (pipeline.step (.pull [slot])).1 = (session.waiting.headD .needMoreInput).answer slot ∧
      (pipeline.step (.pull [slot])).2.Released pipeline.formatChanging session := by
  obtain ⟨next, hstep, hnext, hchanging⟩ := step_pull_of_held h hslot
  have hq : session.advance.queue = [] := by
    rw [Session.queue_advance_eq_nil_iff, ← List.length_eq_zero_iff, List.length_tail]
    omega
  have hreleased := released_settle hnext session.sizeChanged_advance hq
  rw [hstep, ← hchanging]
  refine ⟨rfl, hreleased.draining, hreleased.formatChanging, ?_⟩
  rw [← session.emptied_advance]
  exact hreleased.session_eq

/-- The pulls bring everything that waits, and the last one releases the pipeline. -/
theorem run_through_last_pull (h : pipeline.Held session) (calls : List FlowCall)
    {slot : OutputSlot} (hslot : slot.stream = 0)
    (hcalls : FlowCall.pulls calls + 1 = max 1 session.waiting.length) :
    (pipeline.run ((calls ++ [FlowCall.pull slot hslot]).map FlowCall.call)).1 =
        FlowCall.answers session.waiting (calls ++ [.pull slot hslot]) ∧
      (pipeline.run ((calls ++ [FlowCall.pull slot hslot]).map FlowCall.call)).2.Released
        pipeline.formatChanging session := by
  obtain ⟨ha, later, hlater, hw, he, hf⟩ := run_of_held h calls (by omega)
  have hlast : later.waiting.length ≤ 1 := by
    rw [hw, List.length_drop]
    omega
  obtain ⟨hanswer, hreleased⟩ := step_last_pull hlater hslot hlast
  rw [List.map_append, run_append, FlowCall.answers_append, ← hw]
  refine ⟨?_, hreleased.draining, hreleased.formatChanging, ?_⟩
  · show _ ++ [_] = _ ++ [_]
    rw [ha, ← hanswer]
    rfl
  · rw [← he, ← hf]
    exact hreleased.session_eq

/-- **Draining and format changes.** After every run, a pipeline that drains or changes its format
has a session. From there on, in every sequence of pushes and pulls up to the last due pull, no push
is accepted, and the pulls bring the format change that the host has not seen, then the queued
samples in their order; if there is neither, one pull tells that more input is needed. The last due
pull releases the pipeline: it takes packets again, nothing is queued, and the session is gone if
there was a format change and is the same one otherwise. -/
theorem handshake (registry : EngineRegistry σ) (config : PipelineConfig) (history : List Call)
    (hb : ((new registry config).run history).2.draining = true ∨
      ((new registry config).run history).2.formatChanging = true) :
    let pipeline := ((new registry config).run history).2
    ∃ session, pipeline.session = some session ∧
      let due := max 1 (session.sizeChanged.toNat + session.queue.length)
      ∀ calls : List FlowCall,
        (FlowCall.pulls calls < due →
          (pipeline.run (calls.map FlowCall.call)).1 =
            FlowCall.answers session.waiting calls) ∧
        ∀ (slot : OutputSlot) (hslot : slot.stream = 0), FlowCall.pulls calls + 1 = due →
          let through := calls ++ [.pull slot hslot]
          let after := (pipeline.run (through.map FlowCall.call)).2
          (pipeline.run (through.map FlowCall.call)).1 =
              FlowCall.answers session.waiting through ∧
            after.draining = false ∧ after.formatChanging = false ∧ after.queue = [] ∧
            after.session =
              if pipeline.formatChanging then none
              else some { session with queue := [], sizeChanged := false } := by
  intro pipeline
  obtain ⟨session, h⟩ := ((Consistent.new registry config).run history).held hb
  refine ⟨session, h.session_eq, ?_⟩
  rw [← session.length_waiting]
  intro due calls
  refine ⟨fun hcalls => (run_of_held h calls hcalls).1, ?_⟩
  intro slot hslot hcalls
  obtain ⟨ha, hreleased⟩ := run_through_last_pull h calls hslot hcalls
  exact ⟨ha, hreleased.draining, hreleased.formatChanging, hreleased.queue, hreleased.session_eq⟩

/-! ### Two queued samples -/

/-- A registry with the engine for uncompressed audio alone. -/
def pcmRegistry : EngineRegistry PcmEngine := ⟨[⟨.pcmF32, "pcm", .ok (.new .f32)⟩], []⟩

/-- Two pushes of one audio sample each, and the message to drain. -/
def pushTwiceAndDrain : List Call :=
  [.setInputType 0 (some (.audio .floatPcm 1 8000)) false,
    .setOutputType 0 (some (.audio .float 1 8000)) false,
    .push 0 ⟨#[0, 0, 0, 0], 0, 1250⟩ 0,
    .push 0 ⟨#[0, 0, 128, 63], 1250, 1250⟩ 0,
    .send .drain]

/-- Pushes between two pulls are not accepted, and the second pull ends draining. -/
theorem handshake_two_samples :
    let pipeline := ((new pcmRegistry .standard).run pushTwiceAndDrain).2
    let push : Call := .push 0 ⟨#[0, 0, 0, 0], 2500, 1250⟩ 0
    let calls := [push, .pull [.empty], push, .pull [.empty]]
    pipeline.draining = true ∧
      (pipeline.run calls).1 =
        [.ok (.pushed .notAccepting),
          (PullOutcome.delivered ⟨#[0, 0, 0, 0], 0, 1250⟩).answer .empty,
          .ok (.pushed .notAccepting),
          (PullOutcome.delivered ⟨#[0, 0, 128, 63], 1250, 1250⟩).answer .empty] ∧
      (pipeline.run calls).2.draining = false := by
  intro pipeline push calls
  have hd : ((new pcmRegistry .standard).run pushTwiceAndDrain).2.draining = true := by decide +kernel
  obtain ⟨session, hs, h⟩ := handshake pcmRegistry .standard pushTwiceAndDrain (Or.inl hd)
  have hw : ((new pcmRegistry .standard).run pushTwiceAndDrain).2.session.map Session.waiting =
      some [.delivered ⟨#[0, 0, 0, 0], 0, 1250⟩, .delivered ⟨#[0, 0, 128, 63], 1250, 1250⟩] := by
    decide +kernel
  rw [hs, Option.map_some, Option.some.injEq] at hw
  let offer : FlowCall := .push ⟨#[0, 0, 0, 0], 2500, 1250⟩ rfl
  have hdue : FlowCall.pulls [offer, .pull .empty rfl, offer] + 1 =
      max 1 (session.sizeChanged.toNat + session.queue.length) := by
    rw [← session.length_waiting, hw]
    rfl
  obtain ⟨ha, hdraining, -⟩ := (h _).2 .empty rfl hdue
  rw [hw] at ha
  exact ⟨hd, ha, hdraining⟩

end Pipeline

end StreamDecode
