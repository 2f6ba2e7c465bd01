import Mathlib.Data.List.Forall2
import StreamDecode.Proofs.Session.Alike
import StreamDecode.Proofs.Session.Sightings
import StreamDecode.Proofs.Session.Timing
import StreamDecode.Proofs.Session.Undelivered

/-!
# What one packet does

An engine that has taken a packet holds outputs, each a frame or an error. `ScriptedEngine.outcomes`
lists what they become, one by one and without a session: an error of the engine, an error of the
renderer, or a frame with its bytes. Receiving goes along this list: it takes frame after frame
(`receiveFrames_of_accepted`), over the end of the list or up to the first error
(`receiveFrames_of_empty`, `receiveFrames_of_error`). So the list says what decoding the packet
answers and which samples it brings (`decode_outcomes`).

What the frames do to the frame size of the output type is a fold over what the engine reports with
them (`noteReports`). A change that one of them raises is found in the middle of this fold
(`sizeChanged_noteReports`), and receiving goes on behind it.
-/

namespace StreamDecode

namespace Rendered

/-- A sample is what a rendered frame of a packet should become. -/
structure Makes (packet : Packet) (one : Rendered) (sample : Sample) : Prop where
  data : sample.data = one.data
  time : one.frame.IsTime packet sample.time
  duration : one.frame.IsDuration packet one.timeBase sample.duration

theorem makes_sample (packet : Packet) (one : Rendered) : Makes packet one (one.sample packet) :=
  ⟨rfl, one.frame.isTime_sampleTime packet,
    one.frame.isDuration_sampleDuration packet one.timeBase⟩

end Rendered

deriving instance DecidableEq for Rendered

/-! ## Outputs of a scripted engine -/

namespace ScriptedEngine

/-- The engine when it has handed out an output and has others left. -/
def handOut (engine : ScriptedEngine) (output : ScriptedOutput) (rest : List ScriptedOutput) :
    ScriptedEngine :=
  { engine with pending := rest, reported := output.reported.getD engine.reported }

/-- What an output becomes in a stream of a kind when the engine has handed it out: a frame with its
bytes, or the error of the engine or of a new renderer. -/
def outcome (kind : StreamKind) (engine : ScriptedEngine) (output : ScriptedOutput) :
    Except MediaError Rendered :=
  match output.result with
  | .error error => .error error
  | .ok frame =>
    match Renderer.rendering kind engine.params frame with
    | .error error => .error error
    | .ok data => .ok ⟨frame, data, engine.params, engine.timeBase⟩

/-- What outputs become, one by one. -/
def outcomes (kind : StreamKind) (engine : ScriptedEngine) :
    List ScriptedOutput → List (Except MediaError Rendered)
  | [] => []
  | output :: rest =>
    outcome kind (engine.handOut output rest) output ::
      outcomes kind (engine.handOut output rest) rest

variable {engine : ScriptedEngine} {output : ScriptedOutput} {rest : List ScriptedOutput}

theorem length_outcomes (kind : StreamKind) (engine : ScriptedEngine)
    (outputs : List ScriptedOutput) : (outcomes kind engine outputs).length = outputs.length := by
  induction outputs generalizing engine with
  | nil => rfl
  | cons output rest ih => rw [outcomes, List.length_cons, ih, List.length_cons]

theorem receiveFrame_of_pending (h : engine.pending = output :: rest) :
    Engine.receiveFrame engine = (output.result, engine.handOut output rest) := by
  show engine.receiveFrame = _
  unfold receiveFrame
  rw [h]
  rfl

theorem outcome_eq_ok_iff {kind : StreamKind} {one : Rendered} :
    outcome kind engine output = .ok one ↔
      output.result = .ok one.frame ∧
      Renderer.rendering kind engine.params one.frame = .ok one.data ∧
      one.params = engine.params ∧ one.timeBase = engine.timeBase := by
  unfold outcome
  cases hresult : output.result with
  | error error => simp
  | ok frame =>
    dsimp only
    cases hdata : Renderer.rendering kind engine.params frame with
    | error error =>
      simp only [reduceCtorEq, Except.ok.injEq, false_iff]
      rintro ⟨rfl, hother, -⟩
      rw [hdata] at hother
      cases hother
    | ok data =>
      cases one
      simp only [Except.ok.injEq, Rendered.mk.injEq]
      constructor
      · rintro ⟨rfl, rfl, rfl, rfl⟩
        exact ⟨rfl, hdata, rfl, rfl⟩
      · rintro ⟨rfl, hother, rfl, rfl⟩
        rw [hdata] at hother
        cases hother
        exact ⟨rfl, rfl, rfl, rfl⟩

end ScriptedEngine

namespace Session

variable {σ : Type}

/-! ## Frame sizes, frame by frame -/

/-- Compares a frame size that an engine reports for a video output with the one observed last. -/
def noteReport (session : Session σ) (params : StreamParams) : Session σ :=
  session.noteSize (if session.output.kind = .video then params.frameSize? else none)

/-- Compares frame sizes one after the other. -/
def noteReports (session : Session σ) (reports : List StreamParams) : Session σ :=
  reports.foldl noteReport session

theorem noteFrameSize_eq_noteReport [Engine σ] (session : Session σ) :
    session.noteFrameSize = session.noteReport (Engine.params session.engine) := rfl

/-- Whether a reported frame size of a video output is neither the one observed last nor that of the
output type. -/
def Differs (session : Session σ) (params : StreamParams) : Prop :=
  session.output.kind = .video ∧ ∃ size, params.frameSize? = some size ∧
    session.observedSize ≠ some size ∧ session.output.frameSize? ≠ some size

theorem sizeChanged_noteReport {session : Session σ} {params : StreamParams} :
    (session.noteReport params).sizeChanged = true ↔
      session.sizeChanged = true ∨ session.Differs params := by
  unfold noteReport Differs
  rw [sizeChanged_noteSize]
  by_cases hkind : session.output.kind = .video <;> simp [hkind]

theorem sizeChanged_noteReports {session : Session σ} {reports : List StreamParams} :
    (session.noteReports reports).sizeChanged = true ↔
      session.sizeChanged = true ∨ ∃ before params behind, reports = before ++ params :: behind ∧
        (session.noteReports before).Differs params := by
  induction reports generalizing session with
  | nil => simp [noteReports]
  | cons params reports ih =>
    show ((session.noteReport params).noteReports reports).sizeChanged = true ↔ _
    rw [ih, sizeChanged_noteReport, or_assoc]
    refine or_congr_right ?_
    constructor
    · rintro (h | ⟨before, other, behind, rfl, h⟩)
      · exact ⟨[], params, reports, rfl, h⟩
      · exact ⟨params :: before, other, behind, rfl, h⟩
    · rintro ⟨before, other, behind, hreports, h⟩
      rcases List.cons_eq_append_iff.mp hreports with ⟨rfl, hother⟩ | ⟨rest, rfl, rfl⟩
      · obtain ⟨rfl, rfl⟩ := List.cons.inj hother
        exact Or.inl h
      · exact Or.inr ⟨rest, other, behind, rfl, h⟩

/-- The session with another engine, renderer and queue. -/
def replacing (session : Session σ) (engine : σ) (renderer : Renderer) (queue : List Sample) :
    Session σ :=
  { session with engine := engine, renderer := renderer, queue := queue }

section Replacing

variable (session : Session σ) (engine next : σ) (renderer after : Renderer)
  (queue others : List Sample)

@[simp] theorem replacing_replacing :
    (session.replacing engine renderer queue).replacing next after others =
      session.replacing next after others := rfl

@[simp] theorem queue_replacing : (session.replacing engine renderer queue).queue = queue := rfl

theorem noteReport_replacing (params : StreamParams) :
    (session.replacing engine renderer queue).noteReport params =
      (session.noteReport params).replacing engine renderer queue := by
  have h := session.noteSize_update
    (if session.output.kind = .video then params.frameSize? else none) engine renderer queue false
  simp only [Bool.false_or] at h
  exact h

theorem noteReports_replacing (reports : List StreamParams) :
    (session.replacing engine renderer queue).noteReports reports =
      (session.noteReports reports).replacing engine renderer queue := by
  unfold noteReports
  induction reports generalizing session with
  | nil => rfl
  | cons params reports ih => rw [List.foldl_cons, noteReport_replacing, ih, List.foldl_cons]

end Replacing

/-! ## Receiving what is pending -/

open ScriptedEngine

variable {kind : StreamKind} {packet : Packet}

/-- The session with the samples of rendered frames behind those that wait, when their sizes have been
compared. -/
def taking (session : Session σ) (packet : Packet) (taken : List Rendered) (engine : σ)
    (renderer : Renderer) : Session σ :=
  (session.noteReports (taken.map Rendered.params)).replacing engine renderer
    (session.queue ++ taken.map (·.sample packet))

theorem taking_nil (session : Session σ) (packet : Packet) :
    session.taking packet [] session.engine session.renderer = session := by
  unfold taking
  rw [List.map_nil, List.map_nil, List.append_nil]
  rfl

theorem taking_append (session : Session σ) (packet : Packet) (taken others : List Rendered)
    (engine next : σ) (renderer after : Renderer) :
    (session.taking packet taken engine renderer).taking packet others next after =
      session.taking packet (taken ++ others) next after := by
  unfold taking
  rw [noteReports_replacing, replacing_replacing, queue_replacing, List.map_append, List.map_append,
    List.append_assoc, noteReports, noteReports, noteReports, List.foldl_append]

theorem taking_replacing (session : Session σ) (packet : Packet) (taken : List Rendered)
    (engine next : σ) (renderer after : Renderer) :
    (session.replacing engine renderer session.queue).taking packet taken next after =
      session.taking packet taken next after := by
  unfold taking
  rw [noteReports_replacing, replacing_replacing, queue_replacing]

theorem enqueue_eq_taking [Engine σ] (session : Session σ) (packet : Packet) (one : Rendered)
    (next : σ) (after : Renderer) (hparams : one.params = Engine.params next)
    (hbase : one.timeBase = Engine.timeBase next) :
    { session with engine := next }.enqueue packet one.frame one.data after =
      session.taking packet [one] next after := by
  have hsample : one.sample packet =
      ⟨one.data, one.frame.sampleTime packet,
        one.frame.sampleDuration packet (Engine.timeBase next)⟩ := by
    rw [Rendered.sample, hbase]
  calc { session with engine := next }.enqueue packet one.frame one.data after
      = (session.replacing next after (session.queue ++ [_])).noteFrameSize := rfl
    _ = (session.replacing next after (session.queue ++ [_])).noteReport (Engine.params next) :=
      noteFrameSize_eq_noteReport _
    _ = session.taking packet [one] next after := by
      rw [noteReport_replacing, ← hparams, ← hsample]
      rfl

/-- Frames that are accepted are taken one by one, and receiving goes on behind them. -/
theorem receiveFrames_of_accepted (packet : Packet) {session : Session ScriptedEngine}
    (hserves : session.renderer.Serves kind) {taken : List Rendered}
    {later : List (Except MediaError Rendered)}
    (h : outcomes kind session.engine session.engine.pending = taken.map .ok ++ later) :
    ∃ engine renderer, renderer.Serves kind ∧ outcomes kind engine engine.pending = later ∧
      engine.pending <:+ session.engine.pending ∧
      session.receiveFrames packet =
        (session.taking packet taken engine renderer).receiveFrames packet := by
  -- on the frames that are taken: the list of outcomes and receiving go on with the same engine
  induction taken generalizing session with
  | nil =>
    refine ⟨session.engine, session.renderer, hserves, h, List.suffix_refl _, ?_⟩
    rw [taking_nil]
  | cons one taken ih =>
    cases hpending : session.engine.pending with
    | nil =>
      rw [hpending] at h
      cases h
    | cons output rest =>
      rw [hpending] at h
      obtain ⟨hone, hrest⟩ := List.cons.inj h
      obtain ⟨hresult, hdata, hparams, hbase⟩ := outcome_eq_ok_iff.mp hone
      let next := session.engine.handOut output rest
      have hreceived : Engine.receiveFrame session.engine = (.ok one.frame, next) := by
        rw [receiveFrame_of_pending hpending, hresult]
      obtain ⟨hrendered, hkept⟩ := hserves.render next.params one.frame
      let after := (session.renderer.render next.params one.frame).2
      have hrender : session.renderer.render (Engine.params next) one.frame = (.ok one.data, after) :=
        Prod.ext (hrendered.trans hdata) rfl
      have hafter : (session.taking packet [one] next after).renderer.Serves kind := hkept
      obtain ⟨engine, renderer, hserves, hlater, hsuffix, hall⟩ := ih hafter hrest
      refine ⟨engine, renderer, hserves, hlater, hsuffix.trans (List.suffix_cons ..), ?_⟩
      rw [receiveFrames_of_rendered hreceived hrender,
        enqueue_eq_taking session packet one next after hparams hbase, hall, taking_append]
      rfl

theorem receiveFrames_of_empty {session : Session ScriptedEngine}
    (h : session.engine.pending = []) : session.receiveFrames packet = (.ok (), session) := by
  have hreceived : Engine.receiveFrame session.engine =
      (.error (if session.engine.ended then .endOfStream else .needMoreData), session.engine) := by
    show session.engine.receiveFrame = _
    unfold receiveFrame
    rw [h]
  rw [receiveFrames_of_failure hreceived]
  cases session.engine.ended <;> rfl

theorem receiveFrames_of_error (packet : Packet) {session : Session ScriptedEngine}
    (hserves : session.renderer.Serves kind)
    (hfailures : ∀ output ∈ session.engine.pending, ∀ error, output.result = .error error →
      error.isDrained = false)
    {error : MediaError} {later : List (Except MediaError Rendered)}
    (h : outcomes kind session.engine session.engine.pending = .error error :: later) :
    ∃ engine renderer, session.receiveFrames packet =
      (.error error, session.replacing engine renderer session.queue) := by
  cases hpending : session.engine.pending with
  | nil =>
    rw [hpending] at h
    cases h
  | cons output rest =>
    rw [hpending] at h hfailures
    obtain ⟨herror, -⟩ := List.cons.inj h
    let next := session.engine.handOut output rest
    have hreceived : Engine.receiveFrame session.engine = (output.result, next) :=
      receiveFrame_of_pending hpending
    unfold outcome at herror
    cases hresult : output.result with
    | error own =>
      rw [hresult] at herror hreceived
      cases herror
      have hown := hfailures output List.mem_cons_self _ hresult
      rw [receiveFrames_of_failure hreceived, hown]
      exact ⟨next, session.renderer, rfl⟩
    | ok frame =>
      rw [hresult] at herror hreceived
      dsimp only at herror
      obtain ⟨hrendered, -⟩ := hserves.render next.params frame
      let after := (session.renderer.render next.params frame).2
      cases hdata : Renderer.rendering kind next.params frame with
      | ok data =>
        rw [hdata] at herror
        cases herror
      | error own =>
        rw [hdata] at herror
        cases herror
        have hrender : session.renderer.render (Engine.params next) frame = (.error error, after) :=
          Prod.ext (hrendered.trans hdata) rfl
        rw [receiveFrames_of_rejected hreceived hrender]
        exact ⟨Engine.discardFrames next, after, rfl⟩

/-! ## Decoding -/

/-- A session has taken in rendered frames of a packet. -/
structure TakesIn (before : Session ScriptedEngine) (packet : Packet) (taken : List Rendered)
    (after : Session ScriptedEngine) : Prop where
  queue : ∃ samples, after.queue = before.queue ++ samples ∧
    List.Forall₂ (Rendered.Makes packet) taken samples
  output : after.output = (before.noteReports (taken.map Rendered.params)).output
  changed : after.sizeChanged = true ↔ ∃ earlier one later, taken = earlier ++ one :: later ∧
    (before.noteReports (earlier.map Rendered.params)).Differs one.params
  refuses : after.sizeChanged = true → ∀ next, after.decode next = (.ok .notAccepting, after)

theorem takesIn_taking {session : Session ScriptedEngine} (hunread : session.sizeChanged = false)
    (packet : Packet) (taken : List Rendered) (engine : ScriptedEngine) (renderer : Renderer) :
    session.TakesIn packet taken (session.taking packet taken engine renderer) := by
  refine ⟨⟨_, rfl, ?_⟩, rfl, ?_, ?_⟩
  · rw [List.forall₂_map_right_iff, List.forall₂_same]
    exact fun one _ => one.makes_sample packet
  · show (session.noteReports (taken.map Rendered.params)).sizeChanged = true ↔ _
    rw [sizeChanged_noteReports, hunread]
    constructor
    · rintro (h | ⟨before, params, behind, hreports, h⟩)
      · cases h
      · obtain ⟨earlier, others, rfl, rfl, hothers⟩ := List.map_eq_append_iff.mp hreports
        obtain ⟨one, later, rfl, rfl, -⟩ := List.map_eq_cons_iff.mp hothers
        exact ⟨earlier, one, later, rfl, h⟩
    · rintro ⟨earlier, one, later, rfl, h⟩
      exact Or.inr ⟨_, one.params, later.map Rendered.params, by simp, h⟩
  · intro hchanged next
    unfold decode
    rw [if_pos hchanged]

theorem decode_of_received [Engine σ] {session after : Session σ} {engine : σ}
    {result : Except MediaError Unit} (hunread : session.sizeChanged = false)
    (hsent : Engine.sendPacket session.engine packet = (.ok (), engine))
    (h : receiveFrames (session.replacing engine session.renderer session.queue) packet =
      (result, after)) :
    session.decode packet =
      (result.map fun _ =>
        if after.queue.length = session.queue.length then .needMoreInput else .queued, after) := by
  change receiveFrames { session with engine := engine } packet = _ at h
  unfold decode
  rw [if_neg (by rw [hunread]; exact Bool.false_ne_true), hsent]
  dsimp only
  rw [h]
  cases result <;> rfl

/-- What a packet does that the engine takes, by what its outputs become. -/
theorem decode_of_sent {session : Session ScriptedEngine} {engine : ScriptedEngine}
    (hserves : session.renderer.Serves kind) (hunread : session.sizeChanged = false)
    (hsent : Engine.sendPacket session.engine packet = (.ok (), engine))
    (hfailures : ∀ output ∈ engine.pending, ∀ error, output.result = .error error →
      error.isDrained = false) (taken : List Rendered) :
    (outcomes kind engine engine.pending = taken.map .ok → ∃ next renderer,
      session.decode packet =
        (.ok (if engine.pending = [] then .needMoreInput else .queued),
          session.taking packet taken next renderer)) ∧
    (∀ error later, outcomes kind engine engine.pending = taken.map .ok ++ .error error :: later →
      ∃ next renderer,
        session.decode packet = (.error error, session.taking packet taken next renderer)) := by
  let sent := session.replacing engine session.renderer session.queue
  have hsentServes : sent.renderer.Serves kind := hserves
  have htaking (next : ScriptedEngine) (renderer : Renderer) :
      sent.taking packet taken next renderer = session.taking packet taken next renderer :=
    taking_replacing ..
  constructor
  · intro h
    have hall : outcomes kind sent.engine sent.engine.pending = taken.map .ok ++ [] := by
      rw [List.append_nil]
      exact h
    obtain ⟨next, renderer, -, hnone, -, hreceived⟩ :=
      receiveFrames_of_accepted packet hsentServes hall
    have hempty : next.pending = [] := by
      rw [← List.length_eq_zero_iff, ← length_outcomes kind next, hnone]
      rfl
    have hcount : taken.length = engine.pending.length := by
      rw [← length_outcomes kind engine, h, List.length_map]
    have hlength : (session.taking packet taken next renderer).queue.length =
        session.queue.length ↔ engine.pending = [] := by
      show (session.queue ++ taken.map (·.sample packet)).length = _ ↔ _
      rw [List.length_append, List.length_map, hcount, Nat.add_eq_left, List.length_eq_zero_iff]
    have hend : (session.taking packet taken next renderer).receiveFrames packet = (.ok (), _) :=
      receiveFrames_of_empty hempty
    refine ⟨next, renderer, ?_⟩
    rw [htaking] at hreceived
    rw [decode_of_received hunread hsent (hreceived.trans hend)]
    simp only [Except.map, hlength]
  · intro error later h
    obtain ⟨next, renderer, hkept, hlater, hsuffix, hreceived⟩ :=
      receiveFrames_of_accepted packet hsentServes h
    have hnext : (session.taking packet taken next renderer).renderer.Serves kind := hkept
    obtain ⟨last, after, herror⟩ := receiveFrames_of_error packet hnext
      (fun output hout => hfailures output (hsuffix.mem hout)) hlater
    refine ⟨last, after, ?_⟩
    rw [htaking] at hreceived
    rw [decode_of_received hunread hsent (hreceived.trans herror)]
    rfl

/-- **What one packet does.** In a session without an unread change the engine takes a packet, and
none of its outputs says that nothing is left. Then the answer is the first error, of the engine or of
the renderer, or else whether there were frames at all. The frames before the error, or all of them,
become the samples behind those that wait, in order; a change that one of them raises stays unread
and does not stop those behind it. -/
theorem decode_outcomes {registry : EngineRegistry ScriptedEngine} {input output : MediaType}
    {start : Session ScriptedEngine} (hs : create registry input output = .ok start)
    (calls : List SessionCall) {packet : Packet} {engine : ScriptedEngine}
    (hunread : (start.run calls).2.sizeChanged = false)
    (hsent : Engine.sendPacket (start.run calls).2.engine packet = (.ok (), engine))
    (hfailures : ∀ output ∈ engine.pending, ∀ error, output.result = .error error →
      error.isDrained = false) (taken : List Rendered) :
    let session := (start.run calls).2
    (outcomes output.kind engine engine.pending = taken.map .ok →
      (session.decode packet).1 =
        .ok (if engine.pending = [] then .needMoreInput else .queued) ∧
      session.TakesIn packet taken (session.decode packet).2) ∧
    (∀ error later,
      outcomes output.kind engine engine.pending = taken.map .ok ++ .error error :: later →
      (session.decode packet).1 = .error error ∧
      session.TakesIn packet taken (session.decode packet).2) := by
  intro session
  have hserves : session.renderer.Serves output.kind := serves_run (serves_create hs) calls
  obtain ⟨hall, hfirst⟩ := decode_of_sent hserves hunread hsent hfailures taken
  constructor
  · intro h
    obtain ⟨next, renderer, hdecode⟩ := hall h
    rw [hdecode]
    exact ⟨rfl, takesIn_taking hunread packet taken next renderer⟩
  · intro error later h
    obtain ⟨next, renderer, hdecode⟩ := hfirst error later h
    rw [hdecode]
    exact ⟨rfl, takesIn_taking hunread packet taken next renderer⟩

/-- A rendered gray picture of four by four black pixels. -/
def blackSquare : Rendered where
  frame := .video
    { VideoFrame.blank ⟨4, 4⟩ .gray8 with planes := [.zeros 16], strides := [4] }
  data := Bytes.zeros 16 ++ Array.replicate 8 128
  params := grayParams ⟨4, 4⟩
  timeBase := .undefined

/-- Two gray pictures of four by four pixels, and an error behind them. -/
def faltering : List ScriptedOutput :=
  [grayOutput ⟨4, 4⟩, grayOutput ⟨4, 4⟩, ⟨none, .error (.engine (.stated "boom"))⟩]

theorem isDrained_of_mem_faltering : ∀ output ∈ faltering, ∀ error,
    output.result = .error error → error.isDrained = false := by
  intro output houtput error herror
  simp only [faltering, List.mem_cons, List.not_mem_nil, or_false] at houtput
  rcases houtput with rfl | rfl | rfl <;> cases herror
  rfl

/-- The first of two larger pictures raises a change, the second one is queued as well, and the error
behind them is returned. -/
theorem decode_outcomes_faltering :
    ∃ start, create (grayRegistry ⟨2, 2⟩ faltering) (.video .h264 ⟨2, 2⟩)
        (.video .nv12 ⟨2, 2⟩) = .ok start ∧
      (start.decode onePacket).1 = .error (.engine (.stated "boom")) ∧
      start.TakesIn onePacket [blackSquare, blackSquare] (start.decode onePacket).2 ∧
      (start.decode onePacket).2.queue.length = 2 ∧
      (start.decode onePacket).2.sizeChanged = true := by
  obtain ⟨-, decoded⟩ := @decode_outcomes (grayRegistry ⟨2, 2⟩ faltering) (.video .h264 ⟨2, 2⟩)
    (.video .nv12 ⟨2, 2⟩) _ rfl [] onePacket _ rfl rfl isDrained_of_mem_faltering
    [blackSquare, blackSquare]
  obtain ⟨hanswer, htaken⟩ := decoded (.engine (.stated "boom")) [] (by decide +kernel)
  exact ⟨_, rfl, hanswer, htaken, by decide +kernel, by decide +kernel⟩

end Session

end StreamDecode
