import Mathlib.Control.Monad.Basic
import StreamDecode.Engine.Scripted
import StreamDecode.Proofs.Session.Rendered

/-!
# Frame sizes that a session has seen

A session compares the frame size that its engine reports with the one that it observed last, and
not with its output type. It does so when the engine has been opened, and after each frame that
became a sample. What an engine reports with a frame that is not rendered, or with a failure, is not
looked at. A new engine makes the session forget what it observed: it goes on from the frame size of
its input type.

`Sightings` is the history that this depends on: the frame size of the output type at the moment
when the engine was opened, and the sizes that were reported then and with rendered frames. `Tracks`
says how a session follows from it, one comparison keeps it (`tracks_noteFrameSize`), and so does
every operation (`tracks_step`). So the output type has the last of these sizes, unless all of them
are the size of the input type (`frameSize_of_queued`).
-/

namespace StreamDecode

/-! ## Sightings -/

/-- What a session has seen of frame sizes since its engine was opened: the frame size that its
output type had at that moment, and the sizes that the engine reported then and with each frame that
was rendered. Reports with other frames and with failures are not seen. -/
structure Sightings where
  announced : Option FrameSize
  reports : List FrameSize

namespace Sightings

/-- What has been seen when an engine has just been opened. -/
def opened {σ : Type} [Engine σ] (output : MediaType) (engine : σ) : Sightings :=
  ⟨output.frameSize?, (Engine.params engine).frameSize?.toList⟩

/-- Sightings with further reports; an engine that knows no size reports nothing. -/
def add (seen : Sightings) (params : List StreamParams) : Sightings :=
  { seen with reports := seen.reports ++ params.filterMap StreamParams.frameSize? }

/-- Whether no size other than the declared one has been seen. -/
def NothingNew (declared : Option FrameSize) (seen : Sightings) : Prop :=
  ∀ size ∈ seen.reports, declared = some size

instance (declared : Option FrameSize) (seen : Sightings) :
    Decidable (seen.NothingNew declared) := by unfold NothingNew; infer_instance

/-- The frame size that the output type should have: the one seen last, unless nothing but the
declared size was seen, which passes unnoticed. -/
def current (declared : Option FrameSize) (seen : Sightings) : Option FrameSize :=
  if seen.NothingNew declared then seen.announced else seen.reports.getLast?

/-- The size that was observed last: the one seen last, or the declared one before that. -/
def observed (declared : Option FrameSize) (seen : Sightings) : Option FrameSize :=
  seen.reports.getLast?.or declared

variable {declared : Option FrameSize} {seen : Sightings}

@[simp] theorem add_nil (seen : Sightings) : seen.add [] = seen := by simp [add]

theorem add_append (seen : Sightings) (first second : List StreamParams) :
    seen.add (first ++ second) = (seen.add first).add second := by
  simp [add, List.filterMap_append]

theorem add_of_none (seen : Sightings) {params : StreamParams} (h : params.frameSize? = none) :
    seen.add [params] = seen := by
  simp [add, h]

theorem reports_add_of_some (seen : Sightings) {params : StreamParams} {size : FrameSize}
    (h : params.frameSize? = some size) : (seen.add [params]).reports = seen.reports ++ [size] := by
  simp [add, h]

theorem getLast?_reports_add (seen : Sightings) {params : List StreamParams} {last : StreamParams}
    {size : FrameSize} (hl : params.getLast? = some last) (h : last.frameSize? = some size) :
    (seen.add params).reports.getLast? = some size := by
  obtain ⟨before, rfl⟩ := List.getLast?_eq_some_iff.mp hl
  rw [add_append, reports_add_of_some _ h, List.getLast?_concat]

theorem observed_add_of_some (seen : Sightings) {params : StreamParams} {size : FrameSize}
    (h : params.frameSize? = some size) : (seen.add [params]).observed declared = some size := by
  unfold observed
  rw [reports_add_of_some seen h, List.getLast?_concat, Option.some_or]

theorem observed_of_nothingNew (h : seen.NothingNew declared) :
    seen.observed declared = declared := by
  unfold observed
  cases hl : seen.reports.getLast? with
  | none => rfl
  | some size => exact (h size (List.mem_of_getLast? hl)).symm

theorem nothingNew_add_iff (seen : Sightings) {params : StreamParams} {size : FrameSize}
    (h : params.frameSize? = some size) :
    (seen.add [params]).NothingNew declared ↔ seen.NothingNew declared ∧ declared = some size := by
  unfold NothingNew
  rw [reports_add_of_some seen h]
  simp [or_imp, forall_and]

theorem current_add_of_observed {params : StreamParams} {size : FrameSize}
    (h : params.frameSize? = some size) (ho : seen.observed declared = some size) :
    (seen.add [params]).current declared = seen.current declared := by
  unfold current
  by_cases hn : seen.NothingNew declared
  · have hd : declared = some size := (observed_of_nothingNew hn).symm.trans ho
    rw [if_pos hn, if_pos ((nothingNew_add_iff seen h).mpr ⟨hn, hd⟩)]
    rfl
  · have hlast : seen.reports.getLast? = some size := by
      unfold observed at ho
      cases hl : seen.reports.getLast? with
      | none =>
        -- without a report there is nothing new
        rw [List.getLast?_eq_none_iff] at hl
        refine absurd ?_ hn
        intro other ho'
        rw [hl] at ho'
        cases ho'
      | some last => rw [hl, Option.some_or] at ho; exact ho
    rw [if_neg hn, if_neg fun hn' => hn ((nothingNew_add_iff seen h).mp hn').1,
      reports_add_of_some seen h, List.getLast?_concat, hlast]

theorem current_add_of_ne {params : StreamParams} {size : FrameSize}
    (h : params.frameSize? = some size) (ho : seen.observed declared ≠ some size) :
    (seen.add [params]).current declared = some size := by
  unfold current
  rw [if_neg, reports_add_of_some seen h, List.getLast?_concat]
  intro hn
  obtain ⟨hn, hd⟩ := (nothingNew_add_iff seen h).mp hn
  exact ho ((observed_of_nothingNew hn).trans hd)

end Sightings

namespace Session

variable {σ : Type} [Engine σ]

/-- What has been seen after an operation. -/
def seenAfter (session : Session σ) (seen : Sightings) : SessionCall → Sightings
  | .decode packet => seen.add ((session.renderedOf packet).map Rendered.params)
  | .flushInput | .flush =>
    match session.registry.openEngine session.settings with
    | .ok engine => .opened session.output engine
    | .error _ => seen
  | .popSample | .takeFormatChange => seen

/-- What has been seen after a run. -/
def seenIn (session : Session σ) (seen : Sightings) : List SessionCall → Sightings
  | [] => seen
  | call :: calls => (session.step call).2.seenIn (session.seenAfter seen call) calls

theorem seenIn_append (session : Session σ) (seen : Sightings) (calls later : List SessionCall) :
    session.seenIn seen (calls ++ later) =
      (session.run calls).2.seenIn (session.seenIn seen calls) later := by
  induction calls generalizing session seen with
  | nil => rfl
  | cons call calls ih => exact ih _ _

/-! ## What a session makes of it -/

/-- The observed size and the frame size of the output type are what follows from the sightings. -/
structure Tracks (session : Session σ) (seen : Sightings) : Prop where
  video : session.output.kind = .video
  observed : session.observedSize = seen.observed session.input.frameSize?
  output : session.output.frameSize? = seen.current session.input.frameSize?

theorem reportedSize?_of_video {session : Session σ} (h : session.output.kind = .video) :
    session.reportedSize? = (Engine.params session.engine).frameSize? := by
  unfold reportedSize?
  rw [if_pos h]
  rfl

omit [Engine σ] in
theorem frameSize?_observe (session : Session σ) (size : FrameSize) :
    (session.observe size).output.frameSize? = some size := by
  unfold observe
  split
  · assumption
  · exact MediaType.frameSize?_withFrameSize _ _

omit [Engine σ] in
theorem observedSize_observe (session : Session σ) (size : FrameSize) :
    (session.observe size).observedSize = some size := by
  unfold observe
  split <;> rfl

theorem tracks_noteFrameSize {session : Session σ} {seen : Sightings} (h : session.Tracks seen) :
    session.noteFrameSize.Tracks (seen.add [Engine.params session.engine]) := by
  have hr := reportedSize?_of_video h.video
  unfold noteFrameSize
  cases hs : (Engine.params session.engine).frameSize? with
  | none =>
    rw [hr, hs, seen.add_of_none hs]
    exact h
  | some size =>
    rw [hr, hs]
    dsimp only
    by_cases ho : session.observedSize = some size
    · have hseen : seen.observed session.input.frameSize? = some size := h.observed.symm.trans ho
      rw [if_pos ho]
      refine ⟨h.video, ?_, ?_⟩
      · rw [ho, seen.observed_add_of_some hs]
      · rw [h.output, Sightings.current_add_of_observed hs hseen]
    · have hseen : seen.observed session.input.frameSize? ≠ some size := by
        rw [← h.observed]
        exact ho
      have hc := continues_observe session size
      rw [if_neg ho]
      refine ⟨hc.output.kind.trans h.video, ?_, ?_⟩
      · rw [observedSize_observe, seen.observed_add_of_some hs]
      · rw [frameSize?_observe, hc.input, Sightings.current_add_of_ne hs hseen]

theorem tracks_receiveFrames {session : Session σ} {seen : Sightings} (packet : Packet)
    (h : session.Tracks seen) :
    (session.receiveFrames packet).2.Tracks
      (seen.add ((renderedFrom session.engine session.renderer).map Rendered.params)) := by
  fun_induction receiveFrames session packet generalizing seen with
  | case1 session error engine hf =>
    rw [renderedFrom_of_failure hf, List.map_nil, Sightings.add_nil]
    exact ⟨h.video, h.observed, h.output⟩
  | case2 session frame engine hf error renderer hr =>
    rw [renderedFrom_of_rejected hf hr, List.map_nil, Sightings.add_nil]
    exact ⟨h.video, h.observed, h.output⟩
  | case3 session frame engine hf data renderer hr ih =>
    have hqueued : Tracks
        { session with
          engine := engine
          renderer := renderer
          queue := session.queue ++ [⟨data, frame.sampleTime packet,
            frame.sampleDuration packet (Engine.timeBase engine)⟩] } seen :=
      ⟨h.video, h.observed, h.output⟩
    have hrest := ih (tracks_noteFrameSize hqueued)
    rw [engine_enqueue, renderer_enqueue] at hrest
    rw [renderedFrom_of_rendered hf hr, List.map_cons, ← List.singleton_append, Sightings.add_append]
    exact hrest

theorem tracks_decode {session : Session σ} {seen : Sightings} (packet : Packet)
    (h : session.Tracks seen) :
    (session.decode packet).2.Tracks (session.seenAfter seen (.decode packet)) := by
  show (session.decode packet).2.Tracks
    (seen.add ((session.renderedOf packet).map Rendered.params))
  unfold decode renderedOf
  split
  · rw [List.map_nil, Sightings.add_nil]
    exact h
  · split
    · next hs =>
      rw [hs, List.map_nil, Sightings.add_nil]
      exact ⟨h.video, h.observed, h.output⟩
    · next hs =>
      rw [hs, List.map_nil, Sightings.add_nil]
      exact ⟨h.video, h.observed, h.output⟩
    · next engine hs =>
      have hsent : Tracks { session with engine := engine } seen := ⟨h.video, h.observed, h.output⟩
      have hr := tracks_receiveFrames packet hsent
      rw [hs]
      split <;> next he => rw [he] at hr; exact hr

/-- A new engine makes the session go on from the frame size of its input type. -/
theorem tracks_opened {session : Session σ} (engine : σ) (h : session.output.kind = .video)
    (ho : session.observedSize = session.input.frameSize?) (he : session.engine = engine) :
    session.noteFrameSize.Tracks (.opened session.output engine) := by
  have hempty : session.Tracks ⟨session.output.frameSize?, []⟩ := by
    refine ⟨h, ho, ?_⟩
    unfold Sightings.current
    rw [if_pos (by intro size hm; cases hm)]
  have hn := tracks_noteFrameSize hempty
  have hopened : Sightings.add ⟨session.output.frameSize?, []⟩ [Engine.params session.engine] =
      .opened session.output engine := by
    unfold Sightings.add Sightings.opened
    rw [List.nil_append, he]
    cases hs : (Engine.params engine).frameSize? with
    | none => simp [hs]
    | some size => simp [hs]
  rw [hopened] at hn
  exact hn

theorem tracks_flushInput {session : Session σ} {seen : Sightings} (h : session.Tracks seen) :
    session.flushInput.2.Tracks (session.seenAfter seen .flushInput) := by
  unfold flushInput seenAfter
  cases ho : session.registry.openEngine session.settings with
  | error error => exact ⟨h.video, h.observed, h.output⟩
  | ok engine => exact tracks_opened engine h.video rfl rfl

theorem tracks_step {session : Session σ} {seen : Sightings} (call : SessionCall)
    (h : session.Tracks seen) :
    (session.step call).2.Tracks (session.seenAfter seen call) := by
  cases call with
  | decode packet => exact tracks_decode packet h
  | popSample =>
    show session.popSample.2.Tracks seen
    unfold popSample
    split
    · exact h
    · exact ⟨h.video, h.observed, h.output⟩
  | takeFormatChange =>
    show session.takeFormatChange.2.Tracks seen
    unfold takeFormatChange
    split
    · exact ⟨h.video, h.observed, h.output⟩
    · exact h
  | flushInput => exact tracks_flushInput h
  | flush =>
    have hempty : Tracks { session with queue := [] } seen := ⟨h.video, h.observed, h.output⟩
    exact tracks_flushInput hempty

theorem tracks_run {session : Session σ} {seen : Sightings} (calls : List SessionCall)
    (h : session.Tracks seen) : (session.run calls).2.Tracks (session.seenIn seen calls) := by
  induction calls generalizing session seen with
  | nil => exact h
  | cons call calls ih => exact ih (tracks_step call h)

/-- A new session of a video output has seen what its engine reported when it was opened. -/
theorem tracks_create {registry : EngineRegistry σ} {input output : MediaType}
    {session : Session σ} (h : create registry input output = .ok session)
    (hv : output.kind = .video) : session.Tracks (.opened output session.engine) := by
  obtain ⟨settings, engine, renderer, -, -, rfl⟩ := eq_of_create h
  rw [engine_noteFrameSize]
  exact tracks_opened engine hv rfl rfl

/-! ## What is reported on return -/

/-- Whether an engine that hands out no frame reports what it reported before. -/
def KeepsParams (σ : Type) [Engine σ] : Prop :=
  ∀ (engine next : σ) (error : MediaError),
    Engine.receiveFrame engine = (.error error, next) → Engine.params next = Engine.params engine

/-- Receiving that succeeds ends with the report of the last frame, or without one. -/
theorem params_receiveFrames (hk : KeepsParams σ) {session : Session σ} {packet : Packet}
    (h : (session.receiveFrames packet).1 = .ok ()) :
    Engine.params (session.receiveFrames packet).2.engine =
      ((renderedFrom session.engine session.renderer).getLast?.map Rendered.params).getD
        (Engine.params session.engine) := by
  fun_induction receiveFrames session packet with
  | case1 session error engine hf =>
    rw [renderedFrom_of_failure hf]
    exact hk _ _ _ hf
  | case2 session frame engine hf error renderer hr => cases h
  | case3 session frame engine hf data renderer hr ih =>
    rw [ih h, engine_enqueue, renderer_enqueue, renderedFrom_of_rendered hf hr, List.getLast?_cons]
    cases (renderedFrom engine renderer).getLast? with
    | none => rfl
    | some last => rfl

/-- After a packet that brought samples the engine reports what it reported with the last frame. -/
theorem params_decode (hk : KeepsParams σ) {session : Session σ} {packet : Packet}
    (h : (session.decode packet).1 = .ok .queued) {last : Rendered}
    (hl : (session.renderedOf packet).getLast? = some last) :
    Engine.params (session.decode packet).2.engine = last.params := by
  unfold decode at h ⊢
  unfold renderedOf at hl
  by_cases hc : session.sizeChanged = true
  · rw [if_pos hc] at h
    cases h
  · rw [if_neg hc] at h hl ⊢
    cases hs : Engine.sendPacket session.engine packet with
    | mk result engine =>
      rw [hs] at h hl
      cases result with
      | error error => cases hl
      | ok =>
        have hp := @params_receiveFrames _ _ hk { session with engine := engine } packet
        dsimp only at h hl hp ⊢
        rw [hl] at hp
        cases hr : receiveFrames { session with engine := engine } packet with
        | mk result after =>
          rw [hr] at h hp
          cases result with
          | error error => cases h
          | ok => exact hp rfl

/-! ## Format changes -/

/-- **When a format change is noticed.** Take a packet that brings samples, at any time in the life
of a video session, and the frame size that the engine reports with the last frame, if it knows one;
an engine whose failures leave its report alone still reports it on return. Afterwards the output
type has this size, unless the engine has reported nothing but the size of the input type when it was
opened and with the frames rendered since: then the output type has the size that it had at that
moment. When the packet makes the size of the output type another one, there is a format change to be
taken. -/
theorem frameSize_of_queued {registry : EngineRegistry σ} {input output : MediaType}
    {start : Session σ} (hs : create registry input output = .ok start)
    (hv : output.kind = .video) (calls : List SessionCall) (packet : Packet)
    (hq : ((start.run calls).2.decode packet).1 = .ok .queued) :
    let session := (start.run calls).2
    let after := (session.decode packet).2
    let seen := start.seenIn (.opened output start.engine) (calls ++ [.decode packet])
    ∃ last, (session.renderedOf packet).getLast? = some last ∧
      (KeepsParams σ → Engine.params after.engine = last.params) ∧
      ∀ size, last.params.frameSize? = some size →
        (¬ seen.NothingNew input.frameSize? → after.output.frameSize? = some size) ∧
        (seen.NothingNew input.frameSize? →
          input.frameSize? = some size ∧ after.output.frameSize? = seen.announced) ∧
        (after.output.frameSize? ≠ session.output.frameSize? → after.sizeChanged = true) := by
  intro session after seen
  have hlast := List.getLast?_eq_some_getLast (renderedOf_ne_nil hq)
  refine ⟨_, hlast, fun hk => params_decode hk hq hlast, ?_⟩
  intro size hsize
  have htracks : session.Tracks (start.seenIn (.opened output start.engine) calls) :=
    tracks_run calls (tracks_create hs hv)
  have hseen : seen = (start.seenIn (.opened output start.engine) calls).add
      ((session.renderedOf packet).map Rendered.params) := seenIn_append ..
  have hinput : after.input = input :=
    ((continues_decode session packet).input.trans (start.sameOrigin_run calls).input).trans
      (input_of_create hs)
  have houtput : after.output.frameSize? = seen.current input.frameSize? := by
    rw [hseen, ← hinput]
    exact (tracks_decode packet htracks).output
  have hreport : seen.reports.getLast? = some size := by
    rw [hseen]
    exact Sightings.getLast?_reports_add _ (by rw [List.getLast?_map, hlast]; rfl) hsize
  refine ⟨?_, ?_, ?_⟩
  · intro hn
    rw [houtput, Sightings.current, if_neg hn, hreport]
  · intro hn
    refine ⟨hn size (List.mem_of_getLast? hreport), ?_⟩
    rw [houtput, Sightings.current, if_pos hn]
  · intro hne
    refine eq_true_of_ne_false fun hc => hne ?_
    rw [(continues_decode session packet).output_eq hc]

/-! ### Engines with gray pictures -/

/-- What an engine reports of gray pictures of a size. -/
def grayParams (size : FrameSize) : StreamParams := .video ⟨size, .gray8, .undefined, .one⟩

/-- A gray picture of a size, and the engine reports that size with it. -/
def grayOutput (size : FrameSize) : ScriptedOutput where
  reported := some (.fixed (grayParams size))
  result := .ok <| .video
    { VideoFrame.blank size .gray8 with
      planes := [.zeros (size.width.toNat * size.height.toNat)]
      strides := [size.width.toNat] }

/-- An engine that reports gray pictures of a size when it is opened, and answers every packet with
the same outputs. -/
def grayEngine (opened : FrameSize) (outputs : List ScriptedOutput) : ScriptedEngine where
  codec := .h264
  name := "scripted"
  timeBase := .undefined
  openError := none
  script _ := .emit outputs none
  reported := .fixed (grayParams opened)
  openedWith := .unknown
  pending := []
  ended := false

def grayRegistry (opened : FrameSize) (outputs : List ScriptedOutput) :
    EngineRegistry ScriptedEngine :=
  ⟨[⟨.h264, "scripted", .ok (grayEngine opened outputs)⟩], []⟩

def onePacket : Packet := ⟨#[0], 0, 0, .hundredNanos⟩

/-- The first picture is larger than the engine said when it was opened: the output type follows it,
and there is a format change. -/
theorem frameSize_of_queued_growing :
    ∃ start, create (grayRegistry ⟨2, 2⟩ [grayOutput ⟨4, 4⟩]) (.video .h264 ⟨2, 2⟩)
        (.video .nv12 ⟨2, 2⟩) = .ok start ∧
      (start.decode onePacket).1 = .ok .queued ∧
      (start.decode onePacket).2.output.frameSize? = some ⟨4, 4⟩ ∧
      (start.decode onePacket).2.sizeChanged = true := by
  have noticed := @frameSize_of_queued _ _ (grayRegistry ⟨2, 2⟩ [grayOutput ⟨4, 4⟩])
    (.video .h264 ⟨2, 2⟩) (.video .nv12 ⟨2, 2⟩) _ rfl rfl [] onePacket (by decide +kernel)
  obtain ⟨last, hlast, -, h⟩ := noticed
  have hlast_size : (some last).map (·.params.frameSize?) = some (some ⟨4, 4⟩) := by
    rw [← hlast]
    decide +kernel
  obtain ⟨hnew, -, hchanged⟩ := h ⟨4, 4⟩ (Option.some.inj hlast_size)
  have hafter := hnew (by decide +kernel)
  refine ⟨_, rfl, by decide +kernel, hafter, hchanged ?_⟩
  rw [hafter]
  decide +kernel

/-- The output type need not have the size that the engine reports. The host may ask for another size
than that of the input type, and if the pictures have the size of the input type, nothing is noticed.
And an engine may report another size with the failure that ends receiving. -/
theorem frameSize_unnoticed_after_queued :
    (∃ start, create (grayRegistry ⟨2, 2⟩ [grayOutput ⟨2, 2⟩]) (.video .h264 ⟨2, 2⟩)
        (.video .nv12 ⟨4, 4⟩) = .ok start ∧
      (start.decode onePacket).1 = .ok .queued ∧
      (Engine.params (start.decode onePacket).2.engine).frameSize? = some ⟨2, 2⟩ ∧
      (start.decode onePacket).2.output.frameSize? = some ⟨4, 4⟩ ∧
      (start.decode onePacket).2.sizeChanged = false) ∧
    ∃ start, create (grayRegistry ⟨2, 2⟩
          [grayOutput ⟨2, 2⟩, ⟨some (.fixed (grayParams ⟨4, 4⟩)), .error .needMoreData⟩])
        (.video .h264 ⟨2, 2⟩) (.video .nv12 ⟨2, 2⟩) = .ok start ∧
      (start.decode onePacket).1 = .ok .queued ∧
      (Engine.params (start.decode onePacket).2.engine).frameSize? = some ⟨4, 4⟩ ∧
      (start.decode onePacket).2.output.frameSize? = some ⟨2, 2⟩ ∧
      (start.decode onePacket).2.sizeChanged = false := by
  constructor
  · refine ⟨_, rfl, ?_, ?_, ?_, ?_⟩ <;> decide +kernel
  · refine ⟨_, rfl, ?_, ?_, ?_, ?_⟩ <;> decide +kernel

end Session

end StreamDecode
