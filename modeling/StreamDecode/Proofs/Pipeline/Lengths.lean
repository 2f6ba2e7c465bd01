import StreamDecode.Proofs.Pipeline.Effects
import StreamDecode.Proofs.Session.Sightings

/-!
# The length of delivered pictures

A sample and the announcement of its size travel apart: the sample waits in the queue, and a format
change is told by the next pull, ahead of all samples.

`Pipeline.history` follows the session that a pipeline has at the moment: what it was created for,
what was asked of it since, and the frame size that the host was told last. `Lives` says that the
session is what its history makes of it, and every call keeps it (`remembers_step`). So a delivered
picture is the oldest one of the history, in its own size, and the host was told the size of
`Sightings.current`, which is the last one that was reported on opening or with a rendered frame
(`length_of_delivered`).
-/

namespace StreamDecode

/-- The life of a session in a pipeline: the types that it was created for, its state at that moment,
the operations since then, and the frame size that the host was told last. -/
structure SessionHistory (σ : Type) where
  input : MediaType
  output : MediaType
  start : Session σ
  calls : List SessionCall
  told : Option FrameSize

namespace SessionHistory

variable {σ : Type} [Engine σ]

/-- The frames of the queued samples. -/
def frames (history : SessionHistory σ) : List Rendered := history.start.framesIn [] history.calls

/-- The frame sizes that the session has seen, on opening and with rendered frames. -/
def seen (history : SessionHistory σ) : Sightings :=
  history.start.seenIn (.opened history.output history.start.engine) history.calls

omit [Engine σ] in
/-- The history with further operations. An announcement tells the host the frame size of the
suggested type. -/
def extend (history : SessionHistory σ) (demands : List SessionCall) (event : Option HostEvent) :
    SessionHistory σ :=
  { history with
    calls := history.calls ++ demands
    told :=
      match event with
      | some (.streamChange type) => type.frameSize?
      | _ => history.told }

/-- The session is what the history makes of it, and without a change that the host has not seen, the
host was told its frame size. -/
structure Lives (history : SessionHistory σ) (registry : EngineRegistry σ) (session : Session σ) :
    Prop where
  created : Session.create registry history.input history.output = .ok history.start
  session_eq : session = (history.start.run history.calls).2
  told : session.sizeChanged = false → history.told = session.output.frameSize?

end SessionHistory

namespace Pipeline

variable {σ : Type} [Engine σ]

/-- The history of a session that is created for the committed types. -/
def newHistory? (pipeline : Pipeline σ) : Option (SessionHistory σ) :=
  match pipeline.negotiation.input, pipeline.negotiation.output, pipeline.ensureSession with
  | some input, some output, .ok start => some ⟨input, output, start, [], output.frameSize?⟩
  | _, _, _ => none

/-- The history of the session after a call, if there is one. -/
def historyAfter (pipeline : Pipeline σ) (past : Option (SessionHistory σ)) (call : Call) :
    Option (SessionHistory σ) :=
  if (pipeline.step call).2.session.isSome then
    (if pipeline.session.isSome then past else pipeline.newHistory?).map
      (·.extend (pipeline.demands call) (pipeline.event? call))
  else none

/-- The history of the session after a run. -/
def history (pipeline : Pipeline σ) (past : Option (SessionHistory σ)) :
    List Call → Option (SessionHistory σ)
  | [] => past
  | call :: calls => (pipeline.step call).2.history (pipeline.historyAfter past call) calls

/-- The session, if there is one, is what its history makes of it. -/
def Remembers (pipeline : Pipeline σ) (past : Option (SessionHistory σ)) : Prop :=
  ∀ session, pipeline.session = some session →
    ∃ history, past = some history ∧ history.Lives pipeline.registry session

/-- What the host was told when operations follow that it does not hear of. -/
theorem lives_extend {pipeline : Pipeline σ} {call : Call} {history : SessionHistory σ}
    {registry : EngineRegistry σ} {session : Session σ} (h : history.Lives registry session)
    (hs : ∀ present, pipeline.session = some present → present = session) :
    (history.extend (pipeline.demands call) (pipeline.event? call)).Lives registry
      (session.run (pipeline.demands call)).2 := by
  refine ⟨h.created, ?_, ?_⟩
  · show _ = (history.start.run (history.calls ++ pipeline.demands call)).2
    rw [Session.run_append, ← h.session_eq]
  · intro hc
    rcases streamChange_cases pipeline call with ⟨present, hp, hchanged, he, hd⟩ | ⟨he, hd⟩
    · obtain rfl := hs present hp
      rw [hd]
      show (history.extend _ (pipeline.event? call)).told = present.takeFormatChange.2.output.frameSize?
      rw [he]
      unfold Session.takeFormatChange
      rw [if_pos hchanged]
      rfl
    · have hcontinues := session.continues_run hd
      have htold : (history.extend (pipeline.demands call) (pipeline.event? call)).told =
          history.told := by
        unfold SessionHistory.extend
        dsimp only
        split
        · next he' => exact absurd he' (he _)
        · rfl
      rw [htold, hcontinues.output_eq hc]
      exact h.told (hcontinues.sizeChanged_eq_false hc)

theorem remembers_step {pipeline : Pipeline σ} {past : Option (SessionHistory σ)} (call : Call)
    (h : pipeline.Remembers past) :
    (pipeline.step call).2.Remembers (pipeline.historyAfter past call) := by
  intro later hl
  rw [registry_step]
  unfold historyAfter
  rw [hl, Option.isSome_some, if_pos rfl]
  obtain ⟨session, he, rfl⟩ := session_step hl
  rcases ensureSession_eq_ok he with hs | ⟨hs, input, output, hi, ho, hc⟩
  · obtain ⟨history, hpast, hlives⟩ := h session hs
    rw [hs, Option.isSome_some, if_pos rfl, hpast]
    refine ⟨_, rfl, lives_extend hlives ?_⟩
    intro present hp
    exact Option.some.inj (hp.symm.trans hs)
  · have hnew : pipeline.newHistory? = some ⟨input, output, session, [], output.frameSize?⟩ := by
      unfold newHistory?
      rw [hi, ho, he]
    rw [hs, Option.isSome_none, if_neg Bool.false_ne_true, hnew]
    refine ⟨_, rfl, lives_extend ⟨hc, rfl, ?_⟩ ?_⟩
    · intro hchanged
      rw [Session.output_of_create hc hchanged]
    · intro present hp
      cases hs.symm.trans hp

theorem remembers_run {pipeline : Pipeline σ} {past : Option (SessionHistory σ)}
    (calls : List Call) (h : pipeline.Remembers past) :
    (pipeline.run calls).2.Remembers (pipeline.history past calls) := by
  induction calls generalizing pipeline past with
  | nil => exact h
  | cons call calls ih => exact ih (remembers_step call h)

/-! ## Delivered pictures -/

/-- A pull that delivers takes the oldest sample of a session without an unseen change. -/
theorem delivered_cases {pipeline : Pipeline σ} {slot : OutputSlot}
    (h : (pipeline.step (.pull [slot])).1.result = .ok (.pulled .delivered)) :
    ∃ session sample rest, pipeline.session = some session ∧ session.sizeChanged = false ∧
      session.queue = sample :: rest ∧
      (pipeline.step (.pull [slot])).1.slots =
        [{ slot with sample := some (sample.cutTo slot.sample) }] := by
  unfold step at h ⊢
  dsimp only at h ⊢
  rcases pull_cases pipeline [slot] with ⟨error, hp⟩ | ⟨_, ⟨⟩, hslot, hrun⟩
  · rw [hp] at h
    cases h
  · rw [pull_of_running hslot hrun] at h ⊢
    cases hs : pipeline.session with
    | none =>
      rw [deliver_of_none slot hs] at h
      cases h
    | some session =>
      cases hc : session.sizeChanged with
      | true =>
        rw [deliver_of_change slot hs hc] at h
        cases h
      | false =>
        cases hq : session.queue with
        | nil =>
          rw [deliver_of_empty slot hs hc hq] at h
          cases h
        | cons sample rest =>
          rw [deliver_of_sample slot hs hc hq]
          exact ⟨session, sample, rest, rfl, hc, hq, rfl⟩

/-- **The length of a delivered picture.** In every run, a pull without a buffer that delivers a
sample of a video session delivers the oldest frame of the queue. It is a picture in the size that
the engine reported with it, if the engine reported one, and the sample is an NV12 image of that size.
The size that the host was told last is the last one that the engine reported on opening or with a
frame rendered since, unless these are all the size of the input type: then it is the one that the
output type had on opening. If the picture has this size, then the sample has the length that follows
from what the host was told. -/
theorem length_of_delivered (registry : EngineRegistry σ) (config : PipelineConfig)
    (calls : List Call) {slot : OutputSlot} (hslot : slot.sample = none)
    (hd : (((new registry config).run calls).2.step (.pull [slot])).1.result =
      .ok (.pulled .delivered)) :
    ∃ history sample, (new registry config).history none calls = some history ∧
      (((new registry config).run calls).2.step (.pull [slot])).1.slots =
        [{ slot with sample := some sample }] ∧
      (history.output.kind = .video →
        ∃ rendered picture, history.frames.head? = some rendered ∧
          rendered.frame = .video picture ∧ rendered.data = sample.data ∧
          (∀ size, rendered.params.frameSize? = some size → picture.size = size) ∧
          PixelFormat.nv12.imageBytes? picture.size = some sample.data.size ∧
          history.told = history.seen.current history.input.frameSize? ∧
          (history.seen.current history.input.frameSize? = some picture.size →
            history.told.bind PixelFormat.nv12.imageBytes? = some sample.data.size)) := by
  obtain ⟨session, sample, rest, hs, hc, hq, hslots⟩ := delivered_cases hd
  have hnew : (new registry config).Remembers none := fun _ h => by cases h
  obtain ⟨history, hhistory, hlives⟩ := remembers_run calls hnew session hs
  rw [hslot, Sample.cutTo_none] at hslots
  refine ⟨history, sample, hhistory, hslots, ?_⟩
  intro hv
  have hdata : session.queue.map Sample.data = history.frames.map Rendered.data := by
    rw [hlives.session_eq]
    refine Session.data_run history.calls ?_
    rw [Session.queue_of_create hlives.created]
    rfl
  rw [hq, List.map_cons] at hdata
  obtain ⟨rendered, frames, hframes, hrendered, -⟩ := List.map_eq_cons_iff.mp hdata.symm
  have hpicture : ∀ rendered ∈ history.frames, ∃ picture, rendered.IsPicture picture :=
    Session.isPicture_run history.calls (Session.rendersVideo_create hlives.created hv)
      fun _ hm => absurd hm List.not_mem_nil
  obtain ⟨picture, hframe, hsize, hlength⟩ :=
    hpicture rendered (by rw [hframes]; exact List.mem_cons_self)
  have htracks : session.Tracks history.seen := by
    rw [hlives.session_eq]
    exact Session.tracks_run history.calls (Session.tracks_create hlives.created hv)
  have hinput : session.input = history.input := by
    rw [hlives.session_eq, (history.start.sameOrigin_run history.calls).input]
    exact Session.input_of_create hlives.created
  have htold : history.told = history.seen.current history.input.frameSize? := by
    rw [hlives.told hc, htracks.output, hinput]
  rw [hrendered] at hlength
  refine ⟨rendered, picture, ?_, hframe, hrendered, hsize, hlength, htold, ?_⟩
  · rw [hframes]
    rfl
  · intro hcurrent
    rw [htold, hcurrent]
    exact hlength

/-! ### Pictures of two sizes -/

/-- The host asks for pictures of two by two and pushes one packet. -/
def openAndPush : List Call :=
  [.setInputType 0 (some (.video .h264 ⟨2, 2⟩)) false,
    .setOutputType 0 (some (.video .nv12 ⟨2, 2⟩)) false,
    .push 0 ⟨#[0], 0, 1⟩ 0]

/-- A pipeline whose engine announces pictures of two by two and brings the given ones. -/
def grayPipeline (outputs : List ScriptedOutput) : Pipeline ScriptedEngine :=
  new (Session.grayRegistry ⟨2, 2⟩ outputs) .standard

/-- After the announcement of a larger picture the host gets it. -/
theorem length_of_delivered_larger :
    let calls := openAndPush ++ [.pull [.empty]]
    let pipeline := grayPipeline [Session.grayOutput ⟨4, 4⟩]
    ∃ history sample,
      ((pipeline.run calls).2.step (.pull [.empty])).1.result = .ok (.pulled .delivered) ∧
      ((pipeline.run calls).2.step (.pull [.empty])).1.slots =
        [{ OutputSlot.empty with sample := some sample }] ∧
      pipeline.history none calls = some history ∧ history.told = some ⟨4, 4⟩ ∧
      sample.data.size = 24 := by
  intro calls pipeline
  have hd : ((pipeline.run calls).2.step (.pull [.empty])).1.result = .ok (.pulled .delivered) := by
    decide +kernel
  obtain ⟨history, sample, hhistory, hslots, h⟩ := length_of_delivered _ .standard calls rfl hd
  have hknown : (some history).map (fun history =>
      (history.output.kind, history.told, history.frames.head?.map (·.params.frameSize?))) =
        some (.video, some ⟨4, 4⟩, some (some ⟨4, 4⟩)) := by
    rw [← hhistory]
    decide +kernel
  obtain ⟨hkind, htold, hreport⟩ : history.output.kind = .video ∧ history.told = some ⟨4, 4⟩ ∧
      history.frames.head?.map (·.params.frameSize?) = some (some ⟨4, 4⟩) := by
    simpa only [Option.map_some, Option.some.injEq, Prod.mk.injEq] using hknown
  obtain ⟨rendered, picture, hframes, -, -, hsize, hlength, -, -⟩ := h hkind
  rw [hframes, Option.map_some, Option.some.injEq] at hreport
  rw [hsize _ hreport] at hlength
  have hnv12 : PixelFormat.nv12.imageBytes? ⟨4, 4⟩ = some 24 := by decide
  refine ⟨history, sample, hd, hslots, hhistory, htold, ?_⟩
  exact Option.some.inj (hlength.symm.trans hnv12)

/-- A picture that was queued before a larger one comes after the announcement of the larger one, in
its own length. -/
theorem length_of_delivered_earlier :
    let calls := openAndPush ++ [.pull [.empty]]
    let pipeline := grayPipeline [Session.grayOutput ⟨2, 2⟩, Session.grayOutput ⟨4, 4⟩]
    let pulled := ((pipeline.run calls).2.step (.pull [.empty])).1
    pulled.result = .ok (.pulled .delivered) ∧
      (pulled.slots.head?.bind OutputSlot.sample).map (·.data.size) = some 6 ∧
      (pipeline.history none calls).bind SessionHistory.told = some ⟨4, 4⟩ ∧
      PixelFormat.nv12.imageBytes? ⟨4, 4⟩ = some 24 := by
  intro calls pipeline pulled
  refine ⟨?_, ?_, ?_, ?_⟩ <;> decide +kernel

end Pipeline

end StreamDecode
