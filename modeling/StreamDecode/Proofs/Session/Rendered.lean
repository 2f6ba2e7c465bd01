import StreamDecode.Proofs.Session.Receive
import StreamDecode.Proofs.Session.Run
import StreamDecode.Proofs.Video.Length

/-!
# The frames behind the samples

`renderedFrom` lists the frames that become samples when a packet is received, each with its bytes
and with what the engine reported when it had handed it out. `samplesFrom` is made from this list
(`samplesFrom_eq_map`), and `framesIn` follows the frames of the queued samples through a run: the
queue has their bytes (`data_run`).

In a video session every such frame is a picture, and its sample has the length of an NV12 image of
that size (`isPicture_run`).
-/

namespace StreamDecode

/-- A frame that was rendered: its bytes, and what the engine reported when it had handed it out. -/
structure Rendered where
  frame : Frame
  data : Bytes
  params : StreamParams
  timeBase : Ratio

namespace Rendered

/-- The sample of a rendered frame of a packet. -/
def sample (rendered : Rendered) (packet : Packet) : Sample where
  data := rendered.data
  time := rendered.frame.sampleTime packet
  duration := rendered.frame.sampleDuration packet rendered.timeBase

/-- A picture of the size that the engine reports, if it reports one, with the bytes of an NV12 image
of that size. -/
structure IsPicture (rendered : Rendered) (picture : VideoFrame) : Prop where
  frame : rendered.frame = .video picture
  size : ∀ size, rendered.params.frameSize? = some size → picture.size = size
  length : PixelFormat.nv12.imageBytes? picture.size = some rendered.data.size

end Rendered

namespace Session

variable {σ : Type} [Engine σ]

/-! ## The frames of a packet -/

/-- The frames that become samples when the frames of a packet are received. -/
def renderedFrom (engine : σ) (renderer : Renderer) : List Rendered :=
  match _h : Engine.receiveFrame engine with
  | (.error _, _) => []
  | (.ok frame, next) =>
    match renderer.render (Engine.params next) frame with
    | (.error _, _) => []
    | (.ok data, renderer) =>
      { frame := frame
        data := data
        params := Engine.params next
        timeBase := Engine.timeBase next } :: renderedFrom next renderer
termination_by Engine.backlog engine
decreasing_by exact Engine.backlog_lt _h

/-- The frames that become samples when a packet is decoded: none if the session or its engine
refuses it. -/
def renderedOf (session : Session σ) (packet : Packet) : List Rendered :=
  if session.sizeChanged then []
  else
    match Engine.sendPacket session.engine packet with
    | (.error _, _) => []
    | (.ok (), engine) => renderedFrom engine session.renderer

theorem renderedFrom_of_failure {engine next : σ} {renderer : Renderer} {error : MediaError}
    (h : Engine.receiveFrame engine = (.error error, next)) : renderedFrom engine renderer = [] := by
  rw [renderedFrom]
  split
  · rfl
  · next h' =>
    rw [h] at h'
    cases h'

theorem renderedFrom_of_rejected {engine next : σ} {renderer after : Renderer} {frame : Frame}
    {error : MediaError} (h : Engine.receiveFrame engine = (.ok frame, next))
    (hr : renderer.render (Engine.params next) frame = (.error error, after)) :
    renderedFrom engine renderer = [] := by
  rw [renderedFrom]
  split
  · rfl
  · next h' =>
    rw [h] at h'
    obtain ⟨⟨⟩, ⟨⟩⟩ := h'
    rw [hr]

theorem renderedFrom_of_rendered {engine next : σ} {renderer after : Renderer} {frame : Frame}
    {data : Bytes} (h : Engine.receiveFrame engine = (.ok frame, next))
    (hr : renderer.render (Engine.params next) frame = (.ok data, after)) :
    renderedFrom engine renderer =
      ⟨frame, data, Engine.params next, Engine.timeBase next⟩ :: renderedFrom next after := by
  rw [renderedFrom]
  split
  · next h' =>
    rw [h] at h'
    cases h'
  · next h' =>
    rw [h] at h'
    obtain ⟨⟨⟩, ⟨⟩⟩ := h'
    rw [hr]

theorem samplesFrom_eq_map (packet : Packet) (engine : σ) (renderer : Renderer) :
    samplesFrom packet engine renderer = (renderedFrom engine renderer).map (·.sample packet) := by
  fun_induction samplesFrom packet engine renderer with
  | case1 engine renderer error next h => rw [renderedFrom_of_failure h, List.map_nil]
  | case2 engine renderer frame next h error after hr =>
    rw [renderedFrom_of_rejected h hr, List.map_nil]
  | case3 engine renderer frame next h data after hr ih =>
    rw [renderedFrom_of_rendered h hr, List.map_cons, ih]
    rfl

theorem samplesOf_eq_map (session : Session σ) (packet : Packet) :
    session.samplesOf packet = (session.renderedOf packet).map (·.sample packet) := by
  unfold samplesOf renderedOf
  split
  · rfl
  · cases Engine.sendPacket session.engine packet with
    | mk result engine =>
      cases result with
      | error error => rfl
      | ok => exact samplesFrom_eq_map ..

theorem renderedOf_ne_nil {session : Session σ} {packet : Packet}
    (h : (session.decode packet).1 = .ok .queued) : session.renderedOf packet ≠ [] := by
  intro hn
  have hq : (session.decode packet).2.queue = session.queue := by
    rw [queue_decode, samplesOf_eq_map, hn, List.map_nil, List.append_nil]
  unfold decode at h hq
  split at h
  · cases h
  · next hc =>
    rw [if_neg hc] at hq
    split at h
    · cases h
    · cases h
    · next engine hs =>
      rw [hs] at hq
      dsimp only at h hq
      split at h
      · cases h
      · next after hr =>
        rw [hr] at hq
        have hlength : after.queue.length = session.queue.length := congrArg List.length hq
        rw [if_pos hlength] at h
        cases h

/-! ## The frames of the queue -/

/-- The frames of the queued samples after an operation. -/
def framesAfter (session : Session σ) (frames : List Rendered) : SessionCall → List Rendered
  | .decode packet => frames ++ session.renderedOf packet
  | .popSample => frames.tail
  | .flush => []
  | .takeFormatChange | .flushInput => frames

/-- The frames of the queued samples after a run. -/
def framesIn (session : Session σ) (frames : List Rendered) : List SessionCall → List Rendered
  | [] => frames
  | call :: calls => (session.step call).2.framesIn (session.framesAfter frames call) calls

theorem data_step {session : Session σ} {frames : List Rendered} (call : SessionCall)
    (h : session.queue.map Sample.data = frames.map Rendered.data) :
    (session.step call).2.queue.map Sample.data =
      (session.framesAfter frames call).map Rendered.data := by
  cases call with
  | decode packet =>
    show (session.decode packet).2.queue.map Sample.data =
      (frames ++ session.renderedOf packet).map Rendered.data
    rw [queue_decode, samplesOf_eq_map, List.map_append, List.map_append, h, List.map_map]
    rfl
  | popSample =>
    show session.popSample.2.queue.map Sample.data = frames.tail.map Rendered.data
    rw [List.map_tail, ← h, ← List.map_tail]
    unfold popSample
    split <;> next hq => rw [hq]; rfl
  | takeFormatChange =>
    show session.takeFormatChange.2.queue.map Sample.data = frames.map Rendered.data
    unfold takeFormatChange
    split <;> exact h
  | flushInput =>
    show session.flushInput.2.queue.map Sample.data = frames.map Rendered.data
    rw [queue_flushInput, h]
  | flush =>
    show session.flush.2.queue.map Sample.data = [].map Rendered.data
    rw [queue_flush]
    rfl

theorem data_run {session : Session σ} {frames : List Rendered} (calls : List SessionCall)
    (h : session.queue.map Sample.data = frames.map Rendered.data) :
    (session.run calls).2.queue.map Sample.data =
      (session.framesIn frames calls).map Rendered.data := by
  induction calls generalizing session frames with
  | nil => exact h
  | cons call calls ih => exact ih (data_step call h)

/-! ## Pictures -/

/-- Whether the session renders video. -/
def RendersVideo (session : Session σ) : Prop := ∃ renderer, session.renderer = .video renderer

omit [Engine σ] in
theorem rendersVideo_of_eq {session later : Session σ} (h : session.RendersVideo)
    (he : later.renderer = session.renderer) : later.RendersVideo := by
  obtain ⟨renderer, hr⟩ := h
  exact ⟨renderer, he.trans hr⟩

theorem video_of_render {renderer after : Renderer} {params : StreamParams} {frame : Frame}
    {result : Except MediaError Bytes} (h : renderer.render params frame = (result, after))
    {video : VideoRenderer} (hv : renderer = .video video) :
    ∃ next, after = .video next ∧ video.render params frame = (result, next) := by
  have hrender : (Renderer.video video).render params frame =
      (video.render params frame).map id .video := rfl
  rw [hv, hrender] at h
  cases hr : video.render params frame with
  | mk rendered next =>
    rw [hr] at h
    cases h
    exact ⟨next, rfl, rfl⟩

theorem rendersVideo_receiveFrames {session : Session σ} (packet : Packet)
    (h : session.RendersVideo) : (session.receiveFrames packet).2.RendersVideo := by
  fun_induction receiveFrames session packet with
  | case1 session error engine hf => exact h
  | case2 session frame engine hf error renderer hr =>
    obtain ⟨video, hv⟩ := h
    obtain ⟨next, hnext, -⟩ := video_of_render hr hv
    exact ⟨next, hnext⟩
  | case3 session frame engine hf data renderer hr ih =>
    obtain ⟨video, hv⟩ := h
    obtain ⟨next, hnext, -⟩ := video_of_render hr hv
    exact ih ⟨next, (renderer_enqueue ..).trans hnext⟩

theorem rendersVideo_flushInput {session : Session σ} (h : session.RendersVideo) :
    session.flushInput.2.RendersVideo := by
  unfold flushInput
  split
  · exact h
  · exact rendersVideo_of_eq h (renderer_noteFrameSize _)

theorem rendersVideo_step {session : Session σ} (call : SessionCall) (h : session.RendersVideo) :
    (session.step call).2.RendersVideo := by
  cases call with
  | decode packet =>
    show (session.decode packet).2.RendersVideo
    unfold decode
    split
    · exact h
    · split
      · exact h
      · exact h
      · next engine hs =>
        have hr : (receiveFrames { session with engine := engine } packet).2.RendersVideo :=
          rendersVideo_receiveFrames packet h
        split <;> next he => rw [he] at hr; exact hr
  | popSample =>
    show session.popSample.2.RendersVideo
    unfold popSample
    split <;> exact h
  | takeFormatChange =>
    show session.takeFormatChange.2.RendersVideo
    unfold takeFormatChange
    split <;> exact h
  | flushInput => exact rendersVideo_flushInput h
  | flush =>
    have hempty : RendersVideo { session with queue := [] } := h
    exact rendersVideo_flushInput hempty

theorem isPicture_of_mem_renderedFrom {engine : σ} {renderer : Renderer}
    (hv : ∃ video, renderer = .video video) {rendered : Rendered}
    (h : rendered ∈ renderedFrom engine renderer) : ∃ picture, rendered.IsPicture picture := by
  fun_induction renderedFrom engine renderer with
  | case1 engine renderer error next hf => cases h
  | case2 engine renderer frame next hf error after hr => cases h
  | case3 engine renderer frame next hf data after hr ih =>
    obtain ⟨video, hv⟩ := hv
    obtain ⟨kept, hafter, hrender⟩ := video_of_render hr hv
    rcases List.mem_cons.mp h with rfl | h
    · obtain ⟨picture, hframe, hsize, hlength⟩ := VideoRenderer.render_eq_ok hrender
      exact ⟨picture, hframe, hsize, hlength⟩
    · exact ih ⟨kept, hafter⟩ h

theorem isPicture_of_mem_renderedOf {session : Session σ} {packet : Packet}
    (hv : session.RendersVideo) {rendered : Rendered} (h : rendered ∈ session.renderedOf packet) :
    ∃ picture, rendered.IsPicture picture := by
  unfold renderedOf at h
  split at h
  · cases h
  · split at h
    · cases h
    · exact isPicture_of_mem_renderedFrom hv h

theorem isPicture_step {session : Session σ} {frames : List Rendered} (call : SessionCall)
    (hv : session.RendersVideo)
    (h : ∀ rendered ∈ frames, ∃ picture, rendered.IsPicture picture) :
    ∀ rendered ∈ session.framesAfter frames call, ∃ picture, rendered.IsPicture picture := by
  intro rendered hm
  cases call with
  | decode packet =>
    rcases List.mem_append.mp hm with hm | hm
    · exact h rendered hm
    · exact isPicture_of_mem_renderedOf hv hm
  | popSample => exact h rendered (List.mem_of_mem_tail hm)
  | takeFormatChange => exact h rendered hm
  | flushInput => exact h rendered hm
  | flush => exact absurd hm List.not_mem_nil

/-- In a video session the frames of the queue are pictures. -/
theorem isPicture_run {session : Session σ} {frames : List Rendered} (calls : List SessionCall)
    (hv : session.RendersVideo)
    (h : ∀ rendered ∈ frames, ∃ picture, rendered.IsPicture picture) :
    ∀ rendered ∈ session.framesIn frames calls, ∃ picture, rendered.IsPicture picture := by
  induction calls generalizing session frames with
  | nil => exact h
  | cons call calls ih => exact ih (rendersVideo_step call hv) (isPicture_step call hv h)

theorem rendersVideo_create {registry : EngineRegistry σ} {input output : MediaType}
    {session : Session σ} (h : create registry input output = .ok session)
    (hv : output.kind = .video) : session.RendersVideo := by
  obtain ⟨-, settings, engine, renderer, -, -, hr, rfl⟩ := create_eq_ok_iff.mp h
  have hnew : Renderer.forOutput output = .video .new := by
    unfold Renderer.forOutput
    rw [hv]
  rw [hnew] at hr
  have hprepared : ((Renderer.video .new).prepare (Engine.params engine) output).2 =
      .video (VideoRenderer.new.prepare (Engine.params engine) output).2 := rfl
  rw [hr] at hprepared
  exact ⟨_, (renderer_noteFrameSize _).trans hprepared⟩

end Session

end StreamDecode
