import StreamDecode.Session.Decode

/-!
# What a packet brings

`samplesFrom` lists the samples that receiving the frames of a packet brings, from the engine and
the renderer alone. It knows nothing of queues and types, so that `queue_decode` says what decoding
does to the queue: the samples of the packet come behind those that wait, and no sample that waits
is touched.
-/

namespace StreamDecode

namespace Session

variable {σ : Type} [Engine σ]

/-! ## The samples of a packet -/

/-- The samples that receiving brings: one for each frame that is rendered, up to the first failure
of the engine and the first frame that cannot be rendered. -/
def samplesFrom (packet : Packet) (engine : σ) (renderer : Renderer) : List Sample :=
  match _h : Engine.receiveFrame engine with
  | (.error _, _) => []
  | (.ok frame, next) =>
    match renderer.render (Engine.params next) frame with
    | (.error _, _) => []
    | (.ok data, renderer) =>
      { data := data
        time := frame.sampleTime packet
        duration := frame.sampleDuration packet (Engine.timeBase next) } ::
          samplesFrom packet next renderer
termination_by Engine.backlog engine
decreasing_by exact Engine.backlog_lt _h

/-- The samples that decoding a packet brings: none if the session or its engine refuses it. -/
def samplesOf (session : Session σ) (packet : Packet) : List Sample :=
  if session.sizeChanged then []
  else
    match Engine.sendPacket session.engine packet with
    | (.error _, _) => []
    | (.ok (), engine) => samplesFrom packet engine session.renderer

theorem samplesFrom_of_failure {packet : Packet} {engine next : σ} {renderer : Renderer}
    {error : MediaError} (h : Engine.receiveFrame engine = (.error error, next)) :
    samplesFrom packet engine renderer = [] := by
  rw [samplesFrom]
  split
  · rfl
  · next h' =>
    rw [h] at h'
    cases h'

theorem samplesFrom_of_rejected {packet : Packet} {engine next : σ} {renderer after : Renderer}
    {frame : Frame} {error : MediaError} (h : Engine.receiveFrame engine = (.ok frame, next))
    (hr : renderer.render (Engine.params next) frame = (.error error, after)) :
    samplesFrom packet engine renderer = [] := by
  rw [samplesFrom]
  split
  · rfl
  · next h' =>
    rw [h] at h'
    obtain ⟨⟨⟩, ⟨⟩⟩ := h'
    rw [hr]

theorem samplesFrom_of_rendered {packet : Packet} {engine next : σ} {renderer after : Renderer}
    {frame : Frame} {data : Bytes} (h : Engine.receiveFrame engine = (.ok frame, next))
    (hr : renderer.render (Engine.params next) frame = (.ok data, after)) :
    samplesFrom packet engine renderer =
      ⟨data, frame.sampleTime packet, frame.sampleDuration packet (Engine.timeBase next)⟩ ::
        samplesFrom packet next after := by
  rw [samplesFrom]
  split
  · next h' =>
    rw [h] at h'
    cases h'
  · next h' =>
    rw [h] at h'
    obtain ⟨⟨⟩, ⟨⟩⟩ := h'
    rw [hr]

/-! ## The queue -/

@[simp] theorem renderer_noteFrameSize (session : Session σ) :
    session.noteFrameSize.renderer = session.renderer := by
  unfold noteFrameSize
  split
  · rfl
  split
  · rfl
  unfold observe
  split <;> rfl

@[simp] theorem renderer_enqueue (session : Session σ) (packet : Packet) (frame : Frame)
    (data : Bytes) (renderer : Renderer) :
    (session.enqueue packet frame data renderer).renderer = renderer := by
  simp [enqueue]

@[simp] theorem queue_enqueue (session : Session σ) (packet : Packet) (frame : Frame)
    (data : Bytes) (renderer : Renderer) :
    (session.enqueue packet frame data renderer).queue =
      session.queue ++ [⟨data, frame.sampleTime packet,
        frame.sampleDuration packet (Engine.timeBase session.engine)⟩] := by
  simp [enqueue]

theorem queue_receiveFrames (session : Session σ) (packet : Packet) :
    (session.receiveFrames packet).2.queue =
      session.queue ++ samplesFrom packet session.engine session.renderer := by
  fun_induction receiveFrames session packet with
  | case1 session error engine h =>
    rw [samplesFrom_of_failure h]
    exact (List.append_nil _).symm
  | case2 session frame engine h error renderer hr =>
    rw [samplesFrom_of_rejected h hr]
    exact (List.append_nil _).symm
  | case3 session frame engine h data renderer hr ih =>
    rw [samplesFrom_of_rendered h hr, ih, queue_enqueue, engine_enqueue, renderer_enqueue,
      List.append_assoc]
    rfl

theorem queue_decode (session : Session σ) (packet : Packet) :
    (session.decode packet).2.queue = session.queue ++ session.samplesOf packet := by
  unfold decode samplesOf
  split
  · exact (List.append_nil _).symm
  · split
    · next hs => rw [hs]; exact (List.append_nil _).symm
    · next hs => rw [hs]; exact (List.append_nil _).symm
    · next engine hs =>
      have hq := queue_receiveFrames { session with engine := engine } packet
      rw [hs]
      split <;> next hr => rw [hr] at hq; exact hq

theorem queue_flushInput (session : Session σ) :
    session.flushInput.2.queue = session.queue := by
  unfold flushInput
  split
  · rfl
  · exact queue_noteFrameSize _

theorem queue_flush (session : Session σ) : session.flush.2.queue = [] :=
  queue_flushInput { session with queue := [] }

end Session

end StreamDecode
