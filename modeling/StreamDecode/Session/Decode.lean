import StreamDecode.Session.Basic

/-!
# Decoding a packet

`Session.decode` hands a packet to the engine and receives frames until the engine has none left, so
the engine takes the next packet. Each frame is rendered and becomes a sample at the end of the
queue. A frame that cannot be rendered ends the call with its error, and the frames behind it are
discarded.
-/

namespace StreamDecode

/-- What became of a packet. -/
inductive DecodeStatus where
  | queued
  | needMoreInput
  | notAccepting
deriving DecidableEq, Repr

/-- Whether an engine says by this error that it has no frame left. -/
def MediaError.isDrained : MediaError → Bool
  | .needMoreData | .endOfStream => true
  | _ => false

/-- The time of the sample of a frame, or that of the packet if the frame has none. -/
def Frame.sampleTime (frame : Frame) (packet : Packet) : Int64 :=
  if isTimestamp frame.time then toHundredNanos frame.timeBase packet.time frame.time
  else packet.time

/-- The duration of the sample of a frame: that of the packet if it is positive, else that of the
frame, else that of its samples in the time base of the engine. -/
def Frame.sampleDuration (frame : Frame) (packet : Packet) (timeBase : Ratio) : Int64 :=
  if 0 < packet.duration then packet.duration
  else if 0 < frame.duration then toHundredNanos frame.timeBase 0 frame.duration
  else (frame.samples?.map (samplesDuration · timeBase)).getD 0

namespace Session

variable {σ : Type} [Engine σ]

/-- The session with the sample of a rendered frame at the end of its queue. -/
def enqueue (session : Session σ) (packet : Packet) (frame : Frame) (data : Bytes)
    (renderer : Renderer) : Session σ :=
  let sample : Sample :=
    { data := data
      time := frame.sampleTime packet
      duration := frame.sampleDuration packet (Engine.timeBase session.engine) }
  noteFrameSize { session with renderer := renderer, queue := session.queue ++ [sample] }

@[simp] theorem engine_enqueue (session : Session σ) (packet : Packet) (frame : Frame)
    (data : Bytes) (renderer : Renderer) :
    (session.enqueue packet frame data renderer).engine = session.engine := by
  simp [enqueue]

/-- Receives and renders the frames of a packet. -/
def receiveFrames (session : Session σ) (packet : Packet) : Except MediaError Unit × Session σ :=
  match _h : Engine.receiveFrame session.engine with
  | (.error error, engine) =>
    (if error.isDrained then .ok () else .error error, { session with engine := engine })
  | (.ok frame, engine) =>
    match session.renderer.render (Engine.params engine) frame with
    | (.error error, renderer) =>
      (.error error,
        { session with engine := Engine.discardFrames engine, renderer := renderer })
    | (.ok data, renderer) =>
      receiveFrames ({ session with engine := engine }.enqueue packet frame data renderer) packet
termination_by Engine.backlog session.engine
decreasing_by
  rw [engine_enqueue]
  exact Engine.backlog_lt _h

/-- Decodes a packet. -/
def decode (session : Session σ) (packet : Packet) : Except MediaError DecodeStatus × Session σ :=
  if session.sizeChanged then (.ok .notAccepting, session)
  else
    match Engine.sendPacket session.engine packet with
    | (.error .tryAgain, engine) =>
      (.error (.internal .engineNotDrained), { session with engine := engine })
    | (.error error, engine) => (.error error, { session with engine := engine })
    | (.ok (), engine) =>
      match receiveFrames { session with engine := engine } packet with
      | (.error error, after) => (.error error, after)
      | (.ok (), after) =>
        (.ok (if after.queue.length = session.queue.length then .needMoreInput else .queued), after)

end Session

end StreamDecode
