import StreamDecode.Engine.Basic

/-!
# The raw video engine

Uncompressed video needs no decoding: each packet holds one tightly packed image, and its planes are
cut out of it one after the other. Their measures are worked out once, on opening.
-/

namespace StreamDecode

/-- The state of a raw video engine; the format is unspecified until it is opened. -/
structure RawVideoEngine where
  size : FrameSize
  format : PixelFormat
  frameRate : Ratio
  /-- The bytes of an image. -/
  imageBytes : Nat
  /-- The row bytes and the rows of each plane. -/
  planes : List (Nat × Nat)
  output : Option VideoFrame
  opened : Bool
  ended : Bool
deriving DecidableEq

namespace RawVideoEngine

def new : RawVideoEngine where
  size := ⟨0, 0⟩
  format := .unspecified
  frameRate := .undefined
  imageBytes := 0
  planes := []
  output := none
  opened := false
  ended := false

/-- Opens the engine with video parameters; an unspecified format means planar 4:2:0. Frames and the
end of an earlier stream are forgotten. -/
def configure (engine : RawVideoEngine) (settings : CodecSettings) :
    Except MediaError Unit × RawVideoEngine :=
  match settings.params.video? with
  | none => (.error (.invalidArgument .videoParamsMissing), engine)
  | some params =>
    if params.size.isEmpty then (.error (.invalidArgument .zeroDimension), engine)
    else
      let format := if params.format = .unspecified then .yuv420p else params.format
      match format.imageBytes? params.size with
      | none => (.error (.invalidArgument (.noImageSize format)), engine)
      | some imageBytes =>
        (.ok (),
          { size := params.size
            format := format
            frameRate := params.frameRate
            imageBytes := imageBytes
            planes := format.planes params.size
            output := none
            opened := true
            ended := false })

/-- The planes that follow each other in a packed image, each with its row bytes and rows. Where the
length of the image has wrapped around, they end with the data. -/
def cutPlanes (data : Bytes) : (offset : Nat) → List (Nat × Nat) → List Bytes
  | _, [] => []
  | offset, (rowBytes, rows) :: rest =>
    data.extract offset (offset + rowBytes * rows) ::
      cutPlanes data (offset + rowBytes * rows) rest

/-- The frame that a packet becomes. -/
def frame (engine : RawVideoEngine) (packet : Packet) : VideoFrame where
  planes := cutPlanes packet.data 0 engine.planes
  strides := engine.planes.map Prod.fst
  size := engine.size
  format := engine.format
  time := packet.time
  timeBase := packet.timeBase
  duration := packet.duration

def sendPacket (engine : RawVideoEngine) (packet : Packet) :
    Except MediaError Unit × RawVideoEngine :=
  if !engine.opened then (.error (.engine .notOpened), engine)
  else if engine.output.isSome then (.error .tryAgain, engine)
  else if packet.isEmpty then (.ok (), { engine with ended := true })
  else if packet.data.size ≠ engine.imageBytes then
    (.error (.invalidData (.imageLength packet.data.size engine.imageBytes)), engine)
  else (.ok (), { engine with output := some (engine.frame packet) })

def receiveFrame (engine : RawVideoEngine) : Except MediaError Frame × RawVideoEngine :=
  match engine.output with
  | some frame => (.ok (.video frame), { engine with output := none })
  | none => (.error (if engine.ended then .endOfStream else .needMoreData), engine)

/-- One frame is one unit of time, if the frame rate is positive. -/
def timeBase (engine : RawVideoEngine) : Ratio :=
  if engine.frameRate.isDefined ∧ 0 < engine.frameRate.num then
    ⟨engine.frameRate.den, engine.frameRate.num⟩
  else .undefined

def params (engine : RawVideoEngine) : StreamParams :=
  .video
    { size := engine.size
      format := engine.format
      frameRate := engine.frameRate
      pixelAspect := .one }

def backlog (engine : RawVideoEngine) : Nat := if engine.output.isSome then 1 else 0

theorem backlog_lt {engine next : RawVideoEngine} {frame : Frame}
    (h : engine.receiveFrame = (.ok frame, next)) : next.backlog < engine.backlog := by
  unfold receiveFrame at h
  split at h
  · next f hf =>
    simp only [Prod.mk.injEq] at h
    simp [← h.2, backlog, hf]
  · simp at h

instance : Engine RawVideoEngine where
  codec _ := .rawVideo
  name _ := "rawvideo"
  timeBase := timeBase
  params := params
  configure := configure
  sendPacket := sendPacket
  receiveFrame := receiveFrame
  flush engine := { engine with output := none, ended := false }
  backlog := backlog
  backlog_lt := backlog_lt

end RawVideoEngine

end StreamDecode
