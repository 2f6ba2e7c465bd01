import StreamDecode.Bytes
import StreamDecode.Time
import StreamDecode.Media.SampleFormat
import StreamDecode.Media.ChannelLayout
import StreamDecode.Media.PixelFormat

/-!
# Frames

A frame is one decoded unit as an engine hands it out: an image with its planes and strides, or a
block of audio samples.
-/

namespace StreamDecode

/-- A decoded image. Each plane has a stride, the distance in bytes between its rows. -/
structure VideoFrame where
  planes : List Bytes
  strides : List Nat
  size : FrameSize
  format : PixelFormat
  time : Int64
  timeBase : Ratio
  duration : Int64
deriving DecidableEq

/-- The image of the given shape with empty planes. -/
def VideoFrame.blank (size : FrameSize) (format : PixelFormat) : VideoFrame where
  planes := List.replicate format.planeCount #[]
  strides := List.replicate format.planeCount 0
  size := size
  format := format
  time := noTimestamp
  timeBase := .undefined
  duration := 0

/-- A decoded block of audio samples: one plane, or one for each channel in a planar format. -/
structure AudioFrame where
  planes : List Bytes
  samples : UInt32
  rate : UInt32
  format : SampleFormat
  layout : ChannelLayout
  time : Int64
  timeBase : Ratio
  duration : Int64
deriving DecidableEq

/-- The audio block of the given shape with empty planes. -/
def AudioFrame.blank (samples rate : UInt32) (format : SampleFormat) (layout : ChannelLayout) :
    AudioFrame where
  planes := List.replicate (if format.isPlanar then layout.channels.toNat else 1) #[]
  samples := samples
  rate := rate
  format := format
  layout := layout
  time := noTimestamp
  timeBase := .undefined
  duration := 0

/-- A decoded unit. -/
inductive Frame where
  | video (frame : VideoFrame)
  | audio (frame : AudioFrame)
deriving DecidableEq

namespace Frame

/-- The time of a frame in its time base. -/
def time : Frame → Int64
  | .video frame => frame.time
  | .audio frame => frame.time

def timeBase : Frame → Ratio
  | .video frame => frame.timeBase
  | .audio frame => frame.timeBase

/-- The duration of a frame in its time base; `0` is not known. -/
def duration : Frame → Int64
  | .video frame => frame.duration
  | .audio frame => frame.duration

/-- The number of samples of a channel, known only of audio that is not empty. -/
def samples? : Frame → Option UInt32
  | .video _ => none
  | .audio frame => if frame.samples = 0 then none else some frame.samples

def planes : Frame → List Bytes
  | .video frame => frame.planes
  | .audio frame => frame.planes

end Frame

end StreamDecode
