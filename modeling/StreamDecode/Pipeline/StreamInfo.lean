import StreamDecode.Error

/-!
# What a pipeline tells about its streams

Properties and states of streams are sets of flags, one bit a flag. Numbers of bytes that are zero
state no requirement.
-/

namespace StreamDecode

namespace StreamFlags

/-- Every sample is a whole unit. -/
def wholeSamples : UInt32 := 0x1

/-- Every buffer holds one sample. -/
def singleSamplePerBuffer : UInt32 := 0x2

/-- All samples have the same length. -/
def fixedSampleSize : UInt32 := 0x4

/-- The pipeline keeps no reference to an input sample. -/
def keepsNoInput : UInt32 := 0x100

/-- The pipeline brings the buffers of output samples. -/
def providesSamples : UInt32 := 0x100

def none : UInt32 := 0

/-- The input takes data. -/
def acceptsData : UInt32 := 0x1

/-- The output has a sample. -/
def sampleReady : UInt32 := 0x1

end StreamFlags

/-- What is told about the input stream. -/
structure InputStreamInfo where
  maxLatency : Int64
  flags : UInt32
  bufferLength : UInt32
  maxLookahead : UInt32
  alignment : UInt32
deriving DecidableEq, Repr

/-- What is told about the output stream. -/
structure OutputStreamInfo where
  flags : UInt32
  bufferLength : UInt32
  alignment : UInt32
deriving DecidableEq, Repr

/-- The least and greatest numbers of streams. -/
structure StreamLimits where
  minInputs : UInt32
  maxInputs : UInt32
  minOutputs : UInt32
  maxOutputs : UInt32
deriving DecidableEq, Repr

/-- The numbers of streams. -/
structure StreamCount where
  inputs : UInt32
  outputs : UInt32
deriving DecidableEq, Repr

/-- The input stream of every pipeline. -/
def InputStreamInfo.standard : InputStreamInfo where
  maxLatency := 0
  flags :=
    StreamFlags.wholeSamples ||| StreamFlags.singleSamplePerBuffer ||| StreamFlags.keepsNoInput
  bufferLength := 0
  maxLookahead := 0
  alignment := 0

namespace OutputStreamInfo

/-- An audio output; its samples have any length, and buffers have an announced one. -/
def audio (bufferLength : UInt32) : OutputStreamInfo where
  flags := StreamFlags.wholeSamples ||| StreamFlags.providesSamples
  bufferLength := bufferLength
  alignment := 0

/-- The bits of a pixel of a video output. -/
def bitsPerPixel : UInt64 := 12

/-- A video output; its length is that of an image, counted in a word of 64 bits, which wraps around,
and must be one of 32 bits. -/
def video (size : FrameSize) : Except MediaError OutputStreamInfo :=
  let length := size.width.toUInt64 * size.height.toUInt64 * bitsPerPixel / 8
  if length.toNat < UInt32.size then
    .ok
      { flags :=
          StreamFlags.wholeSamples ||| StreamFlags.singleSamplePerBuffer |||
            StreamFlags.fixedSampleSize
        bufferLength := length.toUInt32
        alignment := 0 }
  else .error (.invalidMediaType (.frameTooLarge size))

end OutputStreamInfo

/-- A pipeline has one input and one output. -/
def StreamLimits.standard : StreamLimits := ⟨1, 1, 1, 1⟩

/-- A pipeline has one input and one output. -/
def StreamCount.standard : StreamCount := ⟨1, 1⟩

end StreamDecode
