import StreamDecode.Audio.SamplePoint
import StreamDecode.Error
import StreamDecode.Media.ChannelLayout

/-!
# Audio conversion

An `AudioConversion` turns blocks of samples of one format and layout into interleaved samples of
another one at the same rate. A single channel feeds all outputs, several channels are averaged into
one, and otherwise channels keep their place and missing ones are silent
(`AudioConversion.outputSample?`). Equal formats with equal channel counts are copied.
-/

namespace StreamDecode

/-- A conversion between two sample formats and layouts; the target is interleaved. -/
structure AudioConversion where
  rate : UInt32
  source : SampleFormat
  sourceLayout : ChannelLayout
  target : SampleFormat
  targetLayout : ChannelLayout
deriving DecidableEq, Repr

namespace AudioConversion

/-- The conversion between two formats; rates must agree, both formats must be specified, the target
must be interleaved and neither side may be without channels. -/
def create (sourceRate : UInt32) (source : SampleFormat) (sourceLayout : ChannelLayout)
    (targetRate : UInt32) (target : SampleFormat) (targetLayout : ChannelLayout) :
    Except MediaError AudioConversion :=
  if sourceRate ≠ targetRate then .error (.unsupported (.rateConversion sourceRate targetRate))
  else if source.encoding? = none ∨ target.encoding? = none then
    .error (.invalidArgument (.sampleFormats source target))
  else if target.isPlanar then .error (.unsupported (.planarTarget target))
  else if sourceLayout.channels = 0 ∨ targetLayout.channels = 0 then
    .error (.invalidArgument .zeroChannels)
  else .ok ⟨sourceRate, source, sourceLayout, target, targetLayout⟩

variable (conversion : AudioConversion)

/-- Whether samples are copied as they are. -/
def isPassthrough : Bool :=
  conversion.source = conversion.target &&
    conversion.sourceLayout.channels = conversion.targetLayout.channels

def sourceChannels : Nat := conversion.sourceLayout.channels.toNat

def targetChannels : Nat := conversion.targetLayout.channels.toNat

/-- The number of output bytes for a number of samples, counted in a word of 64 bits, which wraps
around. -/
def outputBytes (samples : UInt32) : Nat :=
  (samples.toUInt64 * conversion.targetLayout.channels.toUInt64 *
    conversion.target.width.toUInt64).toNat

/-- The number of planes that a block of source samples has. -/
def sourcePlanes : Nat := if conversion.source.isPlanar then conversion.sourceChannels else 1

/-- The number of bytes that each plane of a block of source samples has, counted in the same way. -/
def planeBytes (samples : UInt32) : Nat :=
  if conversion.source.isPlanar then
    (samples.toUInt64 * conversion.source.width.toUInt64).toNat
  else
    (samples.toUInt64 * conversion.sourceLayout.channels.toUInt64 *
      conversion.source.width.toUInt64).toNat

/-- Whether the planes hold a number of source samples. -/
def covers (planes : List Bytes) (samples : UInt32) : Bool :=
  conversion.sourcePlanes ≤ planes.length &&
    (planes.take conversion.sourcePlanes).all (conversion.planeBytes samples ≤ ·.size)

/-- The source sample of a channel at an instant. -/
def sourceSample? (planes : List Bytes) (instant channel : Nat) : Option Binary := do
  let encoding ← conversion.source.encoding?
  let position :=
    if conversion.source.isPlanar then instant else instant * conversion.sourceChannels + channel
  let plane ← planes[if conversion.source.isPlanar then channel else 0]?
  let offset := position * encoding.width
  if offset + encoding.width ≤ plane.size then
    some (encoding.decode (plane.extract offset (offset + encoding.width)).toList)
  else none

/-- The mean of all source channels at an instant. -/
def meanSample? (planes : List Bytes) (instant : Nat) : Option Binary := do
  let samples ←
    (List.range conversion.sourceChannels).mapM (conversion.sourceSample? planes instant)
  some ((samples.foldl Binary.add .zero).divNat conversion.sourceChannels)

/-- The value of a target channel at an instant. -/
def outputSample? (planes : List Bytes) (instant channel : Nat) : Option Binary :=
  if conversion.sourceChannels = 1 then conversion.sourceSample? planes instant 0
  else if conversion.targetChannels = 1 then conversion.meanSample? planes instant
  else if channel < conversion.sourceChannels then conversion.sourceSample? planes instant channel
  else some .zero

/-- The target samples of a block, one after the other, each as its bytes. -/
def outputSamples? (planes : List Bytes) (samples : UInt32) : Option (List (List UInt8)) := do
  let encoding ← conversion.target.encoding?
  (List.range (samples.toNat * conversion.targetChannels)).mapM fun position =>
    (conversion.outputSample? planes (position / conversion.targetChannels)
      (position % conversion.targetChannels)).map encoding.encode

/-- The output bytes of a block that the planes cover. What is not copied must fill the buffer; it
does not where the length of the buffer has wrapped around. -/
def output? (planes : List Bytes) (samples : UInt32) : Option Bytes :=
  if conversion.isPassthrough then
    planes[0]?.map (·.extract 0 (conversion.planeBytes samples))
  else
    ((conversion.outputSamples? planes samples).map fun chunks => chunks.flatten.toArray).filter
      (·.size = conversion.outputBytes samples)

/-- Converts a block of samples for a buffer of a given length. -/
def convert (planes : List Bytes) (samples : UInt32) (bufferLength : Nat) :
    Except MediaError Bytes :=
  if bufferLength ≠ conversion.outputBytes samples then
    .error (.invalidArgument (.audioBufferSize bufferLength (conversion.outputBytes samples)))
  else if !conversion.covers planes samples then
    .error (.invalidData (.samplesMissing conversion.sourcePlanes (conversion.planeBytes samples)))
  else
    match conversion.output? planes samples with
    | some bytes => .ok bytes
    | none => .error (.internal .sampleNotReadable)

/-- Converts a block of samples into a buffer, which keeps its bytes on failure. -/
def convertInto (planes : List Bytes) (samples : UInt32) (buffer : Bytes) :
    Except MediaError Unit × Bytes :=
  match conversion.convert planes samples buffer.size with
  | .ok bytes => (.ok (), bytes)
  | .error error => (.error error, buffer)

end AudioConversion

end StreamDecode
