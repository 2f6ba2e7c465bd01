import StreamDecode.Engine.Basic

/-!
# The PCM engine

Uncompressed audio needs no decoding: each packet becomes one frame of interleaved samples. A packet
must hold whole blocks, a block being one sample of every channel.
-/

namespace StreamDecode

/-- The sample encodings of uncompressed audio. -/
inductive PcmEncoding where
  | s16
  | f32
deriving DecidableEq, Repr

namespace PcmEncoding

def codec : PcmEncoding → Codec
  | .s16 => .pcmS16
  | .f32 => .pcmF32

def sampleFormat : PcmEncoding → SampleFormat
  | .s16 => .s16
  | .f32 => .f32

end PcmEncoding

/-- The state of a PCM engine. -/
structure PcmEngine where
  encoding : PcmEncoding
  rate : UInt32
  layout : ChannelLayout
  blockAlign : UInt32
  output : Option AudioFrame
  opened : Bool
  ended : Bool
deriving DecidableEq

namespace PcmEngine

def new (encoding : PcmEncoding) : PcmEngine where
  encoding := encoding
  rate := 0
  layout := .mono
  blockAlign := 0
  output := none
  opened := false
  ended := false

/-- Opens the engine with audio parameters. Frames and the end of an earlier stream are
forgotten. -/
def configure (engine : PcmEngine) (settings : CodecSettings) :
    Except MediaError Unit × PcmEngine :=
  match settings.params.audio? with
  | none => (.error (.invalidArgument .audioParamsMissing), engine)
  | some params =>
    if params.rate = 0 then (.error (.invalidArgument .zeroSampleRate), engine)
    else if params.layout.channels = 0 then (.error (.invalidArgument .zeroChannels), engine)
    else
      (.ok (),
        { encoding := engine.encoding
          rate := params.rate
          layout := params.layout
          blockAlign :=
            UInt32.ofNat engine.encoding.sampleFormat.width * params.layout.channels
          output := none
          opened := true
          ended := false })

/-- The number of blocks in data of a given length. The length of a block is a word that may have
wrapped around, and no data consists of blocks of length zero. -/
def blockCount (length : Nat) (block : UInt32) : Except MediaError UInt32 :=
  if length % block.toNat ≠ 0 then .error (.invalidData (.notWholeBlocks length block.toNat))
  else if UInt32.size ≤ length / block.toNat then .error (.invalidData (.packetTooLarge length))
  else .ok (UInt32.ofNat (length / block.toNat))

/-- The frame that a packet becomes. -/
def frame (engine : PcmEngine) (packet : Packet) (samples : UInt32) : AudioFrame :=
  { AudioFrame.blank samples engine.rate engine.encoding.sampleFormat engine.layout with
    planes := [packet.data]
    time := packet.time
    timeBase := packet.timeBase }

def sendPacket (engine : PcmEngine) (packet : Packet) : Except MediaError Unit × PcmEngine :=
  if !engine.opened then (.error (.engine .notOpened), engine)
  else if engine.output.isSome then (.error .tryAgain, engine)
  else if packet.isEmpty then (.ok (), { engine with ended := true })
  else
    match blockCount packet.data.size engine.blockAlign with
    | .error error => (.error error, engine)
    | .ok samples => (.ok (), { engine with output := some (engine.frame packet samples) })

def receiveFrame (engine : PcmEngine) : Except MediaError Frame × PcmEngine :=
  match engine.output with
  | some frame => (.ok (.audio frame), { engine with output := none })
  | none => (.error (if engine.ended then .endOfStream else .needMoreData), engine)

/-- One sample is one unit of time; before opening the rate is not known. -/
def timeBase (engine : PcmEngine) : Ratio :=
  if engine.rate = 0 then .undefined else ⟨1, engine.rate.toInt32⟩

def params (engine : PcmEngine) : StreamParams :=
  .audio
    { rate := engine.rate
      layout := engine.layout
      format := engine.encoding.sampleFormat
      samplesPerFrame := 0
      blockAlign := engine.blockAlign }

def backlog (engine : PcmEngine) : Nat := if engine.output.isSome then 1 else 0

theorem backlog_lt {engine next : PcmEngine} {frame : Frame}
    (h : engine.receiveFrame = (.ok frame, next)) : next.backlog < engine.backlog := by
  unfold receiveFrame at h
  split at h
  · next f hf =>
    simp only [Prod.mk.injEq] at h
    simp [← h.2, backlog, hf]
  · simp at h

instance : Engine PcmEngine where
  codec engine := engine.encoding.codec
  name engine := engine.encoding.codec.name
  timeBase := timeBase
  params := params
  configure := configure
  sendPacket := sendPacket
  receiveFrame := receiveFrame
  flush engine := { engine with output := none, ended := false }
  backlog := backlog
  backlog_lt := backlog_lt

end PcmEngine

end StreamDecode
