import StreamDecode.Engine.Pcm
import StreamDecode.Engine.RawVideo
import StreamDecode.Engine.Registry

/-!
# Built-in engines

`AnyEngine ε` is an engine of the library or one of the type `ε` that a host brings. The built-in
registry has the engines for uncompressed audio and video and the repacker for Vorbis headers.
-/

namespace StreamDecode

/-- An engine of the library, or one of a host. -/
inductive AnyEngine (ε : Type) where
  | pcm (engine : PcmEngine)
  | rawVideo (engine : RawVideoEngine)
  | host (engine : ε)

namespace AnyEngine

variable {ε : Type} [Engine ε]

def sendPacket (packet : Packet) : AnyEngine ε → Except MediaError Unit × AnyEngine ε
  | .pcm engine => (Engine.sendPacket engine packet).map id .pcm
  | .rawVideo engine => (Engine.sendPacket engine packet).map id .rawVideo
  | .host engine => (Engine.sendPacket engine packet).map id .host

def configure (settings : CodecSettings) : AnyEngine ε → Except MediaError Unit × AnyEngine ε
  | .pcm engine => (Engine.configure engine settings).map id .pcm
  | .rawVideo engine => (Engine.configure engine settings).map id .rawVideo
  | .host engine => (Engine.configure engine settings).map id .host

def receiveFrame : AnyEngine ε → Except MediaError Frame × AnyEngine ε
  | .pcm engine => (Engine.receiveFrame engine).map id .pcm
  | .rawVideo engine => (Engine.receiveFrame engine).map id .rawVideo
  | .host engine => (Engine.receiveFrame engine).map id .host

def backlog : AnyEngine ε → Nat
  | .pcm engine => Engine.backlog engine
  | .rawVideo engine => Engine.backlog engine
  | .host engine => Engine.backlog engine

theorem backlog_lt {engine next : AnyEngine ε} {frame : Frame}
    (h : engine.receiveFrame = (.ok frame, next)) : next.backlog < engine.backlog := by
  cases engine <;>
  · simp only [receiveFrame, Prod.map, Prod.mk.injEq, id] at h
    rw [← h.2]
    exact Engine.backlog_lt (Prod.ext h.1 rfl)

instance : Engine (AnyEngine ε) where
  codec
    | .pcm engine => Engine.codec engine
    | .rawVideo engine => Engine.codec engine
    | .host engine => Engine.codec engine
  name
    | .pcm engine => Engine.name engine
    | .rawVideo engine => Engine.name engine
    | .host engine => Engine.name engine
  timeBase
    | .pcm engine => Engine.timeBase engine
    | .rawVideo engine => Engine.timeBase engine
    | .host engine => Engine.timeBase engine
  params
    | .pcm engine => Engine.params engine
    | .rawVideo engine => Engine.params engine
    | .host engine => Engine.params engine
  configure engine settings := engine.configure settings
  sendPacket engine packet := engine.sendPacket packet
  receiveFrame := receiveFrame
  flush
    | .pcm engine => .pcm (Engine.flush engine)
    | .rawVideo engine => .rawVideo (Engine.flush engine)
    | .host engine => .host (Engine.flush engine)
  backlog := backlog
  backlog_lt := backlog_lt

end AnyEngine

namespace EngineRegistry

variable {ε : Type}

/-- A registry with the built-in engines and repackers added. -/
def addBuiltins (registry : EngineRegistry (AnyEngine ε)) : EngineRegistry (AnyEngine ε) :=
  registry
    |>.addEngine ⟨.rawVideo, "rawvideo", .ok (.rawVideo .new)⟩
    |>.addEngine ⟨.pcmS16, "pcm_s16le", .ok (.pcm (.new .s16))⟩
    |>.addEngine ⟨.pcmF32, "pcm_f32le", .ok (.pcm (.new .f32))⟩
    |>.addRepacker .vorbis VorbisHeader.repacker

/-- The registry of the built-in engines and repackers. -/
def builtin : EngineRegistry (AnyEngine ε) := empty.addBuiltins

end EngineRegistry

end StreamDecode
