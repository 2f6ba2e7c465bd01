import StreamDecode.CodecSettings
import StreamDecode.Frame
import StreamDecode.Packet

/-!
# Decoding engines

An engine takes packets and hands out frames. It is opened with codec settings; after each packet
its frames are received one by one until it needs more data, and an empty packet ends the stream.

Engines are states of a type with an `Engine` instance. `Engine.backlog` bounds the frames that can
still be received, so receiving until a failure ends; `Engine.discardFrames` does so and forgets
what it receives.
-/

namespace StreamDecode

/-- A type of engine states. An operation that fails gives the state that it leaves. -/
class Engine (σ : Type) where
  /-- The codec that the engine decodes. -/
  codec : σ → Codec
  /-- The name of the engine. -/
  name : σ → String
  /-- The time base in which the engine counts samples. -/
  timeBase : σ → Ratio
  /-- What the engine reports of its output at the moment. -/
  params : σ → StreamParams
  /-- Opens the engine. -/
  configure : σ → CodecSettings → Except MediaError Unit × σ
  /-- Takes a packet, or fails with `tryAgain` while frames are unread. -/
  sendPacket : σ → Packet → Except MediaError Unit × σ
  /-- Hands out a frame, or fails with `needMoreData` or, after the end, with `endOfStream`. -/
  receiveFrame : σ → Except MediaError Frame × σ
  /-- Forgets all data. -/
  flush : σ → σ
  /-- A bound on the frames that can be received without a further packet. -/
  backlog : σ → Nat
  /-- Each frame received lowers the bound. -/
  backlog_lt : ∀ {engine next : σ} {frame : Frame},
    receiveFrame engine = (.ok frame, next) → backlog next < backlog engine

namespace Engine

variable {σ : Type} [Engine σ]

/-- The engine after receiving frames up to the first failure, all of them forgotten. -/
def discardFrames (engine : σ) : σ :=
  match _h : receiveFrame engine with
  | (.ok _, next) => discardFrames next
  | (.error _, next) => next
termination_by backlog engine
decreasing_by exact backlog_lt _h

theorem discardFrames_of_error {engine next : σ} {error : MediaError}
    (h : receiveFrame engine = (.error error, next)) : discardFrames engine = next := by
  rw [discardFrames]
  split
  · next h' =>
    rw [h] at h'
    cases h'
  · next h' =>
    rw [h] at h'
    cases h'
    rfl

end Engine

end StreamDecode
