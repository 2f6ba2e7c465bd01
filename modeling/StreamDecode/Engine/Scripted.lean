import StreamDecode.Engine.Basic

/-!
# Scripted engines

A scripted engine answers each packet as a script says: it refuses the packet, or it queues a list
of outputs, each of them a frame or a failure. It stands for engines that a host brings.
-/

namespace StreamDecode

/-- What a scripted engine reports of its output: fixed parameters, or those it was opened with. -/
inductive ReportedParams where
  | fixed (params : StreamParams)
  | asOpened
deriving DecidableEq, Repr

/-- One output of a scripted engine: what it hands out, and what it reports from then on, if that
changes. -/
structure ScriptedOutput where
  reported : Option ReportedParams
  result : Except MediaError Frame

/-- How a script answers a packet. -/
inductive Reaction where
  | refuse (error : MediaError)
  | emit (outputs : List ScriptedOutput) (reported : Option ReportedParams)

/-- The state of a scripted engine. -/
structure ScriptedEngine where
  codec : Codec
  name : String
  timeBase : Ratio
  openError : Option MediaError
  script : Packet → Reaction
  reported : ReportedParams
  openedWith : StreamParams
  pending : List ScriptedOutput
  ended : Bool

namespace ScriptedEngine

/-- What the engine reports of its output at the moment. -/
def params (engine : ScriptedEngine) : StreamParams :=
  match engine.reported with
  | .fixed params => params
  | .asOpened => engine.openedWith

/-- Opens the engine, unless the script makes that fail. -/
def configure (engine : ScriptedEngine) (settings : CodecSettings) :
    Except MediaError Unit × ScriptedEngine :=
  match engine.openError with
  | some error => (.error error, engine)
  | none => (.ok (), { engine with openedWith := settings.params })

/-- Takes a packet as the script says. -/
def sendPacket (engine : ScriptedEngine) (packet : Packet) :
    Except MediaError Unit × ScriptedEngine :=
  if !engine.pending.isEmpty then (.error .tryAgain, engine)
  else if packet.isEmpty then (.ok (), { engine with ended := true })
  else
    match engine.script packet with
    | .refuse error => (.error error, engine)
    | .emit outputs reported =>
      (.ok (),
        { engine with
          pending := engine.pending ++ outputs
          reported := reported.getD engine.reported })

/-- Hands out the next output. -/
def receiveFrame (engine : ScriptedEngine) : Except MediaError Frame × ScriptedEngine :=
  match engine.pending with
  | [] => (.error (if engine.ended then .endOfStream else .needMoreData), engine)
  | output :: rest =>
    (output.result,
      { engine with pending := rest, reported := output.reported.getD engine.reported })

theorem backlog_lt {engine next : ScriptedEngine} {frame : Frame}
    (h : engine.receiveFrame = (.ok frame, next)) :
    next.pending.length < engine.pending.length := by
  unfold receiveFrame at h
  split at h
  · simp at h
  · next output rest hp =>
    simp only [Prod.mk.injEq] at h
    simp [← h.2, hp]

instance : Engine ScriptedEngine where
  codec := codec
  name := name
  timeBase := timeBase
  params := params
  configure := configure
  sendPacket := sendPacket
  receiveFrame := receiveFrame
  flush engine := { engine with pending := [], ended := false }
  backlog engine := engine.pending.length
  backlog_lt := backlog_lt

end ScriptedEngine

end StreamDecode
