import StreamDecode.Allocation
import StreamDecode.Time

/-!
# Packets

A packet holds compressed data on its way into an engine. One packet is used again for every input:
`Packet.fill` replaces its contents and tells whether the buffer had the right length already.
-/

namespace StreamDecode

/-- Compressed data with its time; an empty packet marks the end of a stream. -/
structure Packet where
  data : Bytes
  time : Int64
  duration : Int64
  timeBase : Ratio
deriving DecidableEq

namespace Packet

def empty : Packet := ⟨#[], noTimestamp, 0, .hundredNanos⟩

def isEmpty (packet : Packet) : Bool := packet.data.isEmpty

/-- The packet with new contents, in units of 100 nanoseconds, and whether its buffer could stay.
If there is no memory for a new buffer, the packet stays as it is. -/
def fill (packet : Packet) (payload : Bytes) (time duration : Int64) :
    Except MediaError Bool × Packet :=
  let filled : Packet := ⟨payload, time, duration, .hundredNanos⟩
  if packet.data.size = payload.size then (.ok true, filled)
  else
    match allocate payload.size "数据包缓冲区" with
    | .ok _ => (.ok false, filled)
    | .error error => (.error error, packet)

end Packet

end StreamDecode
