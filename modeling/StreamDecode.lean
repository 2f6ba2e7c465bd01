import StreamDecode.Allocation
import StreamDecode.Audio.Conversion
import StreamDecode.Audio.SamplePoint
import StreamDecode.Bytes
import StreamDecode.CodecSettings
import StreamDecode.Config
import StreamDecode.Engine.Basic
import StreamDecode.Engine.Builtin
import StreamDecode.Engine.Pcm
import StreamDecode.Engine.RawVideo
import StreamDecode.Engine.Registry
import StreamDecode.Engine.Scripted
import StreamDecode.Error
import StreamDecode.Frame
import StreamDecode.Header.Lacing
import StreamDecode.Header.Repacker
import StreamDecode.Json.Basic
import StreamDecode.Json.Text
import StreamDecode.Json.Token
import StreamDecode.Media.ChannelLayout
import StreamDecode.Media.Coding
import StreamDecode.Media.PixelFormat
import StreamDecode.Media.SampleFormat
import StreamDecode.MediaType.Attributes
import StreamDecode.MediaType.Basic
import StreamDecode.MediaType.Text
import StreamDecode.Negotiation
import StreamDecode.Numeric.Binary
import StreamDecode.Packet
import StreamDecode.Pipeline.Basic
import StreamDecode.Pipeline.Flow
import StreamDecode.Pipeline.Message
import StreamDecode.Pipeline.Run
import StreamDecode.Pipeline.StreamInfo
import StreamDecode.Proofs.Session.Receive
import StreamDecode.Proofs.Session.Run
import StreamDecode.Proofs.Session.Types
import StreamDecode.Ratio
import StreamDecode.Renderer.Audio
import StreamDecode.Renderer.Basic
import StreamDecode.Renderer.Video
import StreamDecode.Sample
import StreamDecode.Session.Basic
import StreamDecode.Session.Decode
import StreamDecode.Time
import StreamDecode.Version
import StreamDecode.Video.Conversion
import StreamDecode.Video.Image
import StreamDecode.Video.Nv12
import StreamDecode.Proofs.Session.Undelivered
import StreamDecode.Proofs.Video.Length
import StreamDecode.Proofs.Session.Rendered
import StreamDecode.Proofs.Session.Sightings
import StreamDecode.Proofs.Pipeline.Changes
import StreamDecode.Proofs.Pipeline.Flow
import StreamDecode.Proofs.Pipeline.Consistent
import StreamDecode.Proofs.Pipeline.Ledger
import StreamDecode.Proofs.Pipeline.Handshake
import StreamDecode.Proofs.Pipeline.Effects
import StreamDecode.Proofs.Pipeline.Lengths
import StreamDecode.Proofs.Pipeline.StableStream
import StreamDecode.Proofs.Pipeline.CommittedTypes
import StreamDecode.Proofs.Audio.Length
import StreamDecode.Proofs.Renderer.Rendering
import StreamDecode.Proofs.Session.Alike
import StreamDecode.Proofs.Session.Reopened
import StreamDecode.Proofs.Pipeline.Refusals
import StreamDecode.Proofs.Pipeline.AfterFlush
import StreamDecode.Proofs.Pipeline.Admission
import StreamDecode.Proofs.Pipeline.Candidates
import StreamDecode.Proofs.Session.TypeFaults
import StreamDecode.Proofs.Pipeline.Pairs
import StreamDecode.Proofs.Pipeline.Mode
import StreamDecode.Proofs.Pipeline.TestOnly
import StreamDecode.Proofs.Pipeline.AfterShutdown
import StreamDecode.Proofs.Engine.Repackaging
import StreamDecode.Proofs.Pipeline.Relay
import StreamDecode.Proofs.Video.Planar
import StreamDecode.Proofs.Pipeline.RawVideo
import StreamDecode.Proofs.Audio.Interleaved
import StreamDecode.Proofs.Pipeline.Pcm
import StreamDecode.Proofs.Json.Parsing
import StreamDecode.Proofs.Json.Scanning
import StreamDecode.Proofs.Json.Spelling
import StreamDecode.Proofs.MediaType.RoundTrip
import StreamDecode.Proofs.Renderer.Run
import StreamDecode.Proofs.Video.Rows
import StreamDecode.Proofs.Video.Pixels
import StreamDecode.Proofs.Video.Conversion
import StreamDecode.Proofs.Session.Outcomes
import StreamDecode.Proofs.Audio.Mixing
import StreamDecode.Proofs.Audio.Lossless
import StreamDecode.Proofs.Header.Repacking
import StreamDecode.Proofs.Engine.Protocol
import StreamDecode.Proofs.Engine.Uncompressed
import StreamDecode.Proofs.Ratio.Rescaling
import StreamDecode.Proofs.Ratio.Reduction
import StreamDecode.Proofs.Config.Defaults
import StreamDecode.Proofs.Pipeline.Announced
import StreamDecode.Proofs.Header.Recognition
import StreamDecode.Proofs.Renderer.Reuse
import StreamDecode.Proofs.Session.Pcm
import StreamDecode.Proofs.Audio.Durations
