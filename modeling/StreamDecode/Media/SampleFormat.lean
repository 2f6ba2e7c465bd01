/-!
# Audio sample formats

Interleaved formats keep the channels of one instant together; planar formats keep one plane per
channel. `SampleFormat.encoding?` tells how a single sample is written.
-/

namespace StreamDecode

/-- The format of audio samples in a frame. -/
inductive SampleFormat where
  | unspecified
  | u8
  | s16
  | s32
  | f32
  | s16Planar
  | s32Planar
  | f32Planar
deriving DecidableEq, Repr

/-- How one sample is written. -/
inductive SampleEncoding where
  | u8
  | s16
  | s32
  | f32
deriving DecidableEq, Repr

/-- The number of bytes of one sample. -/
def SampleEncoding.width : SampleEncoding → Nat
  | .u8 => 1
  | .s16 => 2
  | .s32 => 4
  | .f32 => 4

namespace SampleFormat

/-- How one sample is written, if that is specified. -/
def encoding? : SampleFormat → Option SampleEncoding
  | .unspecified => none
  | .u8 => some .u8
  | .s16 | .s16Planar => some .s16
  | .s32 | .s32Planar => some .s32
  | .f32 | .f32Planar => some .f32

/-- The number of bytes of one sample; `0` if the format is not specified. -/
def width (format : SampleFormat) : Nat := (format.encoding?.map SampleEncoding.width).getD 0

/-- Whether each channel has a plane of its own. -/
def isPlanar : SampleFormat → Bool
  | .s16Planar | .s32Planar | .f32Planar => true
  | _ => false

/-- The interleaved format with the same encoding. -/
def interleaved : SampleFormat → SampleFormat
  | .s16Planar => .s16
  | .s32Planar => .s32
  | .f32Planar => .f32
  | format => format

def name : SampleFormat → String
  | .unspecified => "none"
  | .u8 => "u8"
  | .s16 => "s16"
  | .s32 => "s32"
  | .f32 => "flt"
  | .s16Planar => "s16p"
  | .s32Planar => "s32p"
  | .f32Planar => "fltp"

def all : List SampleFormat :=
  [.unspecified, .u8, .s16, .s32, .f32, .s16Planar, .s32Planar, .f32Planar]

end SampleFormat

end StreamDecode
