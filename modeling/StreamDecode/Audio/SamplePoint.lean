import StreamDecode.Bytes
import StreamDecode.Media.SampleFormat
import StreamDecode.Numeric.Binary

/-!
# Single audio samples

A sample is read as a number between -1 and 1 and written from one. Integer encodings are scaled by
a power of two, which is exact; writing rounds halves away from zero and clamps to the range of the
encoding. Bytes of 8 bits count from the middle value 128.
-/

namespace StreamDecode.SampleEncoding

/-- The number that the bytes of one sample stand for. -/
def decode (encoding : SampleEncoding) (bytes : List UInt8) : Binary :=
  let word := ofLittleEndian bytes
  match encoding with
  | .u8 => (Binary.ofInt ((word : Int) - 128)).scale (-7)
  | .s16 => (Binary.ofInt ((word : Int).bmod 0x10000)).scale (-15)
  | .s32 => (Binary.ofInt ((word : Int).bmod 0x100000000)).scale (-31)
  | .f32 => Binary.ofSingleBits word

def encodeWord (encoding : SampleEncoding) (value : Binary) : Nat :=
  match encoding with
  | .u8 => (((value.scale 7).add (.ofInt 128)).toIntWithin 0 255).toNat
  | .s16 => ((value.scale 15).toIntWithin (-0x8000) 0x7fff % 0x10000).toNat
  | .s32 => ((value.scale 31).toIntWithin (-0x80000000) 0x7fffffff % 0x100000000).toNat
  | .f32 => value.encode .single

def encode (encoding : SampleEncoding) (value : Binary) : List UInt8 :=
  littleEndian encoding.width (encoding.encodeWord value)

@[simp] theorem length_encode (encoding : SampleEncoding) (value : Binary) :
    (encoding.encode value).length = encoding.width := by simp [encode]

end StreamDecode.SampleEncoding
