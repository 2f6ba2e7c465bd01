/-!
# Stream kinds, codings and codecs

A `Coding` names the format of a stream in a media type: compressed on the input side, raw
(`float`, `nv12`) on the output side. A `Codec` names a decoding algorithm. `Coding.codec?` finds
the algorithm of a coding; the raw output codings have none.
-/

namespace StreamDecode

/-- The two kinds of streams. -/
inductive StreamKind where
  | audio
  | video
deriving DecidableEq, Repr

namespace StreamKind

/-- The name in structured text. -/
def name : StreamKind → String
  | .audio => "audio"
  | .video => "video"

/-- The name in messages. -/
def label : StreamKind → String
  | .audio => "音频"
  | .video => "视频"

def all : List StreamKind := [.audio, .video]

end StreamKind

/-- The format of a stream in a media type. -/
inductive Coding where
  | pcm
  | floatPcm
  | vorbis
  | flac
  | opus
  | mp3
  | aac
  | i420
  | h264
  | hevc
  | vp8
  | vp9
  | mpeg4
  | theora
  | float
  | nv12
deriving DecidableEq, Repr

namespace Coding

/-- The kind of stream that a coding belongs to. -/
def kind : Coding → StreamKind
  | .pcm | .floatPcm | .vorbis | .flac | .opus | .mp3 | .aac | .float => .audio
  | .i420 | .h264 | .hevc | .vp8 | .vp9 | .mpeg4 | .theora | .nv12 => .video

/-- The short name, in messages and in structured text. -/
def name : Coding → String
  | .pcm => "pcm"
  | .floatPcm => "float_pcm"
  | .vorbis => "vorbis"
  | .flac => "flac"
  | .opus => "opus"
  | .mp3 => "mp3"
  | .aac => "aac"
  | .i420 => "i420"
  | .h264 => "h264"
  | .hevc => "hevc"
  | .vp8 => "vp8"
  | .vp9 => "vp9"
  | .mpeg4 => "mpeg4"
  | .theora => "theora"
  | .float => "float"
  | .nv12 => "nv12"

def all : List Coding :=
  [.pcm, .floatPcm, .vorbis, .flac, .opus, .mp3, .aac, .i420, .h264, .hevc, .vp8, .vp9, .mpeg4,
    .theora, .float, .nv12]

end Coding

/-- A decoding algorithm. -/
inductive Codec where
  | h264
  | h265
  | vp8
  | vp9
  | mpeg4
  | theora
  | rawVideo
  | aac
  | mp3
  | opus
  | vorbis
  | flac
  | pcmS16
  | pcmF32
deriving DecidableEq, Repr

namespace Codec

def kind : Codec → StreamKind
  | .h264 | .h265 | .vp8 | .vp9 | .mpeg4 | .theora | .rawVideo => .video
  | .aac | .mp3 | .opus | .vorbis | .flac | .pcmS16 | .pcmF32 => .audio

def name : Codec → String
  | .h264 => "h264"
  | .h265 => "hevc"
  | .vp8 => "vp8"
  | .vp9 => "vp9"
  | .mpeg4 => "mpeg4"
  | .theora => "theora"
  | .rawVideo => "rawvideo"
  | .aac => "aac"
  | .mp3 => "mp3"
  | .opus => "opus"
  | .vorbis => "vorbis"
  | .flac => "flac"
  | .pcmS16 => "pcm_s16le"
  | .pcmF32 => "pcm_f32le"

def all : List Codec :=
  [.h264, .h265, .vp8, .vp9, .mpeg4, .theora, .rawVideo, .aac, .mp3, .opus, .vorbis, .flac, .pcmS16,
    .pcmF32]

end Codec

/-- The algorithm that decodes a coding; the raw output codings have none. -/
def Coding.codec? : Coding → Option Codec
  | .pcm => some .pcmS16
  | .floatPcm => some .pcmF32
  | .vorbis => some .vorbis
  | .flac => some .flac
  | .opus => some .opus
  | .mp3 => some .mp3
  | .aac => some .aac
  | .i420 => some .rawVideo
  | .h264 => some .h264
  | .hevc => some .h265
  | .vp8 => some .vp8
  | .vp9 => some .vp9
  | .mpeg4 => some .mpeg4
  | .theora => some .theora
  | .float | .nv12 => none

theorem Coding.kind_of_codec? {coding : Coding} {codec : Codec} (h : coding.codec? = some codec) :
    codec.kind = coding.kind := by
  cases coding <;> simp only [codec?, Option.some.injEq, reduceCtorEq] at h <;> subst h <;> rfl

end StreamDecode
