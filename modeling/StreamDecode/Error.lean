import StreamDecode.Media.Coding
import StreamDecode.Media.SampleFormat
import StreamDecode.Media.PixelFormat

/-!
# Errors

`MediaError` has one constructor for each kind of failure; the kinds that carry a cause have a type
of causes of their own. `MediaError.message` is the only place where they are put into words, and
`MediaError.code` gives the code that a host sees. Hosts bring engines of their own, so each type of
causes has `stated` for a failure in the words of the host.
-/

namespace StreamDecode

/-- Why a call was refused for its arguments. -/
inductive ArgumentFault where
  | audioParamsMissing
  | videoParamsMissing
  | zeroSampleRate
  | zeroChannels
  | zeroDimension
  | noImageSize (format : PixelFormat)
  | sampleFormats (source target : SampleFormat)
  | audioBufferSize (actual expected : Nat)
  | nv12PlaneSizes (luma chroma : Nat) (size : FrameSize)
  | emptyImage (size : FrameSize)
  | imageBufferSize (actual expected : Nat)
  | inputFlags (flags : UInt32)
  | slotCount (count : Nat)
  | notShutDown
  | stated (text : String)
deriving DecidableEq, Repr

/-- Why a media type was refused. -/
inductive MediaTypeFault where
  | notDecodable (coding : Coding)
  | kindOfCodec (codec : Codec) (kind : StreamKind)
  | channelCountMissing
  | sampleRateMissing
  | frameSizeMissing
  | headerTooShort (length : Nat)
  | headerSizes (first second payload : Nat)
  | inputNotSupported (kind : StreamKind) (coding : Coding)
  | outputKind (output input : StreamKind)
  | outputNotSupported (coding : Coding)
  | audioOutput (coding : Coding)
  | videoOutput (coding : Coding)
  | sessionKinds (input output : StreamKind)
  | outputFrameSizeMissing
  | frameTooLarge (size : FrameSize)
  | stated (text : String)
deriving DecidableEq, Repr

/-- Why memory could not be had. -/
inductive MemoryFault where
  | tooLong (purpose : String) (length : Nat)
  | stated (text : String)
deriving DecidableEq, Repr

/-- Why an engine failed. -/
inductive EngineFault where
  | notOpened
  | stated (text : String)
deriving DecidableEq, Repr

/-- Why there is no engine. -/
inductive EngineLookupFault where
  | noEngine (codec : Codec)
  | stated (text : String)
deriving DecidableEq, Repr

/-- What is wrong with data. -/
inductive DataFault where
  | notWholeBlocks (length block : Nat)
  | packetTooLarge (length : Nat)
  | imageLength (actual expected : Nat)
  | samplesMissing (planes bytes : Nat)
  | planesMissing (format : PixelFormat) (expected actual : Nat)
  | planeTooShort (plane length stride rows : Nat)
  | audioFrameForVideo
  | videoFrameForAudio
  | frameSize (frame reported : FrameSize)
  | stated (text : String)
deriving DecidableEq, Repr

/-- What is not supported. -/
inductive SupportFault where
  | rateConversion (source target : UInt32)
  | planarTarget (format : SampleFormat)
  | pixelConversion (source target : PixelFormat)
  | stated (text : String)
deriving DecidableEq, Repr

/-- What is not implemented. -/
inductive ImplementationFault where
  | streamNumbers
  | stated (text : String)
deriving DecidableEq, Repr

/-- Which expectation of the library was broken. -/
inductive InternalFault where
  | engineNotDrained
  | sampleNotReadable
  | pixelNotReadable
  | stated (text : String)
deriving DecidableEq, Repr

/-- A failure of an operation. -/
inductive MediaError where
  | invalidArgument (fault : ArgumentFault)
  | invalidStreamNumber (number : UInt32)
  | typeNotSet
  | noMoreTypes
  | invalidMediaType (fault : MediaTypeFault)
  | shutdown
  | outOfMemory (fault : MemoryFault)
  | engine (fault : EngineFault)
  | engineNotFound (fault : EngineLookupFault)
  | invalidData (fault : DataFault)
  | needMoreData
  | tryAgain
  | endOfStream
  | unsupported (fault : SupportFault)
  | notImplemented (fault : ImplementationFault)
  | inputOutput (text : String)
  | internal (fault : InternalFault)
deriving DecidableEq, Repr

/-- The code that a host sees as the result of a call. -/
inductive StatusCode where
  | ok
  | needMoreInput
  | notAccepting
  | invalidStreamNumber
  | typeNotSet
  | noMoreTypes
  | invalidMediaType
  | streamChangePending
  | shutdown
  | outOfMemory
  | invalidArgument
  | genericFailure
deriving DecidableEq, Repr

def StatusCode.name : StatusCode → String
  | .ok => "ok"
  | .needMoreInput => "need-more-input"
  | .notAccepting => "not-accepting"
  | .invalidStreamNumber => "invalid-stream-number"
  | .typeNotSet => "type-not-set"
  | .noMoreTypes => "no-more-types"
  | .invalidMediaType => "invalid-media-type"
  | .streamChangePending => "stream-change-pending"
  | .shutdown => "shutdown"
  | .outOfMemory => "out-of-memory"
  | .invalidArgument => "invalid-argument"
  | .genericFailure => "generic-failure"

/-! ### Wording -/

/-- A number in hexadecimal notation with its mark. -/
def hexLabel (n : Nat) : String := "0x" ++ String.ofList (Nat.toDigits 16 n)

def ArgumentFault.message : ArgumentFault → String
  | .audioParamsMissing => "PCM 解码器需要音频参数"
  | .videoParamsMissing => "rawvideo 解码器需要视频参数"
  | .zeroSampleRate => "采样率不能为 0"
  | .zeroChannels => "声道数不能为 0"
  | .zeroDimension => "宽度和高度不能为 0"
  | .noImageSize format => s!"无法计算 {format.name} 的帧大小"
  | .sampleFormats source target => s!"无效的采样格式: {source.name} -> {target.name}"
  | .audioBufferSize actual expected => s!"输出缓冲区大小 {actual} 与期望 {expected} 不符"
  | .nv12PlaneSizes luma chroma size =>
    s!"NV12 输出平面大小不符: Y={luma} UV={chroma}, 期望 {size.label}"
  | .emptyImage size => s!"无效的图像尺寸: {size.label}"
  | .imageBufferSize actual expected => s!"目标缓冲区大小不符: {actual} 字节, 期望 {expected}"
  | .inputFlags flags => s!"输入标志必须为 0, 实际为 {hexLabel flags.toNat}"
  | .slotCount count => s!"需要恰好 1 个输出槽, 实际为 {count}"
  | .notShutDown => "变换尚未关闭"
  | .stated text => text

def MediaTypeFault.message : MediaTypeFault → String
  | .notDecodable coding => s!"{coding.name} 不是可解码的输入格式"
  | .kindOfCodec codec kind => s!"{codec.name} 与流类别 {kind.label} 不符"
  | .channelCountMissing => "音频输入缺少声道数"
  | .sampleRateMissing => "音频输入缺少采样率"
  | .frameSizeMissing => "视频输入缺少帧尺寸"
  | .headerTooShort length => s!"Vorbis 头部过短: {length} 字节"
  | .headerSizes first second payload => s!"Vorbis 头部长度不一致: {first}+{second} / {payload} 字节"
  | .inputNotSupported kind coding => s!"不支持的输入类型: {kind.label}/{coding.name}"
  | .outputKind output input => s!"输出类别 {output.label} 与输入类别 {input.label} 不一致"
  | .outputNotSupported coding => s!"不支持的输出类型: {coding.name}"
  | .audioOutput coding => s!"音频输出只支持 float, 实际为 {coding.name}"
  | .videoOutput coding => s!"视频输出只支持 nv12, 实际为 {coding.name}"
  | .sessionKinds input output => s!"输入 {input.label} 与输出 {output.label} 的流类别不一致"
  | .outputFrameSizeMissing => "视频输出类型缺少帧尺寸"
  | .frameTooLarge size => s!"帧尺寸过大: {size.label}"
  | .stated text => text

/-- What the memory manager says of a length that no buffer can have. -/
def capacityOverflow : String :=
  "memory allocation failed because the computed capacity exceeded the collection's maximum"

def MemoryFault.message : MemoryFault → String
  | .tooLong purpose length => s!"{purpose} ({length} 字节): {capacityOverflow}"
  | .stated text => text

def EngineFault.message : EngineFault → String
  | .notOpened => "解码器未打开, 请先调用 open()"
  | .stated text => text

def EngineLookupFault.message : EngineLookupFault → String
  | .noEngine codec => s!"未找到 {codec.name} 的解码器"
  | .stated text => text

def DataFault.message : DataFault → String
  | .notWholeBlocks length block => s!"数据大小 {length} 不是 block_align {block} 的整数倍"
  | .packetTooLarge length => s!"数据包过大: {length} 字节"
  | .imageLength actual expected => s!"数据大小 {actual} 与预期帧大小 {expected} 不匹配"
  | .samplesMissing planes bytes => s!"输入数据不足: 需要 {planes} 个平面, 每个 {bytes} 字节"
  | .planesMissing format expected actual =>
    s!"{format.name} 需要 {expected} 个平面, 实际 {actual}"
  | .planeTooShort plane length stride rows =>
    s!"平面 {plane} 数据不足: {length} 字节, 行宽 {stride}, {rows} 行"
  | .audioFrameForVideo => "视频后处理收到音频帧"
  | .videoFrameForAudio => "音频后处理收到视频帧"
  | .frameSize frame reported => s!"帧尺寸 {frame.label} 与引擎报告的 {reported.label} 不符"
  | .stated text => text

def SupportFault.message : SupportFault → String
  | .rateConversion source target => s!"不支持采样率转换: {source.toNat} -> {target.toNat}"
  | .planarTarget format => s!"目标格式必须为交错格式: {format.name}"
  | .pixelConversion source target => s!"不支持的像素格式转换: {source.name} -> {target.name}"
  | .stated text => text

def ImplementationFault.message : ImplementationFault → String
  | .streamNumbers => "流编号固定为 0"
  | .stated text => text

def InternalFault.message : InternalFault → String
  | .engineNotDrained => "解码引擎在送包前未被取空"
  | .sampleNotReadable => "采样点无法读取"
  | .pixelNotReadable => "像素无法读取"
  | .stated text => text

namespace MediaError

/-- The full text of an error. -/
def message : MediaError → String
  | .invalidArgument fault => "无效参数: " ++ fault.message
  | .invalidStreamNumber number => s!"无效的流编号: {number.toNat}"
  | .typeNotSet => "媒体类型尚未设置"
  | .noMoreTypes => "没有更多的媒体类型"
  | .invalidMediaType fault => "无效的媒体类型: " ++ fault.message
  | .shutdown => "变换已关闭"
  | .outOfMemory fault => "内存分配失败: " ++ fault.message
  | .engine fault => "解码引擎错误: " ++ fault.message
  | .engineNotFound fault => "未找到解码引擎: " ++ fault.message
  | .invalidData fault => "无效数据: " ++ fault.message
  | .needMoreData => "数据不足, 需要更多输入"
  | .tryAgain => "引擎输出未取空, 暂不能接收新数据"
  | .endOfStream => "已到达流末尾"
  | .unsupported fault => "不支持的操作: " ++ fault.message
  | .notImplemented fault => "功能未实现: " ++ fault.message
  | .inputOutput text => "I/O 错误: " ++ text
  | .internal fault => "内部错误: " ++ fault.message

/-- The code that a host sees: failures of engines, of data and of the library itself are all
one. -/
def code : MediaError → StatusCode
  | .invalidArgument _ => .invalidArgument
  | .invalidStreamNumber _ => .invalidStreamNumber
  | .typeNotSet => .typeNotSet
  | .noMoreTypes => .noMoreTypes
  | .invalidMediaType _ => .invalidMediaType
  | .shutdown => .shutdown
  | .outOfMemory _ => .outOfMemory
  | .engine _ | .engineNotFound _ | .invalidData _ | .needMoreData | .tryAgain | .endOfStream
  | .unsupported _ | .notImplemented _ | .inputOutput _ | .internal _ => .genericFailure

end MediaError

end StreamDecode
