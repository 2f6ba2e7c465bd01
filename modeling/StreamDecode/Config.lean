import StreamDecode.Bytes
import StreamDecode.Json.Text

/-!
# Configuration

A configuration has a section for logging and one for the pipeline. It is read from structured text
in which every section and every field may be left out and then has its default value
(`Config.ofText`), or from a file (`Config.ofFile`).
-/

namespace StreamDecode

/-- What is logged, and where to; without a directory no file is written. -/
structure LogConfig where
  level : String
  console : Bool
  directory : Option String
  fileStem : String
  retentionDays : Int64
deriving DecidableEq, Repr

/-- Settings of the pipeline: the announced length of an audio buffer, and whether it is logged when
a buffer of the host is too short. -/
structure PipelineConfig where
  audioBufferLength : UInt32
  logsTruncation : Bool
deriving DecidableEq, Repr

/-- A configuration. -/
structure Config where
  logging : LogConfig
  pipeline : PipelineConfig
deriving DecidableEq, Repr

/-- Why there is no configuration. -/
inductive ConfigError where
  | invalidText
  | unreadableFile (path : String)
  | invalidFile (path : String)
deriving DecidableEq, Repr

def ConfigError.message : ConfigError → String
  | .invalidText => "解析配置 JSON 失败"
  | .unreadableFile path => s!"读取配置文件失败, path={path}"
  | .invalidFile path => s!"加载配置文件失败, path={path}"

namespace LogConfig

def standard : LogConfig where
  level := "info"
  console := true
  directory := none
  fileStem := "mft"
  retentionDays := 30

def ofJson? (json : Json) : Option LogConfig := do
  let fields ← json.fields? ["level", "console", "directory", "file_prefix", "retention_days"]
  let level ← fields.optional? "level" Json.text? standard.level
  let console ← fields.optional? "console" Json.bool? standard.console
  let directory ← fields.optional? "directory" (Json.nullable? Json.text?) standard.directory
  let fileStem ← fields.optional? "file_prefix" Json.text? standard.fileStem
  let retentionDays ← fields.optional? "retention_days" Json.i64? standard.retentionDays
  some ⟨level, console, directory, fileStem, retentionDays⟩

def toJson (config : LogConfig) : Json :=
  .record
    [("level", .text (some config.level)), ("console", .bool config.console),
      ("directory", config.directory.elim .null fun directory => .text (some directory)),
      ("file_prefix", .text (some config.fileStem)),
      ("retention_days", .int config.retentionDays.toInt)]

end LogConfig

namespace PipelineConfig

def standard : PipelineConfig := ⟨192000, true⟩

def ofJson? (json : Json) : Option PipelineConfig := do
  let fields ← json.fields? ["audio_output_buffer_size", "log_truncation"]
  let audioBufferLength ←
    fields.optional? "audio_output_buffer_size" Json.u32? standard.audioBufferLength
  let logsTruncation ← fields.optional? "log_truncation" Json.bool? standard.logsTruncation
  some ⟨audioBufferLength, logsTruncation⟩

def toJson (config : PipelineConfig) : Json :=
  .record
    [("audio_output_buffer_size", .int config.audioBufferLength.toNat),
      ("log_truncation", .bool config.logsTruncation)]

end PipelineConfig

namespace Config

/-- The default configuration. -/
def standard : Config := ⟨.standard, .standard⟩

def ofJson? (json : Json) : Option Config := do
  let fields ← json.fields? ["logging", "transform"]
  let logging ← fields.optional? "logging" LogConfig.ofJson? .standard
  let pipeline ← fields.optional? "transform" PipelineConfig.ofJson? .standard
  some ⟨logging, pipeline⟩

def toJson (config : Config) : Json :=
  .record [("logging", config.logging.toJson), ("transform", config.pipeline.toJson)]

def toText (config : Config) : String := config.toJson.compact

/-- The configuration of a text, if it is one. -/
def ofText? (text : String) : Option Config := (Json.ofText? text).bind ofJson?

/-- The configuration of a text. -/
def ofText (text : String) : Except ConfigError Config :=
  match ofText? text with
  | some config => .ok config
  | none => .error .invalidText

/-- The configuration in a file with the given contents; there are none if the file is missing. -/
def ofFile (path : String) (contents : Option Bytes) : Except ConfigError Config :=
  match contents.bind fun bytes => String.fromUTF8? ⟨bytes⟩ with
  | none => .error (.unreadableFile path)
  | some text =>
    match ofText? text with
    | some config => .ok config
    | none => .error (.invalidFile path)

end Config

end StreamDecode
