import StreamDecode.Config
import StreamDecode.Proofs.MediaType.RoundTrip

/-!
# Configurations read back from a part of their text

A configuration is read back from its text. Where the text leaves out fields or whole sections
(`Config.Omission`), what it leaves out has its default value and everything else is kept
(`Config.ofText_omitting`).

A record that leaves out fields is read field by field (`Json.fields?_without`,
`Json.Fields.optional?_of_omitted`); this gives both sections and, with the sections as its fields, the
configuration. That every value is read from its own spelling is known from the text
(`Json.ofText?_compact`).
-/

namespace StreamDecode

namespace Json

/-! ## Fields left out -/

/-- An object without some of its members; any other value is kept. -/
def without (json : Json) (omitted : List String) : Json :=
  match json with
  | .object members => .object (members.filter fun member => member.1.all (· ∉ omitted))
  | json => json

/-- An object with the values of one name changed; any other value is kept. -/
def adjust (json : Json) (name : String) (change : Json → Json) : Json :=
  match json with
  | .object members =>
    .object (members.map fun (key, value) => (key, if key = some name then change value else value))
  | json => json

section Omitted

variable {members : List (String × Json)}

theorem record_without (members : List (String × Json)) (omitted : List String) :
    (record members).without omitted = record (members.filter (·.1 ∉ omitted)) := by
  unfold record without
  dsimp only
  rw [List.filter_map]
  rfl

theorem without_nil (members : List (String × Json)) :
    (record members).without [] = record members := by
  rw [record_without, List.filter_eq_self.mpr fun _ _ => decide_eq_true List.not_mem_nil]

theorem filter_of_notMem {name : String} (h : name ∉ members.map Prod.fst) :
    members.filter (·.1 = name) = [] := by
  rw [List.filter_eq_nil_iff]
  intro member hm heq
  rw [decide_eq_true_eq] at heq
  exact h (heq ▸ List.mem_map_of_mem hm)

/-- A record whose names are all different has just the values of its members. -/
theorem fields?_record (hnames : (members.map Prod.fst).Nodup) (names : List String) :
    ∃ fields, (record members).fields? names = some fields ∧
      (∀ member ∈ members, fields member.1 = some member.2) ∧
      ∀ name ∉ members.map Prod.fst, fields name = none := by
  have hrecord : record members =
      .object (members.map fun member => (some member.1, member.2)) := rfl
  have hproper : (members.map fun member => (some member.1, member.2)).all (·.1.isSome) = true := by
    rw [List.all_map, List.all_eq_true]
    exact fun _ _ => rfl
  have hfilter : ∀ name, (members.map fun member => (some member.1, member.2)).filter
      (·.1 = some name) =
        (members.filter (·.1 = name)).map fun member => (some member.1, member.2) := by
    intro name
    rw [List.filter_map]
    simp only [Function.comp_def, Option.some.injEq]
  have honce : names.all (fun name =>
      ((members.map fun member => (some member.1, member.2)).filter
        (·.1 = some name)).length ≤ 1) = true := by
    rw [List.all_eq_true]
    intro name _
    rw [decide_eq_true_eq, hfilter, List.length_map]
    by_cases hname : name ∈ members.map Prod.fst
    · obtain ⟨member, hm, rfl⟩ := List.mem_map.mp hname
      rw [filter_of_mem hnames hm]
      exact Nat.le_refl 1
    · rw [filter_of_notMem hname]
      exact Nat.zero_le 1
  rw [hrecord]
  refine ⟨_, if_pos ⟨hproper, honce⟩, fun member hm => ?_, fun name hname => ?_⟩
  · rw [← List.head?_filter, hfilter, filter_of_mem hnames hm]
    rfl
  · rw [← List.head?_filter, hfilter, filter_of_notMem hname]
    rfl

theorem fields?_without (hnames : (members.map Prod.fst).Nodup) (omitted names : List String) :
    ∃ fields, ((record members).without omitted).fields? names = some fields ∧
      ∀ member ∈ members, fields member.1 = if member.1 ∈ omitted then none else some member.2 := by
  have hkept : ((members.filter (·.1 ∉ omitted)).map Prod.fst).Nodup :=
    hnames.sublist (List.filter_sublist.map _)
  obtain ⟨fields, hfields, hvalues, hothers⟩ := fields?_record hkept names
  rw [record_without]
  refine ⟨fields, hfields, fun member hm => ?_⟩
  split
  · next ho =>
    refine hothers _ fun hmem => ?_
    obtain ⟨other, hother, hname⟩ := List.mem_map.mp hmem
    exact of_decide_eq_true (List.mem_filter.mp hother).2 (hname ▸ ho)
  · next ho => exact hvalues member (List.mem_filter.mpr ⟨hm, decide_eq_true ho⟩)

theorem Fields.optional?_of_omitted {α : Type} {fields : Fields} {name : String}
    {omitted : List String} {value : Json} {read : Json → Option α} {content : α}
    (hfield : fields name = if name ∈ omitted then none else some value)
    (hread : read value = some content) (default : α) :
    fields.optional? name read default = some (if name ∈ omitted then default else content) := by
  unfold Fields.optional?
  by_cases ho : name ∈ omitted
  · rw [if_pos ho] at hfield
    rw [hfield, if_pos ho]
  · rw [if_neg ho] at hfield
    rw [hfield, if_neg ho]
    exact hread

theorem isSpelled_without (h : ∀ member ∈ members, member.2.IsSpelled) (omitted : List String) :
    ((record members).without omitted).IsSpelled := by
  rw [record_without]
  exact isSpelled_record fun member hm => h member (List.mem_filter.mp hm).1

end Omitted

/-! ## Single values -/

theorem text?_text (value : String) : (text (some value)).text? = some value := rfl

theorem bool?_bool (value : Bool) : (bool value).bool? = some value := rfl

theorem i64?_toInt (value : Int64) : (int value.toInt).i64? = some value := by
  have hwithin : (int value.toInt).intWithin? Int64.minValue.toInt Int64.maxValue.toInt =
      some value.toInt := if_pos ⟨value.minValue_le_toInt, value.toInt_le⟩
  unfold i64?
  rw [hwithin, Option.map_some, Int64.ofInt_toInt]

end Json

/-! ## Sections -/

namespace LogConfig

/-- The fields of the section. -/
def members (config : LogConfig) : List (String × Json) :=
  [("level", .text (some config.level)), ("console", .bool config.console),
    ("directory", config.directory.elim .null fun directory => .text (some directory)),
    ("file_prefix", .text (some config.fileStem)),
    ("retention_days", .int config.retentionDays.toInt)]

theorem toJson_eq_record (config : LogConfig) : config.toJson = .record config.members := rfl

/-- The section with default values in some fields. -/
def withDefaults (config : LogConfig) (omitted : List String) : LogConfig where
  level := if "level" ∈ omitted then standard.level else config.level
  console := if "console" ∈ omitted then standard.console else config.console
  directory := if "directory" ∈ omitted then standard.directory else config.directory
  fileStem := if "file_prefix" ∈ omitted then standard.fileStem else config.fileStem
  retentionDays :=
    if "retention_days" ∈ omitted then standard.retentionDays else config.retentionDays

theorem nullable?_directory (directory : Option String) :
    Json.nullable? Json.text? (directory.elim .null fun directory => .text (some directory)) =
      some directory := by
  cases directory <;> rfl

theorem ofJson?_without (config : LogConfig) (omitted : List String) :
    ofJson? (config.toJson.without omitted) = some (config.withDefaults omitted) := by
  have hnames : (config.members.map Prod.fst).Nodup := by
    show ["level", "console", "directory", "file_prefix", "retention_days"].Nodup
    decide
  obtain ⟨fields, hfields, hvalues⟩ := Json.fields?_without hnames omitted
    ["level", "console", "directory", "file_prefix", "retention_days"]
  unfold members at hvalues
  simp only [List.forall_mem_cons] at hvalues
  obtain ⟨hlevel, hconsole, hdirectory, hstem, hdays, -⟩ := hvalues
  unfold ofJson?
  rw [toJson_eq_record, hfields]
  simp only [Option.bind_eq_bind, Option.bind_some,
    Json.Fields.optional?_of_omitted hlevel (Json.text?_text config.level),
    Json.Fields.optional?_of_omitted hconsole (Json.bool?_bool config.console),
    Json.Fields.optional?_of_omitted hdirectory (nullable?_directory config.directory),
    Json.Fields.optional?_of_omitted hstem (Json.text?_text config.fileStem),
    Json.Fields.optional?_of_omitted hdays (Json.i64?_toInt config.retentionDays)]
  rfl

theorem isSpelled_members (config : LogConfig) :
    ∀ member ∈ config.members, member.2.IsSpelled := by
  have hdirectory : (config.directory.elim Json.null fun directory =>
      .text (some directory)).IsSpelled := by
    cases config.directory with
    | none => exact Json.isSpelled_null
    | some directory => exact Json.isSpelled_text _
  unfold members
  simp only [List.forall_mem_cons]
  exact ⟨Json.isSpelled_text _, Json.isSpelled_bool _, hdirectory, Json.isSpelled_text _,
    Json.isSpelled_int _, nofun⟩

end LogConfig

namespace PipelineConfig

def members (config : PipelineConfig) : List (String × Json) :=
  [("audio_output_buffer_size", .int config.audioBufferLength.toNat),
    ("log_truncation", .bool config.logsTruncation)]

theorem toJson_eq_record (config : PipelineConfig) : config.toJson = .record config.members := rfl

def withDefaults (config : PipelineConfig) (omitted : List String) : PipelineConfig where
  audioBufferLength :=
    if "audio_output_buffer_size" ∈ omitted then standard.audioBufferLength
    else config.audioBufferLength
  logsTruncation :=
    if "log_truncation" ∈ omitted then standard.logsTruncation else config.logsTruncation

theorem ofJson?_without (config : PipelineConfig) (omitted : List String) :
    ofJson? (config.toJson.without omitted) = some (config.withDefaults omitted) := by
  have hnames : (config.members.map Prod.fst).Nodup := by
    show ["audio_output_buffer_size", "log_truncation"].Nodup
    decide
  obtain ⟨fields, hfields, hvalues⟩ := Json.fields?_without hnames omitted
    ["audio_output_buffer_size", "log_truncation"]
  unfold members at hvalues
  simp only [List.forall_mem_cons] at hvalues
  obtain ⟨hlength, htruncation, -⟩ := hvalues
  unfold ofJson?
  rw [toJson_eq_record, hfields]
  simp only [Option.bind_eq_bind, Option.bind_some,
    Json.Fields.optional?_of_omitted hlength (Json.u32?_toNat config.audioBufferLength),
    Json.Fields.optional?_of_omitted htruncation (Json.bool?_bool config.logsTruncation)]
  rfl

theorem isSpelled_members (config : PipelineConfig) :
    ∀ member ∈ config.members, member.2.IsSpelled := by
  unfold members
  simp only [List.forall_mem_cons]
  exact ⟨Json.isSpelled_int _, Json.isSpelled_bool _, nofun⟩

end PipelineConfig

/-! ## Configurations -/

namespace Config

/-- The names that a text leaves out: of sections, and of fields in each of the two sections. -/
structure Omission where
  sections : List String
  logging : List String
  pipeline : List String

/-- The configuration as it is written, without what is left out. -/
def toJsonOmitting (config : Config) (omission : Omission) : Json :=
  ((config.toJson.adjust "logging" (·.without omission.logging)).adjust "transform"
    (·.without omission.pipeline)).without omission.sections

/-- The sections, each without the fields that are left out in it. -/
def members (config : Config) (omission : Omission) : List (String × Json) :=
  [("logging", config.logging.toJson.without omission.logging),
    ("transform", config.pipeline.toJson.without omission.pipeline)]

theorem toJsonOmitting_eq_without (config : Config) (omission : Omission) :
    config.toJsonOmitting omission =
      (Json.record (config.members omission)).without omission.sections := rfl

/-- The configuration with default values in what is left out; a section that is left out has default
values in all its fields. -/
def withDefaults (config : Config) (omission : Omission) : Config where
  logging :=
    if "logging" ∈ omission.sections then .standard
    else config.logging.withDefaults omission.logging
  pipeline :=
    if "transform" ∈ omission.sections then .standard
    else config.pipeline.withDefaults omission.pipeline

theorem toJsonOmitting_nothing (config : Config) :
    config.toJsonOmitting ⟨[], [], []⟩ = config.toJson := by
  rw [toJsonOmitting_eq_without, Json.without_nil]
  unfold members
  rw [LogConfig.toJson_eq_record, PipelineConfig.toJson_eq_record, Json.without_nil,
    Json.without_nil]
  rfl

theorem withDefaults_nothing (config : Config) : config.withDefaults ⟨[], [], []⟩ = config := rfl

/-- The configuration is read from the sections that are there. -/
theorem ofJson?_toJsonOmitting (config : Config) (omission : Omission) :
    ofJson? (config.toJsonOmitting omission) = some (config.withDefaults omission) := by
  have hnames : ((config.members omission).map Prod.fst).Nodup := by
    show ["logging", "transform"].Nodup
    decide
  obtain ⟨fields, hfields, hvalues⟩ := Json.fields?_without hnames omission.sections
    ["logging", "transform"]
  unfold members at hvalues
  simp only [List.forall_mem_cons] at hvalues
  obtain ⟨hlogging, hpipeline, -⟩ := hvalues
  unfold ofJson?
  rw [toJsonOmitting_eq_without, hfields]
  simp only [Option.bind_eq_bind, Option.bind_some,
    Json.Fields.optional?_of_omitted hlogging (config.logging.ofJson?_without omission.logging),
    Json.Fields.optional?_of_omitted hpipeline (config.pipeline.ofJson?_without omission.pipeline)]
  rfl

theorem isSpelled_toJsonOmitting (config : Config) (omission : Omission) :
    (config.toJsonOmitting omission).IsSpelled := by
  rw [toJsonOmitting_eq_without]
  refine Json.isSpelled_without ?_ omission.sections
  unfold members
  simp only [List.forall_mem_cons]
  exact ⟨Json.isSpelled_without config.logging.isSpelled_members omission.logging,
    Json.isSpelled_without config.pipeline.isSpelled_members omission.pipeline, nofun⟩

theorem ofText_of_toJsonOmitting {config : Config} {omission : Omission} {text : String}
    (h : Json.ofText? text = some (config.toJsonOmitting omission)) :
    ofText text = .ok (config.withDefaults omission) := by
  have hread : ofText? text = some (config.withDefaults omission) := by
    unfold ofText?
    rw [h]
    exact config.ofJson?_toJsonOmitting omission
  unfold ofText
  rw [hread]

/-- **Defaults.** A configuration is read back from its text. From a text that leaves out any fields
and sections it is read with their default values, and otherwise as it was, however that text is
laid out. -/
theorem ofText_omitting (config : Config) :
    ofText config.toText = .ok config ∧
      ∀ omission : Omission,
        ofText (config.toJsonOmitting omission).compact = .ok (config.withDefaults omission) ∧
          ∀ text, Json.ofText? text = some (config.toJsonOmitting omission) →
            ofText text = .ok (config.withDefaults omission) := by
  have hcompact : ∀ omission : Omission,
      ofText (config.toJsonOmitting omission).compact = .ok (config.withDefaults omission) :=
    fun omission => ofText_of_toJsonOmitting
      (Json.ofText?_compact (config.isSpelled_toJsonOmitting omission))
  refine ⟨?_, fun omission => ⟨hcompact omission, fun _ => ofText_of_toJsonOmitting⟩⟩
  have hall := hcompact ⟨[], [], []⟩
  rwa [toJsonOmitting_nothing, withDefaults_nothing] at hall

/-! ### A text of two fields, with blanks and escapes -/

/-- A configuration without any default value. -/
def unusual : Config := ⟨⟨"a=\"b\"\n", false, some "logs", "other", -7⟩, ⟨65536, false⟩⟩

/-- All fields but the level and the use of the console are left out. -/
def Omission.mostFields : Omission where
  sections := []
  logging := ["directory", "file_prefix", "retention_days"]
  pipeline := ["audio_output_buffer_size", "log_truncation"]

/-- The two fields as a host may write them. -/
def twoFields : String :=
  "\x7b \"logging\" : \x7b\"level\":\"a=\\u0022b\\\"\\n\",\n\"console\":false\x7d, \"transform\":\x7b\x7d \x7d"

theorem ofText_omitting_mostFields :
    Json.ofText? twoFields = some (unusual.toJsonOmitting .mostFields) ∧
      ofText twoFields = .ok ⟨⟨"a=\"b\"\n", false, none, "mft", 30⟩, ⟨192000, true⟩⟩ := by
  have htext : Json.ofText? twoFields = some (unusual.toJsonOmitting .mostFields) := by
    unfold Json.ofText?
    rfl
  exact ⟨htext, ((ofText_omitting unusual).2 .mostFields).2 twoFields htext⟩

end Config

end StreamDecode
