import StreamDecode.Proofs.Pipeline.Admission
import StreamDecode.Proofs.Pipeline.Commits
import StreamDecode.Proofs.Pipeline.Refusals
import StreamDecode.Proofs.Session.TypeFaults

/-!
# Stored types and sessions

The types that a pipeline stores are checked again when a session is made of them, and the second
check asks for more. The host may have committed an input type of the other kind after the output
type, and an attribute that only had to be there may be zero. `Negotiation.pairFault?` is the fault
that a session finds in a pair of stored types, and there is no other (`pair_after_run`): without it
the codec settings can be derived, and a push fails for a media type only if the engine says so.
-/

namespace StreamDecode

namespace Negotiation

/-! ## The faults of a pair -/

/-- What a session misses in an input type that has passed its check: an attribute that is there, but
zero. -/
def zeroFault? (input : MediaType) : Option MediaTypeFault :=
  match input.kind with
  | .audio =>
    if input.u32? .channelCount = some 0 then some .channelCountMissing
    else if input.u32? .sampleRate = some 0 then some .sampleRateMissing
    else none
  | .video => if input.frameSize?.any FrameSize.isEmpty then some .frameSizeMissing else none

/-- The fault that a session finds in a pair of stored types. -/
def pairFault? (input output : MediaType) : Option MediaTypeFault :=
  if input.kind ≠ output.kind then some (.sessionKinds input.kind output.kind)
  else zeroFault? input

/-- Whether a result is the failure for a fault, or a success if there is no fault. -/
def FailsFor {α : Type} (fault : Option MediaTypeFault) (result : Except MediaError α) : Prop :=
  match fault with
  | some fault => result = .error (.invalidMediaType fault)
  | none => ∃ value, result = .ok value

theorem FailsFor.map {α β : Type} {fault : Option MediaTypeFault} {result : Except MediaError α}
    (h : FailsFor fault result) (f : α → β) : FailsFor fault (result.map f) := by
  cases fault with
  | some fault => exact congrArg (Except.map f) h
  | none =>
    obtain ⟨value, hv⟩ := h
    exact ⟨f value, congrArg (Except.map f) hv⟩

variable {input output : MediaType}

theorem validateInput_eq_ok_iff :
    validateInput input = .ok () ↔
      input.coding.kind = input.kind ∧ input.coding ∈ inputCodings ∧ missing? input = none := by
  unfold validateInput
  by_cases hkind : input.coding.kind = input.kind
  · by_cases hcoding : input.coding ∈ inputCodings
    · rw [if_neg (by simp [hkind, hcoding])]
      cases missing? input <;> simp [hkind, hcoding]
    · simp [hcoding]
  · simp [hkind]

theorem codec_of_mem_inputCodings {coding : Coding} (h : coding ∈ inputCodings) :
    ∃ codec, coding.codec? = some codec := by
  cases coding <;> first | exact ⟨_, rfl⟩ | exact absurd h (by decide)

end Negotiation

/-! ## Codec settings -/

namespace CodecSettings

open Negotiation

variable {input : MediaType}

theorem positive?_of_zero {key : AttributeKey} (h : input.u32? key = some 0) :
    positive? input key = none := by
  unfold positive?
  rw [h]
  rfl

theorem positive?_of_ne_zero {key : AttributeKey} (hpresent : input.u32? key ≠ none)
    (hzero : input.u32? key ≠ some 0) : ∃ value, positive? input key = some value := by
  obtain ⟨value, hvalue⟩ := Option.ne_none_iff_exists'.mp hpresent
  have hpos : 0 < value := by
    rw [UInt32.pos_iff_ne_zero]
    rintro rfl
    exact hzero hvalue
  refine ⟨value, ?_⟩
  unfold positive?
  rw [hvalue]
  exact Option.filter_some_pos (decide_eq_true hpos)

/-- The parameters of an audio input that lacks nothing fail for a zero alone. -/
theorem audioParams_of_valid (hkind : input.kind = .audio) (hmissing : missing? input = none)
    (codec : Codec) (output : MediaType) :
    FailsFor (zeroFault? input) (audioParams codec input output) := by
  unfold missing? at hmissing
  rw [hkind] at hmissing
  dsimp only at hmissing
  split_ifs at hmissing with hchannels hrate
  unfold zeroFault?
  rw [hkind]
  dsimp only
  unfold audioParams
  by_cases hzero : input.u32? .channelCount = some 0
  · rw [if_pos hzero, positive?_of_zero hzero]
    rfl
  obtain ⟨channels, hc⟩ := positive?_of_ne_zero hchannels hzero
  rw [if_neg hzero, hc]
  by_cases hzero : input.u32? .sampleRate = some 0
  · rw [if_pos hzero, positive?_of_zero hzero]
    rfl
  obtain ⟨rate, hr⟩ := positive?_of_ne_zero hrate hzero
  rw [if_neg hzero, hr]
  exact ⟨_, rfl⟩

theorem videoParams_of_valid (hkind : input.kind = .video) (hmissing : missing? input = none)
    (codec : Codec) :
    FailsFor (zeroFault? input) (videoParams codec input) := by
  unfold missing? at hmissing
  rw [hkind] at hmissing
  dsimp only at hmissing
  split_ifs at hmissing with hsize
  obtain ⟨size, hsize⟩ := Option.ne_none_iff_exists'.mp hsize
  unfold zeroFault? videoParams
  rw [hkind, hsize]
  dsimp only [Option.any_some]
  by_cases hempty : size.isEmpty = true
  · rw [if_pos hempty, Option.filter_some_neg (by simp [hempty])]
    rfl
  · rw [if_neg hempty, Option.filter_some_pos (by simp [hempty])]
    exact ⟨_, rfl⟩

end CodecSettings

namespace EngineRegistry

open Negotiation

variable {σ : Type}

/-- The settings for an input type that has passed its check, and that has no header for a repacker,
fail for a zero alone. -/
theorem settingsFor_of_valid (registry : EngineRegistry σ) {input : MediaType}
    (hv : validateInput input = .ok ()) (hheader : input.blob? .userData = none)
    (output : MediaType) :
    FailsFor (zeroFault? input) (registry.settingsFor input output) := by
  obtain ⟨hkind, hcoding, hmissing⟩ := validateInput_eq_ok_iff.mp hv
  obtain ⟨codec, hcodec⟩ := codec_of_mem_inputCodings hcoding
  unfold settingsFor CodecSettings.ofTypes
  rw [hcodec, hheader]
  dsimp only [bind, Except.bind]
  rw [if_neg (not_not_intro ((Coding.kind_of_codec? hcodec).trans hkind))]
  cases hk : input.kind with
  | audio =>
    exact (CodecSettings.audioParams_of_valid hk hmissing codec output).map fun params =>
      CodecSettings.mk codec #[] params.1 (.audio params.2)
  | video =>
    exact (CodecSettings.videoParams_of_valid hk hmissing codec).map fun params =>
      CodecSettings.mk codec #[] params.1 (.video params.2)

end EngineRegistry

/-! ## Sessions for a pair -/

namespace Session

open Negotiation

variable {σ : Type} [Engine σ] {registry : EngineRegistry σ} {input output : MediaType}

/-- No session is made for a pair with a fault. -/
theorem create_of_pairFault (hv : validateInput input = .ok ())
    (hheader : input.blob? .userData = none) {fault : MediaTypeFault}
    (hfault : pairFault? input output = some fault) :
    create registry input output = .error (.invalidMediaType fault) := by
  unfold pairFault? at hfault
  unfold create
  split_ifs at hfault with hkind
  · rw [if_pos hkind, Option.some.inj hfault]
  · rw [if_neg hkind]
    have hsettings := registry.settingsFor_of_valid hv hheader output
    rw [hfault] at hsettings
    rw [show registry.settingsFor input output = _ from hsettings]
    rfl

/-- If the engine for a pair without a fault opens, a session for the pair has that engine, or it
fails, but for no media type. -/
theorem create_of_opened (hkind : input.kind = output.kind) (houtput : IsOutput output)
    {settings : CodecSettings} (hsettings : registry.settingsFor input output = .ok settings)
    {engine : σ} (hengine : registry.openEngine settings = .ok engine) :
    BlamesNoType (create registry input output) ∧
      ∀ session, create registry input output = .ok session → session.engine = engine := by
  have hprepare := Renderer.blamesNoType_prepare (Engine.params engine) houtput
  unfold create
  rw [if_neg (not_not_intro hkind), hsettings]
  dsimp only [bind, Except.bind]
  rw [hengine]
  dsimp only
  cases hp : (Renderer.forOutput output).prepare (Engine.params engine) output with
  | mk result renderer =>
    rw [hp] at hprepare
    dsimp only at hprepare ⊢
    cases result with
    | error error =>
      refine ⟨hprepare.relay rfl, ?_⟩
      intro session hs
      cases hs
    | ok =>
      refine ⟨.ok _, ?_⟩
      intro session hs
      rw [← Except.ok.inj hs, engine_noteFrameSize]

end Session

namespace Pipeline

open Negotiation

variable {σ : Type} [Engine σ] {pipeline : Pipeline σ} {sample : Sample}

omit [Engine σ] in
theorem Consistent.admits (h : pipeline.Consistent) (hs : pipeline.session = none)
    {input : MediaType} (hinput : pipeline.negotiation.input = some input)
    (hdata : sample.data.isEmpty = false) : pipeline.Admits 0 sample 0 := by
  have hrun : pipeline.isShutDown = false := by
    by_contra hdown
    rw [Bool.not_eq_false] at hdown
    rw [h.negotiation_of_shutDown hdown] at hinput
    cases hinput
  have hfree : ¬ (pipeline.draining = true ∨ pipeline.formatChanging = true) := by
    intro hb
    have hsome := h.session_of_busy hb
    rw [hs] at hsome
    cases hsome
  rw [not_or, Bool.not_eq_true, Bool.not_eq_true] at hfree
  exact ⟨rfl, rfl, hrun, hdata, hfree⟩

/-- If a sample fails for a media type in a session, then its engine says so. -/
theorem blames_of_decodeSample {session : Session σ} {fault : MediaTypeFault}
    (h : (pipeline.decodeSample session sample).1 = .error (.invalidMediaType fault)) :
    Engine.Blames session.engine
      ⟨sample.data, sample.time, sample.duration, .hundredNanos⟩ fault := by
  unfold decodeSample at h
  rcases pipeline.packet.fill_cases sample.data sample.time sample.duration with
    ⟨reused, hf⟩ | hf
  · rw [hf] at h
    refine Session.blames_of_decode ?_
    cases hd : session.decode ⟨sample.data, sample.time, sample.duration, .hundredNanos⟩ with
    | mk result after =>
      dsimp only at h
      rw [hd] at h
      cases result with
      | ok status => cases h
      | error error => exact congrArg Except.error (Except.error.inj h)
  · rw [hf] at h
    cases h

theorem admits_of_push_error {stream flags : UInt32} {fault : MediaTypeFault}
    (h : (pipeline.push stream sample flags).1 = .error (.invalidMediaType fault)) :
    pipeline.Admits stream sample flags := by
  unfold push at h
  split_ifs at h with hstream hflags hdown hempty hbusy
  · cases h
  · cases h
  · cases h
  · rw [Bool.or_eq_true, not_or] at hbusy
    exact ⟨not_not.mp hstream, not_not.mp hflags, Bool.eq_false_iff.mpr hdown,
      Bool.eq_false_iff.mpr hempty, Bool.eq_false_iff.mpr hbusy.1, Bool.eq_false_iff.mpr hbusy.2⟩

/-- **Stored types and sessions.** In every run, let there be no session, but an input type without a
codec header and an output type. They are of the same kind, unless the input type was committed after
the output type. The codec settings for the two can be derived, unless an attribute of the input type
is zero. A sample is refused without effect for just these faults; if the pair has none and the engine
opens, a sample fails for a media type only if the engine says so. -/
theorem pair_after_run (registry : EngineRegistry σ) (config : PipelineConfig) (calls : List Call)
    {input output : MediaType} (hs : ((new registry config).run calls).2.session = none)
    (hinput : ((new registry config).run calls).2.negotiation.input = some input)
    (houtput : ((new registry config).run calls).2.negotiation.output = some output)
    (hheader : input.blob? .userData = none) :
    let pipeline := ((new registry config).run calls).2
    let past := (new registry config).events calls
    (input.kind ≠ output.kind → ∃ before after, past = before ++ .outputCommitted output :: after ∧
        (∀ other, .outputCommitted other ∉ after) ∧ .inputCommitted input ∈ after) ∧
      FailsFor (zeroFault? input) (registry.settingsFor input output) ∧
      (∀ fault, pairFault? input output = some fault →
        ∀ sample : Sample, sample.data.isEmpty = false →
          pipeline.push 0 sample 0 = (.error (.invalidMediaType fault), pipeline)) ∧
      (pairFault? input output = none → ∀ settings engine,
        registry.settingsFor input output = .ok settings →
        registry.openEngine settings = .ok engine → ∀ stream sample flags fault,
          (pipeline.push stream sample flags).1 = .error (.invalidMediaType fault) →
            Engine.Blames engine ⟨sample.data, sample.time, sample.duration, .hundredNanos⟩
              fault) := by
  intro pipeline past
  have hstems : pipeline.StemsFrom past := (stemsFrom_new registry config).run calls
  have hconsistent : pipeline.Consistent := (Consistent.new registry config).run calls
  have hvalid := hstems.input input hinput
  have hensure : pipeline.ensureSession = Session.create registry input output := by
    rw [ensureSession_of_none hs hinput houtput, registry_run]
    rfl
  refine ⟨?_, registry.settingsFor_of_valid hvalid hheader output, ?_, ?_⟩
  · intro hkinds
    obtain ⟨before, after, hpast, hlast, hafter⟩ := hstems.output output houtput
    exact ⟨before, after, hpast, hlast, (hafter input hinput).resolve_left hkinds⟩
  · intro fault hfault sample hdata
    rw [push_of_admits (hconsistent.admits hs hinput hdata), hensure,
      Session.create_of_pairFault hvalid hheader hfault]
  · intro hnone settings engine hsettings hengine stream sample flags fault hfailed
    unfold pairFault? at hnone
    split_ifs at hnone with hkinds
    obtain ⟨hblames, hengines⟩ := Session.create_of_opened (not_not.mp hkinds)
      (hstems.isOutput output houtput) hsettings hengine
    rw [push_of_admits (admits_of_push_error hfailed), hensure] at hfailed
    cases hcreate : Session.create registry input output with
    | error error =>
      rw [hcreate] at hfailed hblames
      exact absurd hfailed (hblames.relay rfl fault)
    | ok session =>
      rw [hcreate] at hfailed
      rw [← hengines session hcreate]
      exact blames_of_decodeSample hfailed

/-! ### Pairs of a picture decoder -/

/-- The calls that commit an input type and an output type. -/
def commitBoth (input output : MediaType) : List Call :=
  [.setInputType 0 (some input) false, .setOutputType 0 (some output) false]

/-- For a picture size that is not zero there are settings; a picture without width is refused. -/
theorem pair_after_run_pictures :
    let registry := Session.grayRegistry ⟨2, 2⟩ []
    let output : MediaType := .video .nv12 ⟨2, 2⟩
    let unfit := ((grayPipeline []).run (commitBoth (.video .h264 ⟨0, 2⟩) output)).2
    (∃ settings, registry.settingsFor (.video .h264 ⟨2, 2⟩) output = .ok settings) ∧
      unfit.push 0 ⟨#[0], 0, 1⟩ 0 = (.error (.invalidMediaType .frameSizeMissing), unfit) := by
  intro registry output unfit
  obtain ⟨-, hsettings, -⟩ := pair_after_run registry .standard
    (commitBoth (.video .h264 ⟨2, 2⟩) output) rfl rfl rfl rfl
  obtain ⟨-, -, hpush, -⟩ := pair_after_run registry .standard
    (commitBoth (.video .h264 ⟨0, 2⟩) output) rfl rfl rfl rfl
  exact ⟨hsettings, hpush .frameSizeMissing (by decide) ⟨#[0], 0, 1⟩ rfl⟩

/-- An engine for pictures that refuses every packet for its media type. -/
def refusingRegistry : EngineRegistry ScriptedEngine :=
  ⟨[⟨.h264, "scripted", .ok
    { Session.grayEngine ⟨2, 2⟩ [] with
      script := fun _ => .refuse (.invalidMediaType (.stated "refused")) }⟩], []⟩

/-- Stored types of which no session can be made, because a picture type was committed after an audio
output type, or because a picture has no width; and a push that the engine refuses for the type. -/
theorem stored_types_refused :
    let sample : Sample := ⟨#[0], 0, 1⟩
    let picture : MediaType := .video .h264 ⟨2, 2⟩
    let output : MediaType := .video .nv12 ⟨2, 2⟩
    let turned := ((grayPipeline []).run
      (commitBoth (.audio .pcm 2 48000) (.audio .float 2 48000) ++
        [.setInputType 0 (some picture) false])).2
    let unfit := ((grayPipeline []).run (commitBoth (.video .h264 ⟨0, 2⟩) output)).2
    let refusing := ((new refusingRegistry .standard).run (commitBoth picture output)).2
    (turned.session.isNone = true ∧ turned.negotiation.input = some picture ∧
        turned.negotiation.output = some (.audio .float 2 48000) ∧
        (turned.push 0 sample 0).1 = .error (.invalidMediaType (.sessionKinds .video .audio))) ∧
      (unfit.session.isNone = true ∧ unfit.negotiation.isComplete = true ∧
        unfit.registry.settingsFor (.video .h264 ⟨0, 2⟩) output =
          .error (.invalidMediaType .frameSizeMissing)) ∧
      refusing.session.isNone = true ∧ refusing.negotiation.isComplete = true ∧
        (refusing.registry.settingsFor picture output).isOk = true ∧
        ((refusing.registry.settingsFor picture output).bind
          refusing.registry.openEngine).isOk = true ∧
        (refusing.push 0 sample 0).1 = .error (.invalidMediaType (.stated "refused")) := by
  intro sample picture output turned unfit refusing
  refine ⟨⟨?_, ?_, ?_, ?_⟩, ⟨?_, ?_, ?_⟩, ?_, ?_, ?_, ?_, ?_⟩ <;> decide +kernel

end Pipeline

end StreamDecode
