import StreamDecode.Proofs.Pipeline.Commits
import StreamDecode.Proofs.Pipeline.Lengths

/-!
# Output types that are offered

The output type that is offered is derived from the input type, or it is a suggestion that stands
since a format change was announced (`outputCandidate_eq_ok`). A derived type has the kind of the
input type. A suggestion has the kind of the session that made it, which is always a video session,
and it stands until an output type is committed, whatever becomes of the input type meanwhile. So an
offered type can be committed unless it is a suggestion and the input is audio by then
(`commit_of_outputCandidate`).
-/

namespace StreamDecode

namespace Negotiation

variable {negotiation : Negotiation} {type : MediaType}

theorem setOutput_of_valid (hv : negotiation.validateOutput type = .ok ()) :
    negotiation.setOutput (some type) false =
      .ok (true, { negotiation with output := some type, suggested := none }) := by
  rw [setOutput_some, hv]
  rfl

theorem setOutput_of_invalid {error : MediaError}
    (hv : negotiation.validateOutput type = .error error) :
    negotiation.setOutput (some type) false = .error error := by
  rw [setOutput_some, hv]
  rfl

end Negotiation

namespace Pipeline

variable {σ : Type} {pipeline : Pipeline σ} {type : MediaType}

/-- An offered output type is the suggestion, or it is derived from the input type. -/
theorem outputCandidate_eq_ok {index : Nat} (h : pipeline.outputCandidate 0 index = .ok type) :
    pipeline.isShutDown = false ∧ ∃ input, pipeline.negotiation.input = some input ∧
      (pipeline.negotiation.suggested = some type ∨
        pipeline.negotiation.suggested = none ∧ type = Negotiation.derivedOutput input) := by
  unfold outputCandidate at h
  cases henter : pipeline.enter 0 with
  | error error =>
    rw [henter] at h
    cases h
  | ok =>
    rw [henter] at h
    refine ⟨(enter_eq_ok_iff.mp henter).2, ?_⟩
    have h : pipeline.negotiation.outputCandidate index = .ok type := h
    unfold Negotiation.outputCandidate at h
    split at h
    · cases h
    · next hinput hsuggested =>
      cases h
      exact ⟨_, hinput, Or.inl hsuggested⟩
    · next input hinput hsuggested =>
      split at h
      · cases h
        exact ⟨input, hinput, Or.inr ⟨hsuggested, rfl⟩⟩
      · cases h

theorem setOutputType_of_valid (hrun : pipeline.isShutDown = false)
    (hv : pipeline.negotiation.validateOutput type = .ok ()) :
    pipeline.setOutputType 0 (some type) false =
      .ok (pipeline.withNegotiation true
        { pipeline.negotiation with output := some type, suggested := none }) := by
  unfold setOutputType
  rw [enter_eq_ok_iff.mpr ⟨rfl, hrun⟩, Negotiation.setOutput_of_valid hv]
  rfl

theorem setOutputType_of_invalid (hrun : pipeline.isShutDown = false) {error : MediaError}
    (hv : pipeline.negotiation.validateOutput type = .error error) :
    pipeline.setOutputType 0 (some type) false = .error error := by
  unfold setOutputType
  rw [enter_eq_ok_iff.mpr ⟨rfl, hrun⟩, Negotiation.setOutput_of_invalid hv]
  rfl

variable [Engine σ]

/-- **Offered output types.** In every run, an output type that is offered, at whatever index, has the
kind of the committed input type and can be committed, unless a suggestion stands and the committed
input type is audio. In that case the suggestion is what is offered; it is a video type, and it is
refused without effect. -/
theorem commit_of_outputCandidate (registry : EngineRegistry σ) (config : PipelineConfig)
    (calls : List Call) {index : Nat} {type : MediaType}
    (h : ((new registry config).run calls).2.outputCandidate 0 index = .ok type) :
    let pipeline := ((new registry config).run calls).2
    let suggestion := HostEvent.standing? ((new registry config).events calls)
    let commit : Call := .setOutputType 0 (some type) false
    ∃ input, pipeline.negotiation.input = some input ∧
      (suggestion = none ∨ input.kind = .video →
        type.kind = input.kind ∧ (pipeline.step commit).1 = .ok .done ∧
          (pipeline.step commit).2.negotiation.output = some type) ∧
      (suggestion ≠ none ∧ input.kind = .audio →
        suggestion = some type ∧ type.kind = .video ∧
          pipeline.step commit =
            (⟨.error (.invalidMediaType (.outputKind .video .audio)), []⟩, pipeline)) := by
  intro pipeline suggestion commit
  have hstems : pipeline.StemsFrom ((new registry config).events calls) :=
    (stemsFrom_new registry config).run calls
  obtain ⟨hrun, input, hinput, hoffered⟩ := outputCandidate_eq_ok h
  have hstanding : pipeline.negotiation.suggested = suggestion := hstems.suggested hrun
  have hannounced : ∀ other, suggestion = some other →
      Negotiation.IsOutput other ∧ other.kind = .video := hstems.announced
  rw [show ((new registry config).run calls).2.negotiation.suggested = suggestion from hstanding]
    at hoffered
  refine ⟨input, hinput, ?_, ?_⟩
  · intro hfits
    obtain ⟨houtput, hkind⟩ : Negotiation.IsOutput type ∧ type.kind = input.kind := by
      rcases hoffered with hs | ⟨-, rfl⟩
      · have hvideo := hfits.resolve_left (by rw [hs]; exact nofun)
        rw [hvideo]
        exact hannounced type hs
      · exact ⟨Negotiation.isOutput_derivedOutput input, Negotiation.kind_derivedOutput input⟩
    have hvalid : pipeline.negotiation.validateOutput type = .ok () :=
      Negotiation.validateOutput_eq_ok_iff.mpr ⟨houtput, input, hinput, hkind⟩
    have hstep : pipeline.step commit = (.ok .done, pipeline.withNegotiation true
        { pipeline.negotiation with output := some type, suggested := none }) :=
      congrArg pipeline.replaceBy (setOutputType_of_valid hrun hvalid)
    rw [hstep]
    exact ⟨hkind, rfl, congrArg Negotiation.output (negotiation_withNegotiation ..)⟩
  · rintro ⟨hs, haudio⟩
    have hsuggestion : suggestion = some type := hoffered.resolve_right fun hn => hs hn.1
    have hvideo := (hannounced type hsuggestion).2
    have hkind : type.kind ≠ input.kind := by
      rw [hvideo, haudio]
      exact nofun
    have hinvalid := Negotiation.validateOutput_of_kind_ne hinput hkind
    rw [hvideo, haudio] at hinvalid
    exact ⟨hsuggestion, hvideo,
      congrArg pipeline.replaceBy (setOutputType_of_invalid hrun hinvalid)⟩

/-! ### A suggested picture size -/

/-- What is suggested when pictures of four by four come instead of two by two. -/
def largerOutput : MediaType := (MediaType.video .nv12 ⟨2, 2⟩).withFrameSize ⟨4, 4⟩

/-- After the announcement the larger type is offered at every index, and it can be committed. -/
theorem commit_of_outputCandidate_larger :
    let calls := openAndPush ++ [.pull [.empty]]
    let pipeline := ((grayPipeline [Session.grayOutput ⟨4, 4⟩]).run calls).2
    pipeline.outputCandidate 0 5 = .ok largerOutput ∧
      (pipeline.step (.setOutputType 0 (some largerOutput) false)).1 = .ok .done := by
  intro calls pipeline
  have hoffered : pipeline.outputCandidate 0 5 = .ok largerOutput := by decide +kernel
  obtain ⟨input, hinput, hfits, -⟩ := commit_of_outputCandidate _ .standard calls hoffered
  have hkind : pipeline.negotiation.input.map MediaType.kind = some .video := by decide +kernel
  rw [show pipeline.negotiation.input = some input from hinput, Option.map_some,
    Option.some.injEq] at hkind
  exact ⟨hoffered, (hfits (Or.inr hkind)).2.1⟩

/-- The host has turned to an audio input meanwhile: the larger picture type is still offered, but it
is refused. -/
theorem outputCandidate_refused :
    let pipeline := ((grayPipeline [Session.grayOutput ⟨4, 4⟩]).run
      (openAndPush ++ [.pull [.empty],
        .setInputType 0 (some (.audio .pcm 2 48000)) false])).2
    pipeline.isShutDown = false ∧ pipeline.outputCandidate 0 0 = .ok largerOutput ∧
      (pipeline.step (.setOutputType 0 (some largerOutput) false)).1.result =
        .error (.invalidMediaType (.outputKind .video .audio)) := by
  intro pipeline
  refine ⟨?_, ?_, ?_⟩ <;> decide +kernel

end Pipeline

end StreamDecode
