import StreamDecode.Engine.Basic
import StreamDecode.Header.Repacker

/-!
# The engine registry

A registry creates engines by codec and knows the header repackers of codecs. Of several entries for
one codec the one registered last is used.
-/

namespace StreamDecode

/-- A way to create an engine for a codec. Every time it is used, it brings the same new engine or
the same error. -/
structure EngineEntry (σ : Type) where
  codec : Codec
  name : String
  create : Except MediaError σ

/-- The engines and header repackers that a host offers, those registered last in front. -/
structure EngineRegistry (σ : Type) where
  engines : List (EngineEntry σ)
  repackers : List (Codec × HeaderRepacker)

namespace EngineRegistry

variable {σ : Type}

def empty : EngineRegistry σ := ⟨[], []⟩

def addEngine (registry : EngineRegistry σ) (entry : EngineEntry σ) : EngineRegistry σ :=
  { registry with engines := entry :: registry.engines }

/-- The registry with a repacker for a codec. -/
def addRepacker (registry : EngineRegistry σ) (codec : Codec) (repacker : HeaderRepacker) :
    EngineRegistry σ :=
  { registry with repackers := (codec, repacker) :: registry.repackers }

/-- The entry that is used for a codec. -/
def entry? (registry : EngineRegistry σ) (codec : Codec) : Option (EngineEntry σ) :=
  registry.engines.find? (·.codec = codec)

def hasEngine (registry : EngineRegistry σ) (codec : Codec) : Bool :=
  (registry.entry? codec).isSome

def create (registry : EngineRegistry σ) (codec : Codec) : Except MediaError σ :=
  match registry.entry? codec with
  | none => .error (.engineNotFound (.noEngine codec))
  | some entry => entry.create

/-- The repacker that is used for a codec. -/
def repacker? (registry : EngineRegistry σ) (codec : Codec) : Option HeaderRepacker :=
  (registry.repackers.find? (·.1 = codec)).map Prod.snd

/-- The header of a codec as its engines want it; without a repacker it is kept as it is. -/
def prepareHeader (registry : EngineRegistry σ) (codec : Codec) (header : Bytes) :
    Except MediaError Bytes :=
  match registry.repacker? codec with
  | none => .ok header
  | some repacker => repacker.prepare header

/-- All entries in the order of the codec names; those of one codec stay in order. -/
def listing (registry : EngineRegistry σ) : List (EngineEntry σ) :=
  registry.engines.mergeSort fun a b => a.codec.name ≤ b.codec.name

/-- The codec settings for decoding `input` to `output`. -/
def settingsFor (registry : EngineRegistry σ) (input output : MediaType) :
    Except MediaError CodecSettings :=
  CodecSettings.ofTypes registry.prepareHeader input output

/-- A new engine, opened with the settings. -/
def openEngine [Engine σ] (registry : EngineRegistry σ) (settings : CodecSettings) :
    Except MediaError σ := do
  let engine ← registry.create settings.codec
  match Engine.configure engine settings with
  | (.ok (), engine) => .ok engine
  | (.error error, _) => .error error

theorem openEngine_eq_ok [Engine σ] {registry : EngineRegistry σ} {settings : CodecSettings}
    {engine : σ} (h : registry.openEngine settings = .ok engine) :
    ∃ entry ∈ registry.engines, ∃ created, entry.create = .ok created ∧
      Engine.configure created settings = (.ok (), engine) := by
  unfold openEngine create at h
  cases he : registry.entry? settings.codec with
  | none => rw [he] at h; cases h
  | some entry =>
    cases hc : entry.create with
    | error error => simp [he, hc, bind, Except.bind] at h
    | ok created =>
      refine ⟨entry, List.mem_of_find?_eq_some he, created, hc, ?_⟩
      simp only [he, hc, bind, Except.bind] at h
      split at h
      · next ho =>
        cases h
        exact ho
      · cases h

end EngineRegistry

end StreamDecode
