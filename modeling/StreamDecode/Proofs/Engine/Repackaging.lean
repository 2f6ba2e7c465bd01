import Mathlib.Tactic.SplitIfs
import StreamDecode.Engine.Builtin

/-!
# Engines that only repackage

The engines for uncompressed streams keep nothing between packets. An idle engine refuses a packet
and stays as it is, or the packet becomes one frame, and once that is received the engine is idle
again: `Engine.Repackages` says so, with what each packet becomes as a function of the packet alone.
-/

namespace StreamDecode

/-- An engine that has no frame, and that refuses each packet with data or turns it into one frame.
Whether a packet is refused, and what it becomes, does not depend on earlier packets. -/
structure Engine.Repackages {σ : Type} [Engine σ] (engine : σ)
    (frameOf : Packet → Except MediaError Frame) : Prop where
  idle : Engine.receiveFrame engine = (.error .needMoreData, engine)
  refused : ∀ {packet error}, packet.isEmpty = false → frameOf packet = .error error →
    error ≠ .tryAgain ∧ Engine.sendPacket engine packet = (.error error, engine)
  taken : ∀ {packet frame}, packet.isEmpty = false → frameOf packet = .ok frame →
    ∃ loaded, Engine.sendPacket engine packet = (.ok (), loaded) ∧
      Engine.receiveFrame loaded = (.ok frame, engine)

/-! ## Uncompressed audio -/

namespace PcmEngine

/-- The engine is open, within the stream, and has no frame. -/
structure Idle (engine : PcmEngine) : Prop where
  opened : engine.opened = true
  output : engine.output = none
  ended : engine.ended = false

/-- What an idle engine makes of a packet. -/
def frameOf (engine : PcmEngine) (packet : Packet) : Except MediaError Frame :=
  (blockCount packet.data.size engine.blockAlign).map fun samples =>
    .audio (engine.frame packet samples)

theorem blockCount_ne_tryAgain {length : Nat} {block : UInt32} {error : MediaError}
    (h : blockCount length block = .error error) : error ≠ .tryAgain := by
  unfold blockCount at h
  split_ifs at h <;> cases h <;> nofun

theorem toNat_of_blockCount {length : Nat} {block samples : UInt32}
    (h : blockCount length block = .ok samples) :
    block.toNat ∣ length ∧ samples.toNat = length / block.toNat := by
  unfold blockCount at h
  split_ifs at h with hwhole hlarge
  cases h
  exact ⟨Nat.dvd_of_mod_eq_zero (Decidable.not_not.mp hwhole),
    UInt32.toNat_ofNat_of_lt' (Nat.lt_of_not_le hlarge)⟩

theorem mul_of_blockCount {length : Nat} {block samples : UInt32}
    (h : blockCount length block = .ok samples) : samples.toNat * block.toNat = length := by
  obtain ⟨hwhole, hsamples⟩ := toNat_of_blockCount h
  rw [hsamples, Nat.div_mul_cancel hwhole]

theorem toNat_blockAlign (format : SampleFormat) {channels : UInt32}
    (hfits : format.width * channels.toNat < UInt32.size) :
    (UInt32.ofNat format.width * channels).toNat = format.width * channels.toNat := by
  have hwidth : format.width < UInt32.size := by cases format <;> decide
  rw [UInt32.toNat_mul, UInt32.toNat_ofNat_of_lt' hwidth]
  exact Nat.mod_eq_of_lt hfits

variable {engine : PcmEngine} {packet : Packet}

theorem Idle.sendPacket (h : engine.Idle) (hp : packet.isEmpty = false) :
    engine.sendPacket packet =
      match blockCount packet.data.size engine.blockAlign with
      | .error error => (.error error, engine)
      | .ok samples => (.ok (), { engine with output := some (engine.frame packet samples) }) := by
  unfold PcmEngine.sendPacket
  rw [h.opened, h.output, hp]
  rfl

theorem Idle.repackages (h : engine.Idle) : Engine.Repackages engine engine.frameOf where
  idle := by
    show engine.receiveFrame = _
    simp [receiveFrame, h.output, h.ended]
  refused := by
    intro packet error hp hf
    show _ ∧ engine.sendPacket packet = _
    rw [h.sendPacket hp]
    unfold frameOf at hf
    cases hc : blockCount packet.data.size engine.blockAlign with
    | error other =>
      rw [hc] at hf
      cases hf
      exact ⟨blockCount_ne_tryAgain hc, rfl⟩
    | ok samples =>
      rw [hc] at hf
      cases hf
  taken := by
    intro packet frame hp hf
    show ∃ loaded, engine.sendPacket packet = _ ∧ _
    rw [h.sendPacket hp]
    unfold frameOf at hf
    cases hc : blockCount packet.data.size engine.blockAlign with
    | error error =>
      rw [hc] at hf
      cases hf
    | ok samples =>
      rw [hc] at hf
      cases hf
      refine ⟨_, rfl, ?_⟩
      -- what is left is the engine without its frame, and it had none
      show (_, { engine with output := none }) = (_, engine)
      rw [← h.output]

end PcmEngine

/-! ## Uncompressed video -/

namespace RawVideoEngine

structure Idle (engine : RawVideoEngine) : Prop where
  opened : engine.opened = true
  output : engine.output = none
  ended : engine.ended = false

def frameOf (engine : RawVideoEngine) (packet : Packet) : Except MediaError Frame :=
  if packet.data.size ≠ engine.imageBytes then
    .error (.invalidData (.imageLength packet.data.size engine.imageBytes))
  else .ok (.video (engine.frame packet))

variable {engine : RawVideoEngine} {packet : Packet}

theorem Idle.sendPacket (h : engine.Idle) (hp : packet.isEmpty = false) :
    engine.sendPacket packet =
      if packet.data.size ≠ engine.imageBytes then
        (.error (.invalidData (.imageLength packet.data.size engine.imageBytes)), engine)
      else (.ok (), { engine with output := some (engine.frame packet) }) := by
  unfold RawVideoEngine.sendPacket
  rw [h.opened, h.output, hp]
  rfl

theorem Idle.repackages (h : engine.Idle) : Engine.Repackages engine engine.frameOf where
  idle := by
    show engine.receiveFrame = _
    simp [receiveFrame, h.output, h.ended]
  refused := by
    intro packet error hp hf
    show _ ∧ engine.sendPacket packet = _
    rw [h.sendPacket hp]
    unfold frameOf at hf
    split_ifs at hf with hlength
    cases hf
    rw [if_pos hlength]
    exact ⟨nofun, rfl⟩
  taken := by
    intro packet frame hp hf
    show ∃ loaded, engine.sendPacket packet = _ ∧ _
    rw [h.sendPacket hp]
    unfold frameOf at hf
    split_ifs at hf with hlength
    cases hf
    rw [if_neg hlength]
    refine ⟨_, rfl, ?_⟩
    show (_, { engine with output := none }) = (_, engine)
    rw [← h.output]

end RawVideoEngine

/-! ## Built-in engines -/

namespace AnyEngine

variable {ε : Type} [Engine ε] {frameOf : Packet → Except MediaError Frame}

theorem repackages_pcm {engine : PcmEngine} (h : Engine.Repackages engine frameOf) :
    Engine.Repackages (AnyEngine.pcm engine : AnyEngine ε) frameOf where
  idle := congrArg (Prod.map id pcm) h.idle
  refused hp hf := ⟨(h.refused hp hf).1, congrArg (Prod.map id pcm) (h.refused hp hf).2⟩
  taken hp hf := by
    obtain ⟨loaded, hsent, hreceived⟩ := h.taken hp hf
    exact ⟨.pcm loaded, congrArg (Prod.map id pcm) hsent, congrArg (Prod.map id pcm) hreceived⟩

theorem repackages_rawVideo {engine : RawVideoEngine} (h : Engine.Repackages engine frameOf) :
    Engine.Repackages (AnyEngine.rawVideo engine : AnyEngine ε) frameOf where
  idle := congrArg (Prod.map id rawVideo) h.idle
  refused hp hf := ⟨(h.refused hp hf).1, congrArg (Prod.map id rawVideo) (h.refused hp hf).2⟩
  taken hp hf := by
    obtain ⟨loaded, hsent, hreceived⟩ := h.taken hp hf
    exact ⟨.rawVideo loaded, congrArg (Prod.map id rawVideo) hsent,
      congrArg (Prod.map id rawVideo) hreceived⟩

end AnyEngine

/-! ## Opening an engine -/

/-- For a codec whose headers are passed on as they are, the settings are the parameters that the
types give, with some header. -/
theorem EngineRegistry.settingsFor_of_header {σ : Type} {registry : EngineRegistry σ}
    {input : MediaType} {codec : Codec} (hcodec : input.coding.codec? = some codec)
    (hkind : codec.kind = input.kind)
    (hprepare : ∀ header, registry.prepareHeader codec header = .ok header) (output : MediaType) :
    ∃ header, registry.settingsFor input output =
      (match input.kind with
      | .audio => do
        let (bitRate, params) ← CodecSettings.audioParams codec input output
        .ok ⟨codec, header, bitRate, .audio params⟩
      | .video => do
        let (bitRate, params) ← CodecSettings.videoParams codec input
        .ok ⟨codec, header, bitRate, .video params⟩) := by
  unfold settingsFor CodecSettings.ofTypes
  rw [hcodec]
  dsimp only
  rw [if_neg (not_not_intro hkind)]
  cases input.blob? .userData with
  | none => exact ⟨#[], rfl⟩
  | some header =>
    dsimp only
    rw [hprepare header]
    exact ⟨header, rfl⟩

theorem EngineRegistry.openEngine_of_configure {σ : Type} [Engine σ] {registry : EngineRegistry σ}
    {settings : CodecSettings} {created engine : σ}
    (hcreated : registry.create settings.codec = .ok created)
    (hconfigured : Engine.configure created settings = (.ok (), engine)) :
    registry.openEngine settings = .ok engine := by
  unfold openEngine
  rw [hcreated]
  dsimp only [bind, Except.bind]
  rw [hconfigured]

end StreamDecode
