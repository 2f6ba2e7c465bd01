import StreamDecode.Engine.Registry

/-!
# Repacked headers

A container header is repacked exactly if it has the block of words and the two lengths in it are
those of packets that are there with a third one behind them (`lace_eq_ok_iff`). Both lengths and the
packets can be read back from the result. A header in the engine's layout is told from all others by
what it begins with: `isLaced_iff` is the layout as a shape of the bytes.

The first byte of a container header is the low byte of its channel count, which for stereo is also
the count of laced lengths. What keeps the two layouts apart is the zero byte at the end of a small
channel count, where a laced header has the packet type 1 (`not_isLaced_of_channels`). A header is
therefore repacked once and stays as it is from then on (`repacks`).
-/

namespace StreamDecode

namespace VorbisHeader

/-- The number of channels in the block of a container header. -/
def channelsOf (header : List UInt8) : Nat := wordAt header 0

/-- The length of the first packet in the block of a container header. -/
def firstLength (header : List UInt8) : Nat := wordAt header 12

def secondLength (header : List UInt8) : Nat := wordAt header 16

/-- The packets behind the block of a container header. -/
def packetsOf (header : List UInt8) : List UInt8 := header.drop containerBlock

/-- Whether a container header has its block, and in it the lengths of two packets that leave some
bytes for a third one. -/
structure Fits (header : List UInt8) : Prop where
  block : containerBlock ≤ header.length
  first : firstLength header ≠ 0
  second : secondLength header ≠ 0
  third : firstLength header + secondLength header < header.length - containerBlock

/-- The engine's layout of packets, the first two of the given lengths. -/
def laced (first second : Nat) (packets : List UInt8) : List UInt8 :=
  lacedCount :: (Lacing.encode first ++ (Lacing.encode second ++ packets))

variable {header packets : List UInt8} {first second : Nat}

/-! ## Repacking -/

theorem lace_of_fits (h : Fits header) :
    lace header = .ok (laced (firstLength header) (secondLength header) (packetsOf header)) := by
  obtain ⟨hblock, hfirst, hsecond, hthird⟩ := h
  have hsizes : ¬ (wordAt header 12 = 0 ∨ wordAt header 16 = 0 ∨
      (header.drop containerBlock).length ≤ wordAt header 12 + wordAt header 16) := by
    rw [List.length_drop]
    rintro (h | h | h)
    · exact hfirst h
    · exact hsecond h
    · exact absurd hthird (Nat.not_lt.mpr h)
  unfold lace
  rw [if_neg (Nat.not_lt.mpr hblock)]
  dsimp only
  rw [if_neg hsizes, List.append_assoc]
  rfl

theorem lace_of_not_fits (h : ¬ Fits header) :
    ∃ fault, lace header = .error (.invalidMediaType fault) := by
  unfold lace
  dsimp only
  by_cases hblock : header.length < containerBlock
  · rw [if_pos hblock]
    exact ⟨_, rfl⟩
  · rw [if_neg hblock]
    by_cases hsizes : wordAt header 12 = 0 ∨ wordAt header 16 = 0 ∨
        (header.drop containerBlock).length ≤ wordAt header 12 + wordAt header 16
    · rw [if_pos hsizes]
      exact ⟨_, rfl⟩
    · rw [List.length_drop] at hsizes
      obtain ⟨hfirst, hsecond, hthird⟩ : wordAt header 12 ≠ 0 ∧ wordAt header 16 ≠ 0 ∧
          ¬ header.length - containerBlock ≤ wordAt header 12 + wordAt header 16 := by
        simpa only [not_or] using hsizes
      exact absurd ⟨Nat.not_lt.mp hblock, hfirst, hsecond, Nat.not_le.mp hthird⟩ h

/-- A header is repacked exactly if it fits, and then both lengths stand before its packets. -/
theorem lace_eq_ok_iff {result : List UInt8} :
    lace header = .ok result ↔ Fits header ∧
      result = laced (firstLength header) (secondLength header) (packetsOf header) := by
  by_cases h : Fits header
  · rw [lace_of_fits h]
    simp [h, eq_comm]
  · obtain ⟨fault, hfault⟩ := lace_of_not_fits h
    simp [hfault, h]

/-! ## The engine's layout -/

/-- The layout that engines want, as a shape of the bytes: two laced lengths and packets, of which the
first one is the identification and the third one is not empty. -/
theorem isLaced_iff : isLaced header = true ↔ ∃ first second packets,
    header = laced first second packets ∧ first + second < packets.length ∧
      identification <+: packets := by
  constructor
  · intro h
    cases header with
    | nil => cases h
    | cons count bytes =>
      simp only [isLaced, Bool.and_eq_true, beq_iff_eq] at h
      obtain ⟨rfl, h⟩ := h
      cases hfirst : Lacing.decode? bytes with
      | none => simp [hfirst] at h
      | some one =>
        obtain ⟨first, rest⟩ := one
        cases hsecond : Lacing.decode? rest with
        | none => simp [hfirst, hsecond] at h
        | some two =>
          obtain ⟨second, packets⟩ := two
          simp only [hfirst, hsecond, Bool.and_eq_true, decide_eq_true_eq,
            List.isPrefixOf_iff_prefix] at h
          refine ⟨first, second, packets, ?_, h⟩
          rw [Lacing.eq_encode_of_decode? hfirst, Lacing.eq_encode_of_decode? hsecond]
          rfl
  · rintro ⟨first, second, packets, rfl, hlength, hbegin⟩
    simp [isLaced, laced, Lacing.decode?_encode, hlength, hbegin]

theorem decode?_laced : ∃ bytes rest, laced first second packets = lacedCount :: bytes ∧
    Lacing.decode? bytes = some (first, rest) ∧ Lacing.decode? rest = some (second, packets) :=
  ⟨_, _, rfl, Lacing.decode?_encode .., Lacing.decode?_encode ..⟩

theorem eq_zero_of_channels {count second third fourth : UInt8} {rest : List UInt8}
    (h : channelsOf (count :: second :: third :: fourth :: rest) < 256) :
    second = 0 ∧ third = 0 ∧ fourth = 0 := by
  have hword : count.toNat + 256 * (second.toNat + 256 * (third.toNat + 256 * fourth.toNat)) < 256 :=
    h
  refine ⟨?_, ?_, ?_⟩ <;> apply UInt8.toNat_inj.mp <;> rw [UInt8.toNat_zero] <;> omega

theorem length_of_isLaced (h : isLaced header = true) : 4 ≤ header.length := by
  obtain ⟨first, second, packets, rfl, -, hbegin⟩ := isLaced_iff.mp h
  have hpackets := hbegin.length_le
  simp only [identification, List.length_cons, List.length_nil] at hpackets
  simp only [laced, List.length_cons, List.length_append, Lacing.length_encode]
  omega

/-- A container header is not taken for a laced one, whatever the low byte of its channel count: the
zero bytes behind it are two laced lengths of zero, and the next zero byte is not a packet type. -/
theorem not_isLaced_of_channels (h : channelsOf header < 256) : isLaced header = false := by
  rw [Bool.eq_false_iff]
  intro hlaced
  have hlength := length_of_isLaced hlaced
  rcases header with _ | ⟨count, _ | ⟨second, _ | ⟨third, _ | ⟨fourth, rest⟩⟩⟩⟩
  case cons.cons.cons.cons =>
    obtain ⟨rfl, rfl, rfl⟩ := eq_zero_of_channels h
    simp [isLaced, Lacing.decode?, identification] at hlaced
  all_goals simp at hlength

/-! ## Repacking twice -/

theorem isLaced_of_lace {result : List UInt8} (h : lace header = .ok result)
    (hbegin : identification <+: packetsOf header) : isLaced result = true := by
  obtain ⟨hfits, rfl⟩ := lace_eq_ok_iff.mp h
  refine isLaced_iff.mpr ⟨_, _, _, rfl, ?_, hbegin⟩
  unfold packetsOf
  rw [List.length_drop]
  exact hfits.third

theorem repack_eq_ok_iff {header result : Bytes} :
    repacker.repack header = .ok result ↔ lace header.toList = .ok result.toList := by
  show (lace header.toList).map List.toArray = _ ↔ _
  cases hlace : lace header.toList with
  | error fault => simp [Except.map]
  | ok bytes => simp [Except.map, Array.toList_inj.symm]

end VorbisHeader

/-- If a header is repacked to the layout that is kept, preparing it again changes nothing. -/
theorem HeaderRepacker.prepare_bind_prepare {repacker : HeaderRepacker} {header result : Bytes}
    (hrepack : repacker.repack header = .ok result) (hkept : repacker.isRepacked result = true) :
    (repacker.prepare header).bind repacker.prepare = repacker.prepare header := by
  by_cases h : repacker.isRepacked header = true
  · rw [prepare_of_isRepacked h]
    exact prepare_of_isRepacked h
  · have hprepared : repacker.prepare header = .ok result := by
      unfold prepare
      rw [if_neg h, hrepack]
    rw [hprepared]
    exact prepare_of_isRepacked hkept

theorem EngineRegistry.prepareHeader_of_repacker? {σ : Type} {registry : EngineRegistry σ}
    {codec : Codec} {repacker : HeaderRepacker} (h : registry.repacker? codec = some repacker) :
    registry.prepareHeader codec = repacker.prepare := by
  funext header
  unfold prepareHeader
  rw [h]

namespace VorbisHeader

/-- What repacking makes of a byte string. -/
structure Repacks (header : Bytes) : Prop where
  /-- Just the headers that fit are repacked. -/
  accepted : (∃ result, repacker.repack header = .ok result) ↔ Fits header.toList
  /-- The others are no media type. -/
  refused : ¬ Fits header.toList →
    ∃ fault, repacker.repack header = .error (.invalidMediaType fault)
  /-- The result is the count, both laced lengths and the packets. -/
  written : ∀ result, repacker.repack header = .ok result → result.toList =
    lacedCount :: (Lacing.encode (firstLength header.toList) ++
      (Lacing.encode (secondLength header.toList) ++ packetsOf header.toList))
  /-- Reading two lengths from the result gives both lengths and the packets. -/
  readBack : ∀ result, repacker.repack header = .ok result → ∃ bytes rest,
    result.toList = lacedCount :: bytes ∧
    Lacing.decode? bytes = some (firstLength header.toList, rest) ∧
    Lacing.decode? rest = some (secondLength header.toList, packetsOf header.toList)
  /-- If the packets begin with the identification, the result is in the engine's layout, and every
  registry with this repacker keeps it: preparing a header twice is preparing it once. -/
  kept : ∀ result, repacker.repack header = .ok result →
    identification <+: packetsOf header.toList →
      repacker.isRepacked result = true ∧
      ∀ {σ : Type} (registry : EngineRegistry σ) (codec : Codec),
        registry.repacker? codec = some repacker →
          registry.prepareHeader codec result = .ok result ∧
          (registry.prepareHeader codec header).bind (registry.prepareHeader codec) =
            registry.prepareHeader codec header
  /-- A header with fewer than 256 channels is not taken for one in the engine's layout. -/
  unmistaken : channelsOf header.toList < 256 → repacker.isRepacked header = false

/-- Repacking takes just the headers that fit, can be undone, and is done once. -/
theorem repacks (header : Bytes) : Repacks header where
  accepted := by
    constructor
    · rintro ⟨result, h⟩
      exact (lace_eq_ok_iff.mp (repack_eq_ok_iff.mp h)).1
    · intro h
      exact ⟨_, congrArg (Except.map List.toArray) (lace_of_fits h)⟩
  refused h := by
    obtain ⟨fault, hfault⟩ := lace_of_not_fits h
    exact ⟨fault, congrArg (Except.map List.toArray) hfault⟩
  written result h := (lace_eq_ok_iff.mp (repack_eq_ok_iff.mp h)).2
  readBack result h := by
    rw [(lace_eq_ok_iff.mp (repack_eq_ok_iff.mp h)).2]
    exact decode?_laced
  kept result h hbegin := by
    have hlaced : repacker.isRepacked result = true := isLaced_of_lace (repack_eq_ok_iff.mp h) hbegin
    refine ⟨hlaced, ?_⟩
    intro σ registry codec hrepacker
    rw [EngineRegistry.prepareHeader_of_repacker? hrepacker]
    exact ⟨HeaderRepacker.prepare_of_isRepacked hlaced,
      HeaderRepacker.prepare_bind_prepare h hlaced⟩
  unmistaken := not_isLaced_of_channels

/-- A length that is a multiple of 255 ends with a zero byte. -/
example : laced 255 510 [1, 118] = [2, 255, 0, 255, 255, 0, 1, 118] := by decide

end VorbisHeader

end StreamDecode
