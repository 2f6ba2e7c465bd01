import StreamDecode.Audio.Conversion

/-!
# The length of converted audio

A block has one sample for each instant and channel (`outputLength`, `planeLength`). A conversion
counts their bytes in words, which wrap around: `Fits` says that they do not.

A conversion that succeeds fills its buffer, whether the samples are written one by one or copied
(`size_of_convert`).
-/

namespace StreamDecode

namespace AudioConversion

section Lengths

variable (conversion : AudioConversion) (samples : UInt32)

/-- The number of bytes of the target samples of a block. -/
def outputLength : Nat := samples.toNat * conversion.targetChannels * conversion.target.width

/-- The number of bytes that the source samples of a block have in each plane. -/
def planeLength : Nat :=
  if conversion.source.isPlanar then samples.toNat * conversion.source.width
  else samples.toNat * conversion.sourceChannels * conversion.source.width

/-- The lengths of a block are words of 64 bits. -/
structure Fits : Prop where
  output : conversion.outputLength samples < UInt64.size
  plane : conversion.planeLength samples < UInt64.size

theorem outputBytes_eq :
    conversion.outputBytes samples = conversion.outputLength samples % UInt64.size := by
  simp [outputBytes, outputLength, targetChannels, UInt64.size]

theorem planeBytes_eq :
    conversion.planeBytes samples = conversion.planeLength samples % UInt64.size := by
  unfold planeBytes planeLength
  split <;> simp [sourceChannels, UInt64.size]

variable {conversion samples}

theorem Fits.outputBytes (h : conversion.Fits samples) :
    conversion.outputBytes samples = conversion.outputLength samples :=
  (conversion.outputBytes_eq samples).trans (Nat.mod_eq_of_lt h.output)

theorem Fits.planeBytes (h : conversion.Fits samples) :
    conversion.planeBytes samples = conversion.planeLength samples :=
  (conversion.planeBytes_eq samples).trans (Nat.mod_eq_of_lt h.plane)

end Lengths

variable {conversion : AudioConversion} {planes : List Bytes} {samples : UInt32}

theorem length_outputSamples {chunks : List (List UInt8)}
    (h : conversion.outputSamples? planes samples = some chunks) :
    chunks.flatten.length = conversion.outputLength samples := by
  simp only [outputSamples?, Option.bind_eq_bind, Option.bind_eq_some_iff] at h
  obtain ⟨encoding, hencoding, hchunks⟩ := h
  rw [mapM_eq_some_iff] at hchunks
  have hwidth : conversion.target.width = encoding.width := by
    unfold SampleFormat.width
    rw [hencoding]
    rfl
  have hcount : chunks.length = samples.toNat * conversion.targetChannels := by
    simpa using (congrArg List.length hchunks).symm
  have hchunk : ∀ chunk ∈ chunks, chunk.length = encoding.width := by
    intro chunk hm
    have hm : some chunk ∈ chunks.map some := List.mem_map_of_mem hm
    rw [← hchunks, List.mem_map] at hm
    obtain ⟨position, -, hp⟩ := hm
    obtain ⟨value, -, rfl⟩ := Option.map_eq_some_iff.mp hp
    exact SampleEncoding.length_encode encoding value
  have hlengths : chunks.map List.length = List.replicate chunks.length encoding.width :=
    List.map_eq_replicate_iff.mpr hchunk
  rw [List.length_flatten, hlengths, List.sum_replicate_nat, hcount, outputLength, hwidth]

theorem planeBytes_of_passthrough (hp : conversion.isPassthrough = true)
    (hplanar : conversion.source.isPlanar = false) :
    conversion.planeBytes samples = conversion.outputBytes samples := by
  simp only [isPassthrough, Bool.and_eq_true, decide_eq_true_eq] at hp
  unfold planeBytes outputBytes
  rw [hplanar, ← hp.1, hp.2]
  rfl

theorem planeBytes_le_of_covers (hc : conversion.covers planes samples = true)
    (hplanar : conversion.source.isPlanar = false) {plane : Bytes} (h0 : planes[0]? = some plane) :
    conversion.planeBytes samples ≤ plane.size := by
  obtain ⟨rest, rfl⟩ : ∃ rest, planes = plane :: rest := by
    cases planes with
    | nil => cases h0
    | cons first rest => exact ⟨rest, by rw [Option.some.inj h0]⟩
  simp only [covers, sourcePlanes, hplanar, Bool.false_eq_true, if_false, Bool.and_eq_true,
    List.take_succ_cons, List.take_zero, List.all_cons, List.all_nil, Bool.and_true,
    decide_eq_true_eq] at hc
  exact hc.2

/-- A conversion to interleaved samples that succeeds brings the number of bytes that was asked
for. -/
theorem size_of_convert {length : Nat} {bytes : Bytes} (ht : conversion.target.isPlanar = false)
    (h : conversion.convert planes samples length = .ok bytes) :
    bytes.size = length ∧ length = conversion.outputBytes samples := by
  unfold convert at h
  split at h
  · cases h
  next hlength =>
  have hlength : length = conversion.outputBytes samples := Decidable.not_not.mp hlength
  split at h
  · cases h
  next hc =>
  have hc : conversion.covers planes samples = true := by simpa using hc
  refine ⟨?_, hlength⟩
  rw [hlength]
  cases ho : conversion.output? planes samples with
  | none => rw [ho] at h; cases h
  | some made =>
    rw [ho] at h
    cases h
    unfold output? at ho
    split at ho
    · next hp =>
      have hplanar : conversion.source.isPlanar = false := by
        simp only [isPassthrough, Bool.and_eq_true, decide_eq_true_eq] at hp
        rw [hp.1, ht]
      obtain ⟨plane, h0, rfl⟩ := Option.map_eq_some_iff.mp ho
      have hle := planeBytes_le_of_covers hc hplanar h0
      rw [Array.size_extract, Nat.min_eq_left hle, Nat.sub_zero]
      exact planeBytes_of_passthrough hp hplanar
    · exact of_decide_eq_true (Option.filter_eq_some_iff.mp ho).2

end AudioConversion

end StreamDecode
