import StreamDecode.Session.Decode

/-!
# Times of samples

What the time and the duration of a sample should be is said here in whole numbers. A count in units
of a time base is another count in units of 100 nanoseconds, truncated toward zero
(`Ratio.Converts`); there is none in a time base without a denominator, and none that goes beyond 64
bits. `Frame.IsTime` and `Frame.IsDuration` name what counts, in which order, and what stands in for
a count that does not convert: they have one case for each of the fallbacks.
-/

namespace StreamDecode

theorem int64?_eq_some_iff {n : Int} {word : Int64} : int64? n = some word ↔ word.toInt = n := by
  unfold int64?
  constructor
  · intro h
    split at h
    · next hfits =>
      cases h
      have hle := hfits.2
      rw [Int64.toInt_maxValue] at hle
      exact Int64.toInt_ofInt_of_le hfits.1 (by omega)
    · cases h
  · rintro rfl
    rw [if_pos ⟨word.minValue_le_toInt, word.toInt_le⟩, Int64.ofInt_toInt]

namespace Ratio

/-- A time in units of 100 nanoseconds is a count in units of a time base, truncated toward zero. -/
def Converts (base : Ratio) (count : Int) (time : Int64) : Prop :=
  base.den ≠ 0 ∧ time.toInt = (count * base.num.toInt * 10000000).tdiv base.den.toInt

variable {base : Ratio} {count time : Int64}

theorem rescale?_eq_some_iff :
    base.rescale? count .hundredNanos = some time ↔ base.Converts count.toInt time := by
  have hunits : Ratio.hundredNanos.den.toInt = 10000000 ∧ Ratio.hundredNanos.num.toInt = 1 :=
    ⟨rfl, rfl⟩
  unfold rescale? Converts
  by_cases hbase : base.den = 0
  · simp [hbase]
  · rw [if_neg (by simp [hbase, hundredNanos]), int64?_eq_some_iff, hunits.1, hunits.2, Int.mul_one]
    simp [hbase]

theorem rescale?_eq_none_iff :
    base.rescale? count .hundredNanos = none ↔ ∀ time, ¬ base.Converts count.toInt time := by
  rw [Option.eq_none_iff_forall_ne_some]
  simp only [ne_eq, rescale?_eq_some_iff]

end Ratio

namespace Frame

/-- The time of the sample of a frame: that of the frame, in the time base of the frame if it has one,
or else that of the packet. -/
structure IsTime (frame : Frame) (packet : Packet) (time : Int64) : Prop where
  unknown : frame.time = noTimestamp → time = packet.time
  plain : frame.time ≠ noTimestamp → frame.timeBase.den = 0 → time = frame.time
  converted : frame.time ≠ noTimestamp → ∀ converted,
    frame.timeBase.Converts frame.time.toInt converted → time = converted
  beyond : frame.time ≠ noTimestamp → frame.timeBase.den ≠ 0 →
    (∀ converted, ¬ frame.timeBase.Converts frame.time.toInt converted) → time = packet.time

/-- The duration of the sample of a frame: that of the packet if it is positive, or else that of the
frame if it is positive, in the time base of the frame if it has one, or else that of the samples in
the time base of the engine. -/
structure IsDuration (frame : Frame) (packet : Packet) (base : Ratio) (duration : Int64) :
    Prop where
  ofPacket : 0 < packet.duration → duration = packet.duration
  plain : ¬ 0 < packet.duration → 0 < frame.duration → frame.timeBase.den = 0 →
    duration = frame.duration
  converted : ¬ 0 < packet.duration → 0 < frame.duration → ∀ converted,
    frame.timeBase.Converts frame.duration.toInt converted → duration = converted
  beyond : ¬ 0 < packet.duration → 0 < frame.duration → frame.timeBase.den ≠ 0 →
    (∀ converted, ¬ frame.timeBase.Converts frame.duration.toInt converted) → duration = 0
  ofSamples : ¬ 0 < packet.duration → ¬ 0 < frame.duration → ∀ samples, frame.samples? = some samples →
    ∀ converted, base.Converts samples.toNat converted → duration = converted
  unknown : ¬ 0 < packet.duration → ¬ 0 < frame.duration →
    (∀ samples, frame.samples? = some samples → ∀ converted, ¬ base.Converts samples.toNat converted) →
    duration = 0

end Frame

theorem isTimestamp_iff {time : Int64} : isTimestamp time = true ↔ time ≠ noTimestamp :=
  decide_eq_true_iff

section HundredNanos

variable {base : Ratio} {fallback count converted : Int64}

theorem toHundredNanos_of_plain (h : base.den = 0) : toHundredNanos base fallback count = count := by
  simp [toHundredNanos, Ratio.isDefined, h]

theorem toHundredNanos_of_converts (h : base.Converts count.toInt converted) :
    toHundredNanos base fallback count = converted := by
  simp [toHundredNanos, Ratio.isDefined, h.1, Ratio.rescale?_eq_some_iff.mpr h]

theorem toHundredNanos_of_beyond (hbase : base.den ≠ 0)
    (h : ∀ converted, ¬ base.Converts count.toInt converted) :
    toHundredNanos base fallback count = fallback := by
  simp [toHundredNanos, Ratio.isDefined, hbase, Ratio.rescale?_eq_none_iff.mpr h]

end HundredNanos

theorem toInt_samples (samples : UInt32) : (Int64.ofNat samples.toNat).toInt = samples.toNat := by
  have hlt := samples.toNat_lt
  exact Int64.toInt_ofNat_of_lt (by omega)

theorem samplesDuration_of_converts {samples : UInt32} {base : Ratio} {converted : Int64}
    (h : base.Converts samples.toNat converted) : samplesDuration samples base = converted := by
  rw [← toInt_samples] at h
  rw [samplesDuration, Ratio.rescale?_eq_some_iff.mpr h, Option.getD_some]

theorem samplesDuration_of_beyond {samples : UInt32} {base : Ratio}
    (h : ∀ converted, ¬ base.Converts samples.toNat converted) : samplesDuration samples base = 0 := by
  rw [← toInt_samples] at h
  rw [samplesDuration, Ratio.rescale?_eq_none_iff.mpr h, Option.getD_none]

namespace Frame

theorem isTime_sampleTime (frame : Frame) (packet : Packet) :
    frame.IsTime packet (frame.sampleTime packet) := by
  unfold sampleTime
  by_cases htime : frame.time = noTimestamp
  · rw [if_neg (by simp [isTimestamp, htime])]
    constructor <;> simp [htime]
  · rw [if_pos (isTimestamp_iff.mpr htime)]
    exact ⟨fun h => absurd h htime, fun _ hbase => toHundredNanos_of_plain hbase,
      fun _ _ h => toHundredNanos_of_converts h, fun _ hbase h => toHundredNanos_of_beyond hbase h⟩

theorem isDuration_sampleDuration (frame : Frame) (packet : Packet) (base : Ratio) :
    frame.IsDuration packet base (frame.sampleDuration packet base) := by
  unfold sampleDuration
  by_cases hpacket : 0 < packet.duration
  · rw [if_pos hpacket]
    constructor <;> simp [hpacket]
  rw [if_neg hpacket]
  by_cases hframe : 0 < frame.duration
  · rw [if_pos hframe]
    exact ⟨fun h => absurd h hpacket, fun _ _ hbase => toHundredNanos_of_plain hbase,
      fun _ _ _ h => toHundredNanos_of_converts h,
      fun _ _ hbase h => toHundredNanos_of_beyond hbase h,
      fun _ h => absurd hframe h, fun _ h => absurd hframe h⟩
  rw [if_neg hframe]
  refine ⟨fun h => absurd h hpacket, fun _ h => absurd h hframe, fun _ h => absurd h hframe,
    fun _ h => absurd h hframe, ?_, ?_⟩
  · intro _ _ samples hsamples converted h
    rw [hsamples]
    exact samplesDuration_of_converts h
  · intro _ _ h
    cases hsamples : frame.samples? with
    | none => rfl
    | some samples => exact samplesDuration_of_beyond (h samples hsamples)

end Frame

end StreamDecode
