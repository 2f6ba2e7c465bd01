import Mathlib.Data.Rat.Lemmas
import StreamDecode.Proofs.Ratio.Rescaling

/-!
# Ratios in lowest terms

Reduction is computed in words: Euclid's algorithm on the magnitudes (`Ratio.toNat_euclid`), its result
as a signed word, and exact divisions with the sign moved to the numerator. Nothing wraps around, if
the words that have to be negated can be (`Ratio.IsReducible`). So a reduced ratio has the numerator
and the denominator of the number that it stands for (`Ratio.toInt_reduce`).

It follows that the reduced ratio is a function of the number (`Ratio.reduce_eq_iff`) and that reducing
it again changes nothing. As rescaling depends on the numbers alone (`Ratio.rescale?_eq_of_value_eq`),
it is the same with reduced units.
-/

namespace StreamDecode.Ratio

/-- The ratio is defined, and if its denominator is negative, both words can be negated. -/
def IsReducible (r : Ratio) : Prop :=
  r.den ≠ 0 ∧ (r.den < 0 → r.num ≠ Int32.minValue ∧ r.den ≠ Int32.minValue)

instance (r : Ratio) : Decidable r.IsReducible := by
  unfold IsReducible
  infer_instance

variable {r other target lowest : Ratio} {word : Int32}

/-! ## Words -/

theorem toInt_neg_iff : word < 0 ↔ word.toInt < 0 := Int32.lt_iff_toInt_lt

theorem toNat_magnitude (word : Int32) : (magnitude word).toNat = word.toInt.natAbs := by
  have hlt : word.toInt.natAbs < 2 ^ 32 := (natAbs_toInt32_le word).trans_lt (by decide)
  exact UInt32.toNat_ofNat_of_lt' hlt

theorem toNat_euclid (a b : UInt32) : (euclid a b).toNat = Nat.gcd a.toNat b.toNat := by
  induction a, b using euclid.induct with
  | case1 a =>
    unfold euclid
    rw [if_pos rfl, UInt32.toNat_zero, Nat.gcd_zero_right]
  | case2 a b hb ih =>
    unfold euclid
    rw [if_neg hb, ih, UInt32.toNat_mod, Nat.gcd_comm, ← Nat.gcd_rec, Nat.gcd_comm]

theorem toInt_toInt32 {unsigned : UInt32} (h : unsigned.toNat < 2 ^ 31) :
    unsigned.toInt32.toInt = unsigned.toNat := by
  have hbits : 2 * unsigned.toInt32.toBitVec.toNat < 2 ^ 32 := by
    show 2 * unsigned.toNat < 2 ^ 32
    omega
  exact BitVec.toInt_eq_toNat_of_lt hbits

theorem toInt_div_of_dvd {divisor : Int32} (hpos : 0 < divisor.toInt)
    (hdvd : divisor.toInt ∣ word.toInt) :
    (word / divisor).toInt = word.toInt / divisor.toInt := by
  have hne : divisor ≠ -1 := by
    rintro rfl
    exact absurd hpos (by decide)
  rw [Int32.toInt_div_of_ne_right _ _ hne, Int.tdiv_eq_ediv_of_dvd hdvd]

theorem toInt_ne_smallest (h : word ≠ Int32.minValue) : word.toInt ≠ -2 ^ 31 :=
  fun he => h (Int32.toInt_inj.mp he)

theorem toInt_neg_of_ne (h : word ≠ Int32.minValue) : (-word).toInt = -word.toInt := by
  have hne := toInt_ne_smallest h
  have hlo := word.le_toInt
  have hhi := word.toInt_lt
  rw [Int32.toInt_neg]
  exact Int.bmod_eq_of_le (by omega) (by omega)

theorem toInt_sign_mul {sign : Int32} (hsign : sign ≠ 0)
    (hword : sign < 0 → word ≠ Int32.minValue) :
    ((if sign < 0 then -1 else 1) * word).toInt = sign.toInt.sign * word.toInt := by
  split
  · next hneg =>
    rw [Int.sign_eq_neg_one_of_neg (toInt_neg_iff.mp hneg), ← Int32.neg_eq_neg_one_mul,
      toInt_neg_of_ne (hword hneg), Int.neg_one_mul]
  · next hneg =>
    have hzero := toInt_ne_zero hsign
    rw [toInt_neg_iff] at hneg
    rw [Int.sign_eq_one_of_pos (by omega), Int32.one_mul, Int.one_mul]

/-! ## Lowest terms -/

theorem toInt_divisor (h : r.IsReducible) :
    (euclid (magnitude r.num) (magnitude r.den)).toInt32.toInt = r.den.toInt.gcd r.num.toInt := by
  obtain ⟨hden, hwords⟩ := h
  have hgcd : (euclid (magnitude r.num) (magnitude r.den)).toNat = r.den.toInt.gcd r.num.toInt := by
    rw [toNat_euclid, toNat_magnitude, toNat_magnitude, Nat.gcd_comm]
    rfl
  have hle : r.den.toInt.gcd r.num.toInt ≤ r.den.toInt.natAbs :=
    Nat.gcd_le_left _ (Int.natAbs_pos.mpr (toInt_ne_zero hden))
  have hlt : r.den.toInt.natAbs < 2 ^ 31 := by
    have hlo := r.den.le_toInt
    have hhi := r.den.toInt_lt
    have hsmallest : r.den.toInt ≠ -2 ^ 31 := by
      intro he
      exact toInt_ne_smallest (hwords (toInt_neg_iff.mpr (by omega))).2 he
    omega
  rw [toInt_toInt32 (by omega), hgcd]

/-- **Lowest terms.** A reduced ratio has the numerator and the denominator of its number. -/
theorem toInt_reduce (h : r.IsReducible) :
    r.reduce.num.toInt = r.value.num ∧ r.reduce.den.toInt = r.value.den := by
  have hdivisor := toInt_divisor h
  obtain ⟨hden, hwords⟩ := h
  have hzero : r.den.toInt ≠ 0 := toInt_ne_zero hden
  have hpos : 0 < (euclid (magnitude r.num) (magnitude r.den)).toInt32.toInt := by
    rw [hdivisor]
    exact Int.natCast_pos.mpr (Int.gcd_pos_of_ne_zero_left _ hzero)
  have hnum := toInt_sign_mul hden fun hneg => (hwords hneg).1
  have hdenom := toInt_sign_mul hden fun hneg => (hwords hneg).2
  have hvalue : r.value = Rat.divInt r.num.toInt r.den.toInt :=
    Rat.intCast_div_eq_divInt _ _
  unfold reduce
  rw [if_neg hden]
  dsimp only
  rw [hvalue, Rat.num_divInt, Rat.den_divInt, if_neg hzero]
  constructor
  · rw [toInt_div_of_dvd hpos, hnum, hdivisor]
    rw [hnum, hdivisor]
    exact (Int.gcd_dvd_right _ _).mul_left _
  · rw [toInt_div_of_dvd hpos, hdenom, hdivisor, Int.sign_mul_self, Int.natCast_ediv]
    rw [hdenom, hdivisor]
    exact (Int.gcd_dvd_left _ _).mul_left _

theorem reduce_den_pos (h : r.IsReducible) : 0 < r.reduce.den := by
  rw [Int32.lt_iff_toInt_lt, (toInt_reduce h).2]
  exact Int.natCast_pos.mpr r.value.den_pos

theorem isReducible_of_den_pos (h : 0 < r.den) : r.IsReducible := by
  rw [Int32.lt_iff_toInt_lt, Int32.toInt_zero] at h
  constructor
  · intro hzero
    rw [hzero] at h
    exact absurd h (by decide)
  · intro hneg
    rw [toInt_neg_iff] at hneg
    omega

theorem den_reduce_ne_zero (h : r.IsReducible) : r.reduce.den ≠ 0 :=
  (isReducible_of_den_pos (reduce_den_pos h)).1

theorem coprime_reduce (h : r.IsReducible) :
    r.reduce.num.toInt.natAbs.Coprime r.reduce.den.toInt.natAbs := by
  rw [(toInt_reduce h).1, (toInt_reduce h).2]
  exact r.value.reduced

theorem value_reduce (h : r.IsReducible) : r.reduce.value = r.value := by
  unfold value
  rw [(toInt_reduce h).1, (toInt_reduce h).2]
  exact r.value.num_div_den

/-! ## One form for each number -/

/-- Ratios stand for one number exactly if their cross products are equal. -/
theorem value_eq_value_iff (hr : r.den ≠ 0) (ho : other.den ≠ 0) :
    r.value = other.value ↔ r.num.toInt * other.den.toInt = other.num.toInt * r.den.toInt := by
  unfold value
  rw [div_eq_div_iff (Int.cast_ne_zero.mpr (toInt_ne_zero hr))
    (Int.cast_ne_zero.mpr (toInt_ne_zero ho))]
  norm_cast

/-- Ratios are reduced to the same one exactly if they stand for the same number. -/
theorem reduce_eq_iff (hr : r.IsReducible) (ho : other.IsReducible) :
    r.reduce = other.reduce ↔ r.value = other.value := by
  constructor
  · intro h
    rw [← value_reduce hr, h, value_reduce ho]
  · intro h
    have hnum : r.reduce.num = other.reduce.num := by
      rw [← Int32.toInt_inj, (toInt_reduce hr).1, (toInt_reduce ho).1, h]
    have hden : r.reduce.den = other.reduce.den := by
      rw [← Int32.toInt_inj, (toInt_reduce hr).2, (toInt_reduce ho).2, h]
    calc r.reduce = ⟨r.reduce.num, r.reduce.den⟩ := rfl
      _ = ⟨other.reduce.num, other.reduce.den⟩ := by rw [hnum, hden]

theorem reduce_reduce (h : r.IsReducible) : r.reduce.reduce = r.reduce :=
  (reduce_eq_iff (isReducible_of_den_pos (reduce_den_pos h)) h).mpr (value_reduce h)

/-! ## Rescaling -/

theorem num_eq_zero_iff (h : r.den ≠ 0) : r.num = 0 ↔ r.value = 0 := by
  have hden : (r.den.toInt : ℚ) ≠ 0 := Int.cast_ne_zero.mpr (toInt_ne_zero h)
  rw [value, div_eq_zero_iff, or_iff_left hden, Int.cast_eq_zero, ← Int32.toInt_zero,
    Int32.toInt_inj]

/-- Rescaling depends on the numbers that the units stand for. -/
theorem rescale?_eq_of_value_eq {lowestTarget : Ratio} (hr : r.value = lowest.value)
    (hrden : r.den ≠ 0) (hlowest : lowest.den ≠ 0) (ht : target.value = lowestTarget.value)
    (htden : target.den ≠ 0 ↔ lowestTarget.den ≠ 0) (count : Int64) :
    r.rescale? count target = lowest.rescale? count lowestTarget := by
  have hrescales : r.Rescales target ↔ lowest.Rescales lowestTarget := by
    refine and_congr (iff_of_true hrden hlowest) ?_
    rw [← htden]
    refine and_congr_right fun hden => ?_
    rw [ne_eq, ne_eq, num_eq_zero_iff hden, num_eq_zero_iff (htden.mp hden), ht]
  by_cases h : r.Rescales target
  · rw [rescale?_eq_int64? h, rescale?_eq_int64? (hrescales.mp h), factor_eq_div, factor_eq_div,
      hr, ht]
  · rw [rescale?_eq_none h, rescale?_eq_none (mt hrescales.mpr h)]

theorem rescale?_reduce (h : r.IsReducible) (count : Int64) (target : Ratio) :
    r.reduce.rescale? count target = r.rescale? count target :=
  rescale?_eq_of_value_eq (value_reduce h) (den_reduce_ne_zero h) h.1 rfl .rfl count

theorem rescale?_reduce_target (hr : r.den ≠ 0) (h : target.IsReducible) (count : Int64) :
    r.rescale? count target.reduce = r.rescale? count target :=
  rescale?_eq_of_value_eq rfl hr hr (value_reduce h) (iff_of_true (den_reduce_ne_zero h) h.1) count

/-- **Reduction.** A reduced ratio has a positive denominator, no common divisor and the number of the
ratio. Reducing it again changes nothing, ratios that stand for one number are reduced to the same
one and no others are, and counts are rescaled from and to reduced units as from and to the units
themselves. -/
theorem reduce_canonical (r : Ratio) (h : r.IsReducible) :
    (0 < r.reduce.den ∧ r.reduce.num.toInt.natAbs.Coprime r.reduce.den.toInt.natAbs ∧
        r.num.toInt * r.reduce.den.toInt = r.reduce.num.toInt * r.den.toInt) ∧
      r.reduce.reduce = r.reduce ∧
      (∀ other : Ratio, other.IsReducible →
        (r.num.toInt * other.den.toInt = other.num.toInt * r.den.toInt ↔
          r.reduce = other.reduce)) ∧
      ∀ (count : Int64) (target : Ratio), r.rescale? count target = r.reduce.rescale? count target ∧
        (target.IsReducible → r.rescale? count target = r.rescale? count target.reduce) := by
  have hproducts : r.num.toInt * r.reduce.den.toInt = r.reduce.num.toInt * r.den.toInt :=
    (value_eq_value_iff h.1 (den_reduce_ne_zero h)).mp (value_reduce h).symm
  refine ⟨⟨reduce_den_pos h, coprime_reduce h, hproducts⟩, reduce_reduce h, ?_, ?_⟩
  · intro other ho
    rw [reduce_eq_iff h ho, value_eq_value_iff h.1 ho.1]
  · intro count target
    exact ⟨(rescale?_reduce h count target).symm,
      fun ht => (rescale?_reduce_target h.1 ht count).symm⟩

/-- The smallest numerator, a ratio with the same number and a negative denominator, and a target
with a negative denominator. -/
theorem reduce_canonical_smallest :
    let smallest : Ratio := ⟨Int32.minValue, 6⟩
    let negated : Ratio := ⟨1073741824, -3⟩
    let target : Ratio := ⟨10, -4⟩
    (smallest.IsReducible ∧ negated.IsReducible ∧ target.IsReducible) ∧
      smallest.reduce = ⟨-1073741824, 3⟩ ∧ smallest.reduce.reduce = smallest.reduce ∧
      smallest.reduce = negated.reduce ∧
      smallest.rescale? 15 target = smallest.rescale? 15 target.reduce ∧
      smallest.rescale? 15 target = some 2147483648 := by
  intro smallest negated target
  have hsmallest : smallest.IsReducible := by decide
  have hnegated : negated.IsReducible := by decide
  have htarget : target.IsReducible := by decide
  obtain ⟨-, hagain, hother, hrescale⟩ := reduce_canonical smallest hsmallest
  exact ⟨⟨hsmallest, hnegated, htarget⟩, by decide +kernel, hagain,
    (hother negated hnegated).mp (by decide), (hrescale 15 target).2 htarget, by decide +kernel⟩

end StreamDecode.Ratio
