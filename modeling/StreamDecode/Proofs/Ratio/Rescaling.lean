import Mathlib.Data.Rat.Floor
import StreamDecode.Proofs.Session.Timing

/-!
# Rescaled counts

A count is rescaled by the exact number of units that one unit is (`Ratio.factor`), and the result is
truncated toward zero. Everything about rescaling is read off the two sides of this.

1. Truncation (`towardZero`) is odd and monotone, and it is the quotient of whole numbers that
   `Int.tdiv` is (`towardZero_div`).
2. A rescaled count is the truncated product of count and factor, where that fits
   (`Ratio.rescale?_eq_int64?`).
3. The products on the way to it have at most 126 bits, so that words of 128 bits are wide enough
   (`Ratio.wideRescale?_eq_some`).
-/

namespace StreamDecode

/-! ## Truncation -/

/-- A rational number truncated toward zero. -/
def towardZero (x : ℚ) : ℤ := if 0 ≤ x then ⌊x⌋ else ⌈x⌉

theorem towardZero_of_nonneg {x : ℚ} (h : 0 ≤ x) : towardZero x = ⌊x⌋ := if_pos h

theorem towardZero_of_nonpos {x : ℚ} (h : x ≤ 0) : towardZero x = ⌈x⌉ := by
  rcases h.lt_or_eq with h | rfl
  · exact if_neg (not_le.mpr h)
  · rfl

theorem towardZero_neg (x : ℚ) : towardZero (-x) = -towardZero x := by
  rcases le_total 0 x with h | h
  · rw [towardZero_of_nonneg h, towardZero_of_nonpos (neg_nonpos.mpr h), Int.ceil_neg]
  · rw [towardZero_of_nonpos h, towardZero_of_nonneg (neg_nonneg.mpr h), Int.floor_neg]

theorem towardZero_intCast (n : ℤ) : towardZero n = n := by
  unfold towardZero
  rw [Int.floor_intCast, Int.ceil_intCast, ite_self]

theorem towardZero_mono {x y : ℚ} (h : x ≤ y) : towardZero x ≤ towardZero y := by
  rcases le_total 0 x with hx | hx
  · rw [towardZero_of_nonneg hx, towardZero_of_nonneg (hx.trans h)]
    exact Int.floor_mono h
  rcases le_total 0 y with hy | hy
  · rw [towardZero_of_nonpos hx, towardZero_of_nonneg hy]
    exact (Int.ceil_nonpos.mpr hx).trans (Int.floor_nonneg.mpr hy)
  · rw [towardZero_of_nonpos hx, towardZero_of_nonpos hy]
    exact Int.ceil_mono h

theorem towardZero_div (n d : ℤ) : towardZero (n / d) = n.tdiv d := by
  -- both sides change their sign with the numerator and with the denominator
  have hnat : ∀ n d : ℕ, towardZero ((n : ℤ) / (d : ℤ)) = (n : ℤ).tdiv d := by
    intro n d
    rw [towardZero_of_nonneg (by positivity), Int.cast_natCast d, Rat.floor_intCast_div_natCast,
      Int.tdiv_eq_ediv_of_nonneg (Int.natCast_nonneg n)]
  have hint : ∀ (n : ℤ) (d : ℕ), towardZero (n / (d : ℤ)) = n.tdiv d := by
    intro n d
    obtain ⟨k, rfl | rfl⟩ := n.eq_nat_or_neg
    · exact hnat k d
    · rw [Int.cast_neg, neg_div, towardZero_neg, hnat, Int.neg_tdiv]
  obtain ⟨k, rfl | rfl⟩ := d.eq_nat_or_neg
  · exact hint n k
  · rw [Int.cast_neg, div_neg, towardZero_neg, hint, Int.tdiv_neg]

theorem int64?_eq_none_iff {n : ℤ} :
    int64? n = none ↔ ¬ (Int64.minValue.toInt ≤ n ∧ n ≤ Int64.maxValue.toInt) := by
  unfold int64?
  split <;> simp_all

namespace Ratio

/-! ## Factors -/

/-- The number that a ratio stands for. -/
def value (r : Ratio) : ℚ := r.num.toInt / r.den.toInt

/-- How many units of `target` one unit of `r` is. -/
def factor (r target : Ratio) : ℚ :=
  (r.num.toInt * target.den.toInt) / (r.den.toInt * target.num.toInt)

/-- Both units are defined, and there are units of `target` in another one. -/
def Rescales (r target : Ratio) : Prop := r.den ≠ 0 ∧ target.den ≠ 0 ∧ target.num ≠ 0

instance (r target : Ratio) : Decidable (r.Rescales target) := by
  unfold Rescales
  infer_instance

variable {r target : Ratio} {count : Int64}

theorem factor_eq_div (r target : Ratio) : r.factor target = r.value / target.value :=
  (div_div_div_eq _ _ _ _).symm

theorem toInt_ne_zero {word : Int32} (h : word ≠ 0) : word.toInt ≠ 0 := by
  rwa [← Int32.toInt_zero, ne_eq, Int32.toInt_inj]

theorem factor_self (hnum : r.num ≠ 0) (hden : r.den ≠ 0) : r.factor r = 1 := by
  have hn : (r.num.toInt : ℚ) ≠ 0 := Int.cast_ne_zero.mpr (toInt_ne_zero hnum)
  have hd : (r.den.toInt : ℚ) ≠ 0 := Int.cast_ne_zero.mpr (toInt_ne_zero hden)
  unfold factor
  rw [mul_comm]
  exact div_self (mul_ne_zero hd hn)

theorem towardZero_mul_factor (r target : Ratio) (count : Int64) :
    towardZero (count.toInt * r.factor target) =
      (count.toInt * r.num.toInt * target.den.toInt).tdiv (r.den.toInt * target.num.toInt) := by
  rw [← towardZero_div, factor, mul_div_assoc']
  push_cast
  rw [mul_assoc]

/-- A rescaled count is the truncated product of count and factor, where that fits. -/
theorem rescale?_eq_int64? (h : r.Rescales target) :
    r.rescale? count target = int64? (towardZero (count.toInt * r.factor target)) := by
  obtain ⟨hr, hden, hnum⟩ := h
  unfold rescale?
  rw [if_neg (by simp [hr, hden, hnum]), towardZero_mul_factor]

theorem rescale?_eq_none (h : ¬ r.Rescales target) : r.rescale? count target = none := by
  unfold Rescales at h
  exact if_pos (by tauto)

/-- Rescaling has a result where the truncated product is one. -/
theorem rescale?_eq_some_iff_towardZero {result : Int64} :
    r.rescale? count target = some result ↔
      r.Rescales target ∧ result.toInt = towardZero (count.toInt * r.factor target) := by
  by_cases h : r.Rescales target
  · rw [rescale?_eq_int64? h, int64?_eq_some_iff, and_iff_right h]
  · rw [rescale?_eq_none h]
    exact iff_of_false nofun fun ⟨hr, _⟩ => h hr

theorem isSome_rescale?_iff :
    (r.rescale? count target).isSome ↔
      r.Rescales target ∧
        Int64.minValue.toInt ≤ towardZero (count.toInt * r.factor target) ∧
        towardZero (count.toInt * r.factor target) ≤ Int64.maxValue.toInt := by
  by_cases h : r.Rescales target
  · rw [rescale?_eq_int64? h, and_iff_right h, Option.isSome_iff_ne_none, ne_eq,
      int64?_eq_none_iff, not_not]
  · rw [rescale?_eq_none h]
    exact iff_of_false nofun fun ⟨hr, _⟩ => h hr

/-! ## Words of 128 bits -/

/-- The integer, if it fits a signed word of 128 bits. -/
def int128? (n : ℤ) : Option ℤ := if -2 ^ 127 ≤ n ∧ n < 2 ^ 127 then some n else none

/-- `rescale?` with every product and the quotient in a signed word of 128 bits; none if one of them
does not fit. -/
def wideRescale? (r : Ratio) (count : Int64) (target : Ratio) : Option (Option Int64) :=
  if r.den = 0 ∨ target.den = 0 ∨ target.num = 0 then some none
  else do
    let scaled ← int128? (count.toInt * r.num.toInt)
    let dividend ← int128? (scaled * target.den.toInt)
    let divisor ← int128? (r.den.toInt * target.num.toInt)
    let quotient ← int128? (dividend.tdiv divisor)
    some (int64? quotient)

theorem int128?_eq_some {n : ℤ} (h : n.natAbs ≤ 2 ^ 126) : int128? n = some n :=
  if_pos (by omega)

theorem natAbs_mul_le {a b : ℤ} {m n : ℕ} (ha : a.natAbs ≤ m) (hb : b.natAbs ≤ n) :
    (a * b).natAbs ≤ m * n := by
  rw [Int.natAbs_mul]
  exact Nat.mul_le_mul ha hb

theorem natAbs_toInt32_le (word : Int32) : word.toInt.natAbs ≤ 2 ^ 31 := by
  have hlo := word.le_toInt
  have hhi := word.toInt_lt
  omega

theorem natAbs_toInt64_le (word : Int64) : word.toInt.natAbs ≤ 2 ^ 63 := by
  have hlo := word.le_toInt
  have hhi := word.toInt_lt
  omega

/-- Nothing on the way to a rescaled count exceeds 128 bits. -/
theorem wideRescale?_eq_some (r : Ratio) (count : Int64) (target : Ratio) :
    r.wideRescale? count target = some (r.rescale? count target) := by
  have hscaled : (count.toInt * r.num.toInt).natAbs ≤ 2 ^ 63 * 2 ^ 31 :=
    natAbs_mul_le (natAbs_toInt64_le count) (natAbs_toInt32_le r.num)
  have hdividend :
      (count.toInt * r.num.toInt * target.den.toInt).natAbs ≤ 2 ^ 63 * 2 ^ 31 * 2 ^ 31 :=
    natAbs_mul_le hscaled (natAbs_toInt32_le target.den)
  have hdivisor : (r.den.toInt * target.num.toInt).natAbs ≤ 2 ^ 31 * 2 ^ 31 :=
    natAbs_mul_le (natAbs_toInt32_le r.den) (natAbs_toInt32_le target.num)
  have hquotient := Int.natAbs_tdiv_le_natAbs (count.toInt * r.num.toInt * target.den.toInt)
    (r.den.toInt * target.num.toInt)
  unfold wideRescale? rescale?
  split
  · rfl
  · simp only [Option.bind_eq_bind]
    rw [int128?_eq_some (by omega), Option.bind_some, int128?_eq_some (by omega),
      Option.bind_some, int128?_eq_some (by omega), Option.bind_some, int128?_eq_some (by omega),
      Option.bind_some]

/-! ## Order -/

theorem rescale?_self (hnum : r.num ≠ 0) (hden : r.den ≠ 0) (count : Int64) :
    r.rescale? count r = some count := by
  rw [rescale?_eq_some_iff_towardZero, factor_self hnum hden, mul_one, towardZero_intCast]
  exact ⟨⟨hden, hden, hnum⟩, rfl⟩

section Order

variable {later result laterResult : Int64}

theorem rescale?_mono (hfactor : 0 ≤ r.factor target) (h : count ≤ later)
    (hresult : r.rescale? count target = some result)
    (hlater : r.rescale? later target = some laterResult) : result ≤ laterResult := by
  have hcounts : (count.toInt : ℚ) ≤ later.toInt := Int.cast_le.mpr (Int64.le_iff_toInt_le.mp h)
  rw [Int64.le_iff_toInt_le, (rescale?_eq_some_iff_towardZero.mp hresult).2,
    (rescale?_eq_some_iff_towardZero.mp hlater).2]
  exact towardZero_mono (mul_le_mul_of_nonneg_right hcounts hfactor)

theorem rescale?_anti (hfactor : r.factor target ≤ 0) (h : count ≤ later)
    (hresult : r.rescale? count target = some result)
    (hlater : r.rescale? later target = some laterResult) : laterResult ≤ result := by
  have hcounts : (count.toInt : ℚ) ≤ later.toInt := Int.cast_le.mpr (Int64.le_iff_toInt_le.mp h)
  rw [Int64.le_iff_toInt_le, (rescale?_eq_some_iff_towardZero.mp hresult).2,
    (rescale?_eq_some_iff_towardZero.mp hlater).2]
  exact towardZero_mono (mul_le_mul_of_nonpos_right hcounts hfactor)

end Order

/-- **Rescaling.** Words of 128 bits are wide enough for all that is computed. There is a result
exactly if both units are defined, the target unit is not zero and the exact quotient, truncated
toward zero, fits 64 bits, and then it is the result. So a count is kept in its own unit, and counts
keep their order, or all change it, as the sign of the factor says. -/
theorem rescale?_truncates (r target : Ratio) :
    (∀ count, r.wideRescale? count target = some (r.rescale? count target)) ∧
      (∀ count result, r.rescale? count target = some result ↔
        r.Rescales target ∧ result.toInt = towardZero (count.toInt * r.factor target)) ∧
      (∀ count, (r.rescale? count target).isSome ↔
        r.Rescales target ∧
          Int64.minValue.toInt ≤ towardZero (count.toInt * r.factor target) ∧
          towardZero (count.toInt * r.factor target) ≤ Int64.maxValue.toInt) ∧
      (r.num ≠ 0 → r.den ≠ 0 → ∀ count, r.rescale? count r = some count) ∧
      (0 < r.factor target → ∀ count later result laterResult, count ≤ later →
        r.rescale? count target = some result → r.rescale? later target = some laterResult →
          result ≤ laterResult) ∧
      (r.factor target < 0 → ∀ count later result laterResult, count ≤ later →
        r.rescale? count target = some result → r.rescale? later target = some laterResult →
          laterResult ≤ result) := by
  refine ⟨fun count => r.wideRescale?_eq_some count target,
    fun _ _ => rescale?_eq_some_iff_towardZero, fun _ => isSome_rescale?_iff, rescale?_self, ?_, ?_⟩
  · intro hfactor _ _ _ _ h hresult hlater
    exact rescale?_mono hfactor.le h hresult hlater
  · intro hfactor _ _ _ _ h hresult hlater
    exact rescale?_anti hfactor.le h hresult hlater

/-- Thirds that count on and thirds that count back, as wholes; an unknown time stays one. -/
theorem rescale?_truncates_thirds :
    let thirds : Ratio := ⟨1, 3⟩
    let backward : Ratio := ⟨-1, 3⟩
    thirds.rescale? noTimestamp thirds = some noTimestamp ∧
      (0 < thirds.factor .one ∧ thirds.rescale? (-7) .one = some (-2) ∧
        thirds.rescale? 8 .one = some 2 ∧ (-2 : Int64) ≤ 2) ∧
      (backward.factor .one < 0 ∧ backward.rescale? (-7) .one = some 2 ∧
        backward.rescale? 8 .one = some (-2) ∧ (-2 : Int64) ≤ 2) := by
  intro thirds backward
  obtain ⟨-, -, -, hself, hforward, -⟩ := rescale?_truncates thirds .one
  obtain ⟨-, -, -, -, -, hbackward⟩ := rescale?_truncates backward .one
  have hpositive : 0 < thirds.factor .one := by decide +kernel
  have hnegative : backward.factor .one < 0 := by decide +kernel
  have hcounts : (-7 : Int64) ≤ 8 := by decide
  have hfirst : thirds.rescale? (-7) .one = some (-2) := by decide +kernel
  have hsecond : thirds.rescale? 8 .one = some 2 := by decide +kernel
  have hthird : backward.rescale? (-7) .one = some 2 := by decide +kernel
  have hfourth : backward.rescale? 8 .one = some (-2) := by decide +kernel
  exact ⟨hself (by decide) (by decide) noTimestamp,
    ⟨hpositive, hfirst, hsecond, hforward hpositive _ _ _ _ hcounts hfirst hsecond⟩,
    ⟨hnegative, hthird, hfourth, hbackward hnegative _ _ _ _ hcounts hthird hfourth⟩⟩

end Ratio

end StreamDecode
