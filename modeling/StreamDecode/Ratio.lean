import StreamDecode.Numeric.Binary

/-!
# Ratios of 32-bit integers

Time bases, frame rates and aspect ratios are ratios `num/den` that need not be reduced and may
have a zero or negative denominator. `Ratio.rescale?` converts a count between two time bases,
`Ratio.reduce` gives the lowest terms with a positive denominator.
-/

namespace StreamDecode

/-- A ratio of two signed words; it is undefined when the denominator is zero. -/
structure Ratio where
  num : Int32
  den : Int32
deriving DecidableEq, Repr

/-- The integer as a signed word of 64 bits, if it fits. -/
def int64? (n : Int) : Option Int64 :=
  if Int64.minValue.toInt ≤ n ∧ n ≤ Int64.maxValue.toInt then some (Int64.ofInt n) else none

namespace Ratio

def undefined : Ratio := ⟨0, 0⟩

def one : Ratio := ⟨1, 1⟩

def isDefined (r : Ratio) : Bool := r.den ≠ 0

/-- The nearest double. -/
def toBinary (r : Ratio) : Binary :=
  if r.den = 0 then .nan
  else .ofFraction (decide (r.num < 0) != decide (r.den < 0)) r.num.toInt.natAbs r.den.toInt.natAbs

/-- The magnitude of a signed word. -/
def magnitude (word : Int32) : UInt32 := UInt32.ofNat word.toInt.natAbs

/-- The greatest common divisor of two words, by Euclid's algorithm. -/
def euclid (a b : UInt32) : UInt32 :=
  if b = 0 then a else euclid b (a % b)
termination_by b.toNat
decreasing_by
  next hb =>
  rw [UInt32.toNat_mod]
  exact Nat.mod_lt _ (Nat.pos_of_ne_zero fun hzero => hb (UInt32.toNat_inj.mp hzero))

/-- Lowest terms with a positive denominator; an undefined ratio is kept as it is. A word that cannot
be negated wraps around. -/
def reduce (r : Ratio) : Ratio :=
  if r.den = 0 then r
  else
    let divisor := (euclid (magnitude r.num) (magnitude r.den)).toInt32
    let sign : Int32 := if r.den < 0 then -1 else 1
    ⟨sign * r.num / divisor, sign * r.den / divisor⟩

/-- A count in units of `r` as a count in units of `target`, truncated toward zero; none if one of
the units is undefined, the target unit is zero or the count does not fit. -/
def rescale? (r : Ratio) (count : Int64) (target : Ratio) : Option Int64 :=
  if r.den = 0 ∨ target.den = 0 ∨ target.num = 0 then none
  else
    int64? ((count.toInt * r.num.toInt * target.den.toInt).tdiv (r.den.toInt * target.num.toInt))

/-- The written form `num/den`. -/
def label (r : Ratio) : String := s!"{r.num.toInt}/{r.den.toInt}"

end Ratio

end StreamDecode
