/-!
# Binary floating-point numbers

`Binary` holds `±m · 2^e` with an unbounded mantissa, the two infinities and one not-a-number.
Every finite value is exact; `roundTo p` is the only place where precision is lost, and it
rounds to the nearest mantissa of `p` bits with ties to the even one.

* `Binary.add`, `Binary.ofFraction`: correctly rounded sum and quotient at 53 bits.
* `Binary.scale`: multiplication by a power of two, exact.
* `Binary.toIntWithin`: rounding to an integer, halves away from zero, clamped to a range.
* `BinaryFormat`, `Binary.encode`, `Binary.ofSingleBits`: interchange formats of 32 and 64 bits.
-/

namespace StreamDecode

/-- A binary number: not a number, an infinity, or `±mantissa · 2^exponent`. -/
inductive Binary where
  | nan
  | infinite (negative : Bool)
  | finite (negative : Bool) (mantissa : Nat) (exponent : Int)
deriving DecidableEq, Repr

namespace Binary

def zero : Binary := .finite false 0 0

/-- The number of binary digits of `n`; zero has none. -/
def bitLength (n : Nat) : Nat := if n = 0 then 0 else n.log2 + 1

/-- `m / 2^k` rounded to the nearest natural number, ties to the even one. -/
def shiftRightEven (m k : Nat) : Nat :=
  let quotient := m >>> k
  let remainder := m % (1 <<< k)
  if 1 <<< k < 2 * remainder ∨ (2 * remainder = 1 <<< k ∧ quotient % 2 = 1) then quotient + 1
  else quotient

theorem shiftRightEven_zero (m : Nat) : shiftRightEven m 0 = m := by
  simp [shiftRightEven, Nat.mod_one]

/-- `±m · 2^e` with the mantissa rounded to at most `p` bits. -/
def roundTo (p : Nat) (negative : Bool) (m : Nat) (e : Int) : Binary :=
  let drop := bitLength m - p
  .finite negative (shiftRightEven m drop) (e + drop)

/-- The precision of a double: 53 bits. -/
def doublePrecision : Nat := 53

/-- The signed mantissa of a finite number. -/
def signedMantissa (negative : Bool) (m : Nat) : Int := if negative then -(m : Int) else m

/-- The sum, rounded to the precision of a double. An exact zero sum is negative only when both
terms are; the sum of opposite infinities is not a number. -/
def add : Binary → Binary → Binary
  | .nan, _ => .nan
  | _, .nan => .nan
  | .infinite s, .infinite t => if s = t then .infinite s else .nan
  | .infinite s, .finite .. => .infinite s
  | .finite .., .infinite t => .infinite t
  | .finite s m e, .finite t n f =>
    let low := min e f
    let sum :=
      signedMantissa s (m <<< (e - low).toNat) + signedMantissa t (n <<< (f - low).toNat)
    if sum = 0 then .finite (s && t) 0 0
    else roundTo doublePrecision (decide (sum < 0)) sum.natAbs low

/-- Multiplication by `2^k`, which is exact. -/
def scale (k : Int) : Binary → Binary
  | .finite s m e => .finite s m (e + k)
  | x => x

/-- `±m · 2^e` divided by a positive `d`, rounded to the precision of a double: the quotient is
taken with two spare bits, and an inexact one is marked by an odd last bit. -/
def divideMantissa (negative : Bool) (m : Nat) (e : Int) (d : Nat) : Binary :=
  let shift := doublePrecision + 1 + bitLength d - bitLength m
  let scaled := m <<< shift
  let sticky : Nat := if scaled % d = 0 then 0 else 1
  roundTo doublePrecision negative (2 * (scaled / d) + sticky) (e - (shift : Int) - 1)

/-- The quotient of two natural numbers with a given sign; `d` must not be zero. -/
def ofFraction (negative : Bool) (n d : Nat) : Binary := divideMantissa negative n 0 d

/-- The quotient of a number by a positive natural number. -/
def divNat (x : Binary) (d : Nat) : Binary :=
  match x with
  | .finite s m e => divideMantissa s m e d
  | x => x

/-- The whole number `n`. -/
def ofInt (n : Int) : Binary := .finite (decide (n < 0)) n.natAbs 0

/-- The magnitude `m · 2^e` rounded to a natural number, halves upwards. -/
def roundHalfUp (m : Nat) (e : Int) : Nat :=
  if 0 ≤ e then m <<< e.toNat
  else (m + 1 <<< ((-e).toNat - 1)) >>> (-e).toNat

/-- Rounds to an integer, halves away from zero, and clamps to `lo … hi`; not-a-number gives `0`. -/
def toIntWithin (lo hi : Int) : Binary → Int
  | .nan => 0
  | .infinite negative => if negative then lo else hi
  | .finite negative m e => max lo (min hi (signedMantissa negative (roundHalfUp m e)))

end Binary

/-- An interchange format: bits of precision, exponent of the least subnormal number, and the
words that stand for positive infinity, for not-a-number and for the sign. -/
structure BinaryFormat where
  precision : Nat
  minExponent : Int
  infinityWord : Nat
  nanWord : Nat
  signWord : Nat
deriving DecidableEq, Repr

namespace BinaryFormat

/-- The format of 32 bits. -/
def single : BinaryFormat := ⟨24, -149, 0x7f800000, 0x7fc00000, 0x80000000⟩

/-- The format of 64 bits. -/
def double : BinaryFormat := ⟨53, -1074, 0x7ff0000000000000, 0x7ff8000000000000, 0x8000000000000000⟩

end BinaryFormat

namespace Binary

/-- The word of a magnitude: the mantissa is brought to the unit in the last place, and a carry
out of it runs into the exponent field; what is too large becomes infinity. -/
def encodeMagnitude (format : BinaryFormat) (m : Nat) (e : Int) : Nat :=
  if m = 0 then 0
  else
    let unit := max (e + bitLength m - format.precision) format.minExponent
    let quotient :=
      if unit ≤ e then m <<< (e - unit).toNat else shiftRightEven m (unit - e).toNat
    let word := ((unit - format.minExponent).toNat <<< (format.precision - 1)) + quotient
    min word format.infinityWord

/-- The word that stands for a number in an interchange format, rounded to nearest, ties to even. -/
def encode (format : BinaryFormat) : Binary → Nat
  | .nan => format.nanWord
  | .infinite negative => (if negative then format.signWord else 0) + format.infinityWord
  | .finite negative m e => (if negative then format.signWord else 0) + encodeMagnitude format m e

/-- The number that a word of 32 bits stands for. -/
def ofSingleBits (word : Nat) : Binary :=
  let negative := decide (0x80000000 ≤ word)
  let field : Nat := (word >>> 23) % 0x100
  let fraction : Nat := word % 0x800000
  if field = 255 then if fraction = 0 then .infinite negative else .nan
  else if field = 0 then .finite negative fraction (-149)
  else .finite negative (fraction + 0x800000) ((field : Int) - 150)

end Binary

end StreamDecode
