/-!
# Byte strings

`Bytes` is the payload type of packets, frames and samples. `Bytes.tabulate?` builds a byte string
from a rule for each position, and `Bytes.tabulate?_eq_some_iff` says that it has exactly the bytes
of the rule. `littleEndian` writes a number with its least byte first, and `ofLittleEndian` reads
it back.
-/

namespace StreamDecode

/-- A byte string. -/
abbrev Bytes := Array UInt8

theorem mapM_eq_some_iff {α β : Type} {f : α → Option β} {xs : List α} {ys : List β} :
    xs.mapM f = some ys ↔ xs.map f = ys.map some := by
  induction xs generalizing ys with
  | nil => cases ys <;> simp
  | cons x xs ih =>
    rw [List.mapM_cons]
    cases hx : f x with
    | none => cases ys <;> simp [hx]
    | some y =>
      cases hxs : xs.mapM f with
      | none =>
        cases ys with
        | nil => simp
        | cons z zs =>
          have hne : xs.map f ≠ zs.map some := fun h => by simpa [hxs] using ih.2 h
          simp [hx, hne]
      | some zs =>
        have hzs := ih.1 hxs
        cases ys with
        | nil => simp
        | cons z ws =>
          simp only [Option.bind_eq_bind, Option.bind_some, Option.pure_def, Option.some.injEq,
            List.cons.injEq, List.map_cons, hx, hzs]
          refine and_congr_right fun _ => ⟨fun h => by rw [h], fun h => ?_⟩
          exact (List.map_inj_right fun _ _ => Option.some.inj).1 h

namespace Bytes

def zeros (n : Nat) : Bytes := Array.replicate n 0

@[simp] theorem size_zeros (n : Nat) : (zeros n).size = n := Array.size_replicate

/-- The `n` bytes that the rule gives for positions `0 … n - 1`, if it gives all of them. -/
def tabulate? (n : Nat) (rule : Nat → Option UInt8) : Option Bytes :=
  ((List.range n).mapM rule).map List.toArray

theorem tabulate?_eq_some_iff {n : Nat} {rule : Nat → Option UInt8} {bytes : Bytes} :
    tabulate? n rule = some bytes ↔ bytes.size = n ∧ ∀ i < n, rule i = bytes[i]? := by
  have hlist : tabulate? n rule = some bytes ↔ (List.range n).mapM rule = some bytes.toList := by
    unfold tabulate?
    cases (List.range n).mapM rule <;> simp [← Array.toList_inj]
  rw [hlist, mapM_eq_some_iff]
  constructor
  · intro h
    have hsize : bytes.size = n := by simpa using (congrArg List.length h).symm
    refine ⟨hsize, fun i hi => ?_⟩
    have hi' := congrArg (fun l => l[i]?) h
    have hbytes : i < bytes.size := hsize ▸ hi
    simpa [List.getElem?_range hi, Array.getElem?_eq_getElem hbytes] using hi'
  · rintro ⟨hsize, h⟩
    refine List.ext_getElem (by simp [hsize]) fun i hi _ => ?_
    have hi' := h i (by simpa using hi)
    rw [Array.getElem?_eq_getElem (by simp at hi; omega)] at hi'
    simpa using hi'

end Bytes

/-! ### Little-endian numbers -/

/-- The `width` low bytes of a number, the least one first. -/
def littleEndian : Nat → Nat → List UInt8
  | 0, _ => []
  | width + 1, n => UInt8.ofNat n :: littleEndian width (n / 256)

/-- The number that is written with its least byte first. -/
def ofLittleEndian : List UInt8 → Nat
  | [] => 0
  | b :: bytes => b.toNat + 256 * ofLittleEndian bytes

@[simp] theorem length_littleEndian (width n : Nat) : (littleEndian width n).length = width := by
  induction width generalizing n with
  | zero => rfl
  | succ width ih => simp [littleEndian, ih]

theorem pow_256_succ (width : Nat) : Nat.pow 256 (width + 1) = 256 * Nat.pow 256 width :=
  Nat.mul_comm _ _

theorem ofLittleEndian_lt (bytes : List UInt8) :
    ofLittleEndian bytes < Nat.pow 256 bytes.length := by
  induction bytes with
  | nil => simp [ofLittleEndian]
  | cons b bytes ih =>
    have hb := b.toNat_lt
    rw [ofLittleEndian, List.length_cons, pow_256_succ]
    omega

end StreamDecode
