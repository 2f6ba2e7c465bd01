/-!
# Lacing of lengths

A length is laced as one byte of 255 for each whole 255 in it, followed by one byte below 255 with
the rest. A multiple of 255 thus ends with a zero byte.

* `Lacing.decode?_encode`: reading gives the length back and stops where it ends.
* `Lacing.eq_encode_of_decode?`: nothing else is read as a length.
-/

namespace StreamDecode.Lacing

/-- A length as laced bytes. -/
def encode (length : Nat) : List UInt8 :=
  List.replicate (length / 255) 255 ++ [UInt8.ofNat (length % 255)]

/-- A length at the start of the bytes, with what follows it; none if the bytes end first. -/
def decode? : List UInt8 → Option (Nat × List UInt8)
  | [] => none
  | byte :: rest =>
    if byte = 255 then (decode? rest).map fun (length, rest) => (length + 255, rest)
    else some (byte.toNat, rest)

@[simp] theorem length_encode (n : Nat) : (encode n).length = n / 255 + 1 := by simp [encode]

theorem encode_add_255 (n : Nat) : encode (n + 255) = 255 :: encode n := by
  simp [encode, Nat.add_div_right, List.replicate_succ]

theorem encode_of_lt {n : Nat} (h : n < 255) : encode n = [UInt8.ofNat n] := by
  simp [encode, Nat.div_eq_of_lt h, Nat.mod_eq_of_lt h]

theorem decode?_encode (n : Nat) (rest : List UInt8) :
    decode? (encode n ++ rest) = some (n, rest) := by
  induction n using Nat.strongRecOn with
  | ind n ih =>
    by_cases h : n < 255
    · have hne : UInt8.ofNat n ≠ 255 := by
        intro he
        have := congrArg UInt8.toNat he
        simp at this
        omega
      have hmod : n % 256 = n := by omega
      simp [encode_of_lt h, decode?, hne, hmod]
    · obtain ⟨m, rfl⟩ : ∃ m, n = m + 255 := ⟨n - 255, by omega⟩
      simp [encode_add_255, decode?, ih m (by omega)]

theorem eq_encode_of_decode? {bytes rest : List UInt8} {n : Nat}
    (h : decode? bytes = some (n, rest)) : bytes = encode n ++ rest := by
  induction bytes generalizing n with
  | nil => simp [decode?] at h
  | cons byte bytes ih =>
    rw [decode?] at h
    split at h
    · next hb =>
      obtain ⟨⟨m, r⟩, hm, he⟩ := Option.map_eq_some_iff.1 h
      simp only [Prod.mk.injEq] at he
      obtain ⟨rfl, rfl⟩ := he
      rw [encode_add_255, ih hm, hb]
      rfl
    · next hb =>
      simp only [Option.some.injEq, Prod.mk.injEq] at h
      obtain ⟨rfl, rfl⟩ := h
      have hlt : byte.toNat < 255 := by
        have := byte.toNat_lt
        have : byte.toNat ≠ 255 := fun he => hb (UInt8.toNat_inj.1 he)
        omega
      simp [encode_of_lt hlt]

end StreamDecode.Lacing
