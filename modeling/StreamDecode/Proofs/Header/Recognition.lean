import StreamDecode.Proofs.Header.Repacking

/-!
# Recognising the engine's layout

`VorbisHeader.Layout` is the engine's layout as a grammar: the count, two laced lengths and packets.
No laced length begins another one, so the parts of a header are determined by its bytes. Exactly
the headers of the grammar are recognised, and each of them in one way
(`VorbisHeader.recognises_layout`).

`VorbisHeader.isLaced` takes a list apart, and of a list nothing can be taken that is not there.
`VorbisHeader.inspect?` goes through the bytes by positions instead: each length is read from the
position where the last one ended, and the packets are the slice from where the second one ends.
There is no slice from a position beyond the end; `inspect?_eq` says that none is asked for, wherever
the bytes end, and that the answer is the same.
-/

namespace StreamDecode

/-- The bytes from a position to the end; none if the position lies beyond the end. -/
def Bytes.suffixAt? (bytes : Bytes) (position : Nat) : Option (List UInt8) :=
  if position ≤ bytes.size then some (bytes.toList.drop position) else none

theorem Bytes.suffixAt?_of_le {bytes : Bytes} {position : Nat} (h : position ≤ bytes.size) :
    bytes.suffixAt? position = some (bytes.toList.drop position) := if_pos h

/-! ## Laced lengths -/

namespace Lacing

/-- A code of numbers in which no word begins another one. -/
structure IsPrefixCode (code : Nat → List UInt8) : Prop where
  injective : Function.Injective code
  prefixFree : ∀ m n, code m <+: code n → m = n

variable {m n position stop : Nat} {rest other : List UInt8} {bytes : Bytes}

/-- Where a laced length ends does not depend on what follows. -/
theorem encode_append_inj (h : encode m ++ rest = encode n ++ other) : m = n ∧ rest = other := by
  have hread : some (m, rest) = some (n, other) := by
    rw [← decode?_encode m rest, h, decode?_encode n other]
  cases hread
  exact ⟨rfl, rfl⟩

theorem isPrefixCode_encode : IsPrefixCode encode := by
  have hprefix : ∀ m n, encode m <+: encode n → m = n := by
    rintro m n ⟨rest, hrest⟩
    rw [← List.append_nil (encode n)] at hrest
    exact (encode_append_inj hrest).1
  refine ⟨?_, hprefix⟩
  intro m n h
  exact hprefix m n (h ▸ List.prefix_rfl)

/-- The length that begins at a position, with the position behind it; none if the bytes end first.
A byte is read only where there is one. -/
def readAt? (bytes : Bytes) (position : Nat) : Option (Nat × Nat) :=
  if h : position < bytes.size then
    if bytes[position] = 255 then
      (readAt? bytes (position + 1)).map fun (length, stop) => (length + 255, stop)
    else some (bytes[position].toNat, position + 1)
  else none
termination_by bytes.size - position

theorem readAt?_bounds (h : readAt? bytes position = some (n, stop)) :
    position < stop ∧ stop ≤ bytes.size := by
  fun_induction readAt? bytes position generalizing n with
  | case1 position hlt hbyte ih =>
    obtain ⟨⟨length, behind⟩, hread, hsame⟩ := Option.map_eq_some_iff.mp h
    cases hsame
    have hbounds := ih hread
    exact ⟨Nat.lt_trans (Nat.lt_succ_self position) hbounds.1, hbounds.2⟩
  | case2 position hlt hbyte =>
    cases h
    exact ⟨Nat.lt_succ_self position, hlt⟩
  | case3 position hend => cases h

/-- The bytes behind a position begin with the length that is read there, and go on behind it. -/
theorem decode?_drop (bytes : Bytes) (position : Nat) :
    decode? (bytes.toList.drop position) =
      (readAt? bytes position).map fun read => (read.1, bytes.toList.drop read.2) := by
  fun_induction readAt? bytes position with
  | case1 position hlt hbyte ih =>
    rw [List.drop_eq_getElem_cons hlt, decode?, Array.getElem_toList, if_pos hbyte, ih,
      Option.map_map, Option.map_map]
    rfl
  | case2 position hlt hbyte =>
    rw [List.drop_eq_getElem_cons hlt, decode?, Array.getElem_toList, if_neg hbyte]
    rfl
  | case3 position hend =>
    rw [List.drop_eq_nil_of_le (Nat.not_lt.mp hend)]
    rfl

/-- Where a laced length stands, it is read, and what follows it is the rest of the bytes. -/
theorem exists_readAt? (h : bytes.toList.drop position = encode n ++ rest) :
    ∃ stop, readAt? bytes position = some (n, stop) ∧ stop ≤ bytes.size ∧
      bytes.toList.drop stop = rest := by
  have hread := decode?_drop bytes position
  rw [h, decode?_encode] at hread
  obtain ⟨⟨length, stop⟩, hat, hsame⟩ := Option.map_eq_some_iff.mp hread.symm
  cases hsame
  exact ⟨stop, hat, (readAt?_bounds hat).2, rfl⟩

end Lacing

/-! ## Headers -/

namespace VorbisHeader

/-- The engine's layout as a grammar: the count, two laced lengths and packets, of which the first
one is the identification and the third one is not empty. -/
structure Layout (header : List UInt8) (first second : Nat) (packets : List UInt8) : Prop where
  parts : header =
    [lacedCount] ++ Lacing.encode first ++ Lacing.encode second ++ packets
  identified : identification <+: packets
  third : first + second < packets.length

/-- Whether a header is in the engine's layout, found out position by position; none if the slice of
the packets would begin beyond the end. -/
def inspect? (header : Bytes) : Option Bool :=
  if header[0]? = some lacedCount then
    match Lacing.readAt? header 1 with
    | none => some false
    | some (first, middle) =>
      match Lacing.readAt? header middle with
      | none => some false
      | some (second, start) =>
        (header.suffixAt? start).map fun packets =>
          decide (first + second < packets.length) && identification.isPrefixOf packets
  else some false

variable {header packets others : List UInt8} {first second one two : Nat}

theorem isLaced_iff_layout :
    isLaced header = true ↔ ∃ first second packets, Layout header first second packets := by
  rw [isLaced_iff]
  refine exists_congr fun first => exists_congr fun second => exists_congr fun packets => ?_
  have hsame : [lacedCount] ++ Lacing.encode first ++ Lacing.encode second ++ packets =
      laced first second packets := by
    rw [List.append_assoc, List.append_assoc]
    rfl
  constructor
  · rintro ⟨hparts, hthird, hidentified⟩
    exact ⟨hparts.trans hsame.symm, hidentified, hthird⟩
  · rintro ⟨hparts, hidentified, hthird⟩
    exact ⟨hparts.trans hsame, hthird, hidentified⟩

theorem Layout.unique (h : Layout header first second packets) (ho : Layout header one two others) :
    first = one ∧ second = two ∧ packets = others := by
  have hparts := h.parts.symm.trans ho.parts
  simp only [List.append_assoc] at hparts
  obtain ⟨rfl, hrest⟩ := Lacing.encode_append_inj (List.append_cancel_left hparts)
  obtain ⟨rfl, rfl⟩ := Lacing.encode_append_inj hrest
  exact ⟨rfl, rfl, rfl⟩

/-- The lengths are read one after the other, and the packets begin where the second one ends. -/
theorem Layout.exists_readAt? {header : Bytes} (h : Layout header.toList first second packets) :
    ∃ middle start, Lacing.readAt? header 1 = some (first, middle) ∧
      Lacing.readAt? header middle = some (second, start) ∧
      header.suffixAt? start = some packets := by
  have hfirst : header.toList.drop 1 =
      Lacing.encode first ++ (Lacing.encode second ++ packets) := by
    rw [h.parts, List.append_assoc, List.append_assoc]
    rfl
  obtain ⟨middle, hmiddle, -, hsecond⟩ := Lacing.exists_readAt? hfirst
  obtain ⟨start, hstart, hle, hpackets⟩ := Lacing.exists_readAt? hsecond
  exact ⟨middle, start, hmiddle, hstart, hpackets ▸ Bytes.suffixAt?_of_le hle⟩

/-- Going by positions never needs a slice that is not there, and gives the same answer. -/
theorem inspect?_eq (header : Bytes) : inspect? header = some (isLaced header.toList) := by
  unfold inspect?
  cases hlist : header.toList with
  | nil =>
    obtain rfl : header = #[] := Array.toList_eq_nil_iff.mp hlist
    rfl
  | cons count bytes =>
    have hcount : header[0]? = some count := by
      rw [← Array.getElem?_toList, hlist]
      rfl
    have hfirst : Lacing.decode? bytes =
        (Lacing.readAt? header 1).map fun read => (read.1, header.toList.drop read.2) := by
      rw [← Lacing.decode?_drop, hlist]
      rfl
    unfold isLaced
    dsimp only
    rw [hcount, hfirst]
    by_cases hlaced : count = lacedCount
    · subst hlaced
      rw [if_pos rfl, beq_self_eq_true, Bool.true_and]
      cases Lacing.readAt? header 1 with
      | none => rfl
      | some read =>
        obtain ⟨first, middle⟩ := read
        dsimp only [Option.map_some]
        rw [Lacing.decode?_drop header middle]
        cases hsecond : Lacing.readAt? header middle with
        | none => rfl
        | some read =>
          obtain ⟨second, start⟩ := read
          dsimp only [Option.map_some]
          rw [Bytes.suffixAt?_of_le (Lacing.readAt?_bounds hsecond).2]
          rfl
    · rw [if_neg (fun h => hlaced (Option.some.inj h)), beq_false_of_ne hlaced, Bool.false_and]

/-- What the recogniser finds out about a header. -/
structure Recognises (header : Bytes) : Prop where
  /-- Just the headers in the engine's layout are recognised. -/
  accepted : repacker.isRepacked header = true ↔
    ∃ first second packets, Layout header.toList first second packets
  /-- A header is in the layout in one way only. -/
  unique : ∀ first second packets, Layout header.toList first second packets →
    ∀ one two others, Layout header.toList one two others →
      first = one ∧ second = two ∧ packets = others
  /-- The lengths are read one after the other, and the packets begin where the second one ends. -/
  positions : ∀ first second packets, Layout header.toList first second packets →
    ∃ middle start, Lacing.readAt? header 1 = some (first, middle) ∧
      Lacing.readAt? header middle = some (second, start) ∧
      header.suffixAt? start = some packets
  /-- Wherever the bytes end, nothing is taken from beyond their end. -/
  inBounds : inspect? header = some (repacker.isRepacked header)

/-- **The engine's layout is recognised.** Laced lengths are a code in which no word begins another
one, with one byte for each whole 255 and one more; and a header is recognised exactly if it is in
the layout, which it is in one way, without a read or a slice beyond its end. -/
theorem recognises_layout :
    Lacing.IsPrefixCode Lacing.encode ∧ (∀ n, (Lacing.encode n).length = n / 255 + 1) ∧
      ∀ header, Recognises header := by
  refine ⟨Lacing.isPrefixCode_encode, Lacing.length_encode, ?_⟩
  intro header
  exact
    { accepted := isLaced_iff_layout
      unique := fun _ _ _ h _ _ _ ho => h.unique ho
      positions := fun _ _ _ h => h.exists_readAt?
      inBounds := inspect?_eq header }

-- the bytes end within the first length, within the second one, and before a third packet
example : (inspect? #[2, 255], inspect? #[2, 255, 7, 255], inspect? #[2, 3, 4, 1, 118, 111]) =
    (some false, some false, some false) := by decide +kernel

end VorbisHeader

end StreamDecode
