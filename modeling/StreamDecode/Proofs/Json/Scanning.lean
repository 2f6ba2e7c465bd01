import Mathlib.Data.List.Chain
import Mathlib.Data.List.TakeWhile
import StreamDecode.Proofs.Json.Parsing

/-!
# Scanning what was written

The written form of tokens is cut into these tokens again (`Token.scan?_spell`), if no two words
stand next to each other and every number with a spelling of its own is spelled as one.

1. A word is read letter by letter up to a mark: an integer, whose digits give the number back
   (`number?_spellInt`), or any spelling of a number, which has no mark in it
   (`not_mark_of_number`).
2. A text is read character by character, and each escape gives its character back
   (`Scanner.read?_spellChar`).
3. In the tokens of a value a word is always followed by a mark (`apart_tokens`).

Together with the parser, `Json.ofText?_compact` reads every value back from its text.
-/

namespace StreamDecode.Json

/-! ## Letters and marks -/

/-- The characters that end a word. -/
def marks : List Char := [' ', '\n', '\t', '\r', '"', '\x7b', '\x7d', '[', ']', ',', ':']

theorem not_mark_of_isDigit {c : Char} (h : c.isDigit = true) : c ∉ marks := by
  have hmarks : marks.all (fun mark => !mark.isDigit) = true := by decide
  intro hm
  have hc := List.all_eq_true.mp hmarks c hm
  rw [h] at hc
  cases hc

theorem isBlank_of_not_mark {c : Char} (h : c ∉ marks) : isBlank c = false := by
  unfold marks at h
  simp only [List.mem_cons, List.not_mem_nil, or_false, not_or] at h
  simp [isBlank, h]

theorem punctuation?_of_not_mark {c : Char} (h : c ∉ marks) : punctuation? c = none := by
  unfold marks at h
  simp only [List.mem_cons, List.not_mem_nil, or_false, not_or] at h
  unfold punctuation?
  split <;> simp_all

/-! ### Numbers -/

theorem not_mark_of_isDigits {cs : List Char} (h : isDigits cs = true) : ∀ c ∈ cs, c ∉ marks := by
  unfold isDigits at h
  rw [Bool.and_eq_true, List.all_eq_true] at h
  exact fun c hm => not_mark_of_isDigit (h.2 c hm)

theorem not_mark_of_isExponent {cs : List Char} (h : isExponent cs = true) :
    ∀ c ∈ cs, c ∉ marks := by
  cases cs with
  | nil => exact fun c hm => absurd hm List.not_mem_nil
  | cons mark cs =>
    unfold isExponent at h
    simp only [Bool.and_eq_true, Bool.or_eq_true, decide_eq_true_eq] at h
    have hmark : mark ∉ marks := by rcases h.1 with rfl | rfl <;> decide
    have hdigits := not_mark_of_isDigits h.2
    have hrest : ∀ c ∈ cs, c ∉ marks := by
      unfold dropSign at hdigits
      split at hdigits
      · exact List.forall_mem_cons.mpr ⟨by decide, hdigits⟩
      · exact List.forall_mem_cons.mpr ⟨by decide, hdigits⟩
      · exact hdigits
    exact List.forall_mem_cons.mpr ⟨hmark, hrest⟩

theorem not_mark_of_parts {cs : List Char}
    (h : ∀ c ∈ cs.dropWhile Char.isDigit, c ∉ marks) : ∀ c ∈ cs, c ∉ marks := by
  intro c hm
  rw [← List.takeWhile_append_dropWhile (p := Char.isDigit) (l := cs), List.mem_append] at hm
  rcases hm with hm | hm
  · exact not_mark_of_isDigit (List.mem_takeWhile_imp hm)
  · exact h c hm

theorem not_mark_of_isNumberTail {cs : List Char} (h : isNumberTail cs = true) :
    ∀ c ∈ cs, c ∉ marks := by
  unfold isNumberTail at h
  split at h
  · next cs =>
    rw [Bool.and_eq_true] at h
    exact List.forall_mem_cons.mpr
      ⟨by decide, not_mark_of_parts (not_mark_of_isExponent h.2)⟩
  · exact not_mark_of_isExponent h

theorem parts_of_number {word : List Char} {token : Token} (h : number? word = some token) :
    ∃ unsigned, (word = unsigned ∨ word = '-' :: unsigned) ∧
      isWhole (unsigned.takeWhile Char.isDigit) = true ∧
      isNumberTail (unsigned.dropWhile Char.isDigit) = true := by
  by_cases hsign : word.head? = some '-'
  · obtain ⟨unsigned, rfl⟩ : ∃ unsigned, word = '-' :: unsigned :=
      ⟨word.tail, List.eq_cons_of_mem_head? hsign⟩
    refine ⟨unsigned, Or.inr rfl, Bool.and_eq_true_iff.mp ?_⟩
    by_contra hshape
    simp [number?, hshape] at h
  · refine ⟨word, Or.inl rfl, Bool.and_eq_true_iff.mp ?_⟩
    by_contra hshape
    simp [number?, hsign, hshape] at h

theorem not_mark_of_number {word : List Char} {token : Token} (h : number? word = some token) :
    ∀ c ∈ word, c ∉ marks := by
  obtain ⟨unsigned, hword, -, htail⟩ := parts_of_number h
  have hunsigned := not_mark_of_parts (not_mark_of_isNumberTail htail)
  rcases hword with rfl | rfl
  · exact hunsigned
  · exact List.forall_mem_cons.mpr ⟨by decide, hunsigned⟩

theorem head?_toDigits {n : Nat} (h : n ≠ 0) : (Nat.toDigits 10 n).head? ≠ some '0' := by
  induction n using Nat.strongRecOn with
  | ind n ih =>
    rcases Nat.lt_or_ge n 10 with hlt | hle
    · have hdigit : ∀ n < 10, n ≠ 0 → Nat.digitChar n ≠ '0' := by decide
      rw [Nat.toDigits_of_lt_base hlt]
      exact fun hc => hdigit n hlt h (Option.some.inj hc)
    · have hfirst := ih (n / 10) (by omega) (by omega)
      rw [Nat.toDigits_of_base_le (by decide) hle, List.head?_append]
      cases hd : (Nat.toDigits 10 (n / 10)).head? with
      | none => exact absurd (List.head?_eq_none_iff.mp hd) Nat.toDigits_ne_nil
      | some c =>
        rw [hd] at hfirst
        exact hfirst

theorem isWhole_toDigits (n : Nat) : isWhole (Nat.toDigits 10 n) = true := by
  by_cases hzero : n = 0
  · subst hzero
    rfl
  · have hhead := head?_toDigits hzero
    have hdigits : ∀ c ∈ Nat.toDigits 10 n, c.isDigit = true := fun c hm =>
      Nat.isDigit_of_mem_toDigits (by decide) (by decide) hm
    cases hd : Nat.toDigits 10 n with
    | nil => exact absurd hd Nat.toDigits_ne_nil
    | cons c cs =>
      rw [hd] at hhead hdigits
      have hc : c ≠ '0' := fun hc => hhead (congrArg some hc)
      unfold isWhole
      split
      · next h => cases h
      · rfl
      · next h =>
        cases h
        simp [hc, isDigits, List.all_eq_true.mpr hdigits]

theorem parts_toDigits (n : Nat) :
    (Nat.toDigits 10 n).takeWhile Char.isDigit = Nat.toDigits 10 n ∧
      (Nat.toDigits 10 n).dropWhile Char.isDigit = [] := by
  have hdigits : ∀ c ∈ Nat.toDigits 10 n, c.isDigit = true := fun c hm =>
    Nat.isDigit_of_mem_toDigits (by decide) (by decide) hm
  exact ⟨List.takeWhile_eq_self_iff.mpr hdigits, List.dropWhile_eq_nil_iff.mpr hdigits⟩

theorem head?_toDigits_ne_minus (n : Nat) : (Nat.toDigits 10 n).head? ≠ some '-' := by
  intro h
  have hdigit := Nat.isDigit_of_mem_toDigits (by decide) (by decide) (List.mem_of_mem_head? h)
  exact absurd hdigit (by decide)

theorem number?_spellInt (value : Int) : number? (Token.spellInt value) = some (.int value) := by
  obtain ⟨hwhole, htail⟩ := parts_toDigits value.natAbs
  have hdigits := isWhole_toDigits value.natAbs
  unfold Token.spellInt
  by_cases hneg : value < 0
  · have hzero : Nat.toDigits 10 value.natAbs ≠ ['0'] := by
      intro hd
      exact head?_toDigits (by omega) (congrArg List.head? hd)
    have hmagnitude : -(value.natAbs : Int) = value := by omega
    rw [if_pos hneg]
    simp only [number?, List.head?_cons, if_true, List.tail_cons, hwhole, htail, hdigits, hzero,
      isNumberTail, isExponent, List.isEmpty_nil, decide_true, decide_false, Bool.and_self,
      Bool.and_false, Bool.not_false, Nat.ofDigitChars_ten_toDigits, hmagnitude]
  · have hsign := head?_toDigits_ne_minus value.natAbs
    have hmagnitude : (value.natAbs : Int) = value := by omega
    rw [if_neg hneg]
    simp only [number?, hsign, if_false, hwhole, htail, hdigits, isNumberTail, isExponent,
      List.isEmpty_nil, decide_false, Bool.and_self, Bool.false_and, Bool.not_false, if_true,
      Nat.ofDigitChars_ten_toDigits, hmagnitude]

/-! ## Tokens one by one -/

namespace Token

/-- The tokens that are written as words. -/
def isWord : Token → Bool
  | .null | .bool _ | .int _ | .real _ => true
  | _ => false

/-- A token with a spelling of its own is spelled as a number that is no plain integer. -/
def IsSpelled : Token → Prop
  | .real spelling => number? spelling.toList = some (.real spelling)
  | _ => True

theorem word?_spell {token : Token} (hword : token.isWord = true) (h : token.IsSpelled) :
    word? token.spell = some token ∧ ∀ c ∈ token.spell, c ∉ marks := by
  have hnumber : ∀ {cs token}, number? cs = some token → word? cs = some token := by
    intro cs token hn
    unfold word?
    split_ifs with hnull htrue hfalse
    · rw [hnull] at hn
      cases hn
    · rw [htrue] at hn
      cases hn
    · rw [hfalse] at hn
      cases hn
    · exact hn
  have hletters : ∀ {cs : List Char}, cs.all (· ∉ marks) = true → ∀ c ∈ cs, c ∉ marks :=
    fun hall c hm => of_decide_eq_true (List.all_eq_true.mp hall c hm)
  cases token with
  | null => exact ⟨rfl, hletters rfl⟩
  | bool value => cases value <;> exact ⟨rfl, hletters rfl⟩
  | int value =>
    exact ⟨hnumber (number?_spellInt value), not_mark_of_number (number?_spellInt value)⟩
  | real spelling => exact ⟨hnumber h, not_mark_of_number h⟩
  | _ => cases hword

end Token

namespace Scanner

/-- Takes characters one after the other. -/
def read? (scanner : Scanner) (cs : List Char) : Option Scanner := cs.foldlM step? scanner

theorem read?_cons {scanner next : Scanner} {c : Char} (h : scanner.step? c = some next)
    (cs : List Char) : scanner.read? (c :: cs) = next.read? cs := by
  unfold read?
  rw [List.foldlM_cons, h]
  rfl

theorem read?_append {scanner next : Scanner} {cs : List Char} (h : scanner.read? cs = some next)
    (more : List Char) : scanner.read? (cs ++ more) = next.read? more := by
  unfold read? at h ⊢
  rw [List.foldlM_append, h]
  rfl

/-- The scanner stands outside texts, and these are its tokens if no word goes on here. -/
def Holds (scanner : Scanner) (tokens : List Token) : Prop :=
  ∃ letters, scanner.place = .word letters ∧ endWord? scanner.tokens letters = some tokens

theorem holds_word (tokens : List Token) : Holds ⟨tokens, .word []⟩ tokens := ⟨[], rfl, rfl⟩

/-! ### Words and punctuation -/

theorem read?_letters {word : List Char} (h : ∀ c ∈ word, c ∉ marks) (tokens : List Token)
    (letters : List Char) :
    read? ⟨tokens, .word letters⟩ word = some ⟨tokens, .word (word.reverse ++ letters)⟩ := by
  induction word generalizing letters with
  | nil => rfl
  | cons c word ih =>
    obtain ⟨hc, hword⟩ := List.forall_mem_cons.mp h
    have hquote : c ≠ '"' := by
      rintro rfl
      exact hc (by decide)
    have hstep : step? ⟨tokens, .word letters⟩ c = some ⟨tokens, .word (c :: letters)⟩ := by
      simp [step?, isBlank_of_not_mark hc, hquote, punctuation?_of_not_mark hc]
    rw [read?_cons hstep, ih hword, List.reverse_cons, List.append_assoc]
    rfl

theorem read?_word {token : Token} (hword : token.isWord = true) (h : token.IsSpelled)
    (tokens : List Token) :
    ∃ next, read? ⟨tokens, .word []⟩ token.spell = some next ∧ next.Holds (token :: tokens) := by
  obtain ⟨hread, hmarks⟩ := Token.word?_spell hword h
  refine ⟨_, read?_letters hmarks tokens [], _, rfl, ?_⟩
  rw [List.append_nil]
  unfold endWord?
  rw [List.reverse_reverse, hread, if_neg]
  · rfl
  · intro hempty
    rw [List.isEmpty_reverse, List.isEmpty_iff] at hempty
    rw [hempty] at hread
    cases hread

theorem read?_punctuation {scanner : Scanner} {tokens : List Token} (h : scanner.Holds tokens)
    {c : Char} {token : Token} (hc : punctuation? c = some token) :
    scanner.read? [c] = some ⟨token :: tokens, .word []⟩ := by
  obtain ⟨letters, hplace, hend⟩ := h
  have hmark : isBlank c = false ∧ c ≠ '"' := by
    unfold punctuation? at hc
    split at hc
    case h_7 => cases hc
    all_goals exact ⟨rfl, by decide⟩
  refine read?_cons ?_ []
  simp [step?, hplace, hmark, hc, hend]

/-! ### Texts -/

theorem hexDigit?_digitChar {n : Nat} (h : n < 16) : hexDigit? (Nat.digitChar n) = some n := by
  revert n
  decide

theorem read?_spellChar (tokens : List Token) (pieces : List TextPiece) (c : Char) :
    read? ⟨tokens, .text pieces⟩ (Token.spellChar c) =
      some ⟨tokens, .text (.char c :: pieces)⟩ := by
  unfold Token.spellChar
  split_ifs with hquote hbackslash hb hf hn hr ht hcontrol
  · rw [hquote]
    rfl
  · rw [hbackslash]
    rfl
  · rw [hb]
    rfl
  · rw [hf]
    rfl
  · rw [hn]
    rfl
  · rw [hr]
    rfl
  · rw [ht]
    rfl
  · -- the two digits that count are those of the character
    have hhigh := hexDigit?_digitChar (show c.toNat / 16 < 16 by omega)
    have hlow := hexDigit?_digitChar (Nat.mod_lt c.toNat (by decide : 0 < 16))
    have hunit : TextPiece.ofUnit (16 * (c.toNat / 16) + c.toNat % 16) = .char c := by
      rw [Nat.div_add_mod]
      unfold TextPiece.ofUnit
      rw [if_neg (by omega), Char.ofNat_toNat]
    have hslash : step? ⟨tokens, .text pieces⟩ '\\' = some ⟨tokens, .escape pieces⟩ := rfl
    have hmark : step? ⟨tokens, .escape pieces⟩ 'u' = some ⟨tokens, .unit pieces 0 0⟩ := rfl
    have hfirst : step? ⟨tokens, .unit pieces 0 0⟩ '0' = some ⟨tokens, .unit pieces 1 0⟩ := rfl
    have hsecond : step? ⟨tokens, .unit pieces 1 0⟩ '0' = some ⟨tokens, .unit pieces 2 0⟩ := rfl
    have hthird : step? ⟨tokens, .unit pieces 2 0⟩ (Nat.digitChar (c.toNat / 16)) =
        some ⟨tokens, .unit pieces 3 (c.toNat / 16)⟩ := by
      simp [step?, hhigh]
    have hfourth : step? ⟨tokens, .unit pieces 3 (c.toNat / 16)⟩ (Nat.digitChar (c.toNat % 16)) =
        some ⟨tokens, .text (.char c :: pieces)⟩ := by
      simp [step?, hlow, hunit]
    rw [read?_cons hslash, read?_cons hmark, read?_cons hfirst, read?_cons hsecond,
      read?_cons hthird, read?_cons hfourth]
    rfl
  · refine read?_cons ?_ []
    simp [step?, hquote, hbackslash, hcontrol]

theorem read?_characters (tokens : List Token) (cs : List Char) (pieces : List TextPiece) :
    read? ⟨tokens, .text pieces⟩ (cs.flatMap Token.spellChar) =
      some ⟨tokens, .text ((cs.map .char).reverse ++ pieces)⟩ := by
  induction cs generalizing pieces with
  | nil => rfl
  | cons c cs ih =>
    rw [List.flatMap_cons, read?_append (read?_spellChar tokens pieces c), ih, List.map_cons,
      List.reverse_cons, List.append_assoc]
    rfl

theorem assemble?_characters (cs : List Char) :
    TextPiece.assemble? (cs.map .char) = some cs := by
  induction cs with
  | nil => rfl
  | cons c cs ih =>
    rw [List.map_cons, TextPiece.assemble?, ih]
    rfl

/-- What stands between the quotes is read as the text. -/
theorem read?_spellText (tokens : List Token) (value : Option String) :
    ∃ pieces, read? ⟨tokens, .text []⟩ (Token.spellText value) = some ⟨tokens, .text pieces⟩ ∧
      (TextPiece.assemble? pieces.reverse).map String.ofList = value := by
  cases value with
  | none => exact ⟨[.surrogate 0xd800], rfl, rfl⟩
  | some value =>
    refine ⟨_, read?_characters tokens value.toList [], ?_⟩
    rw [List.append_nil, List.reverse_reverse, assemble?_characters, Option.map_some,
      String.ofList_toList]

theorem read?_text {scanner : Scanner} {tokens : List Token} (h : scanner.Holds tokens)
    (value : Option String) :
    scanner.read? (Token.text value).spell = some ⟨.text value :: tokens, .word []⟩ := by
  obtain ⟨letters, hplace, hend⟩ := h
  obtain ⟨pieces, hpieces, hvalue⟩ := read?_spellText tokens value
  have hopened : scanner.step? '"' = some ⟨tokens, .text []⟩ := by
    simp [step?, hplace, hend, isBlank]
  have hclosed : step? ⟨tokens, .text pieces⟩ '"' = some ⟨.text value :: tokens, .word []⟩ := by
    simp [step?, hvalue]
  show scanner.read? ('"' :: (Token.spellText value ++ ['"'])) = _
  rw [read?_cons hopened, read?_append hpieces, read?_cons hclosed]
  rfl

/-! ### Any token -/

/-- A token is read, if no word goes on where it begins as a word. -/
theorem read?_token {scanner : Scanner} {tokens : List Token} (h : scanner.Holds tokens)
    {token : Token} (hspelled : token.IsSpelled)
    (hfree : token.isWord = true → scanner = ⟨tokens, .word []⟩) :
    ∃ next, scanner.read? token.spell = some next ∧ next.Holds (token :: tokens) ∧
      (token.isWord = false → next = ⟨token :: tokens, .word []⟩) := by
  cases hword : token.isWord with
  | true =>
    obtain rfl := hfree hword
    obtain ⟨next, hread, hholds⟩ := read?_word hword hspelled tokens
    exact ⟨next, hread, hholds, nofun⟩
  | false =>
    refine ⟨⟨token :: tokens, .word []⟩, ?_, holds_word _, fun _ => rfl⟩
    cases token with
    | text value => exact read?_text h value
    | openBrace | closeBrace | openBracket | closeBracket | comma | colon =>
      exact read?_punctuation h rfl
    | _ => cases hword

end Scanner

/-! ## Tokens in a row -/

namespace Token

/-- Behind a word comes no other word. -/
def Apart (tokens : List Token) : Prop :=
  List.IsChain (fun token next : Token => token.isWord = true → next.isWord = false) tokens

/-- What begins with no word may stand behind everything. -/
theorem Apart.append {tokens more : List Token} (h : Apart tokens) (hmore : Apart more)
    (hfirst : ∀ first ∈ more.head?, first.isWord = false) : Apart (tokens ++ more) :=
  List.isChain_append.mpr ⟨h, hmore, fun _ _ first hm _ => hfirst first hm⟩

/-- In front of everything may stand what is no word. -/
theorem Apart.cons {token : Token} {more : List Token} (htoken : token.isWord = false)
    (hmore : Apart more) : Apart (token :: more) := by
  refine List.isChain_cons.mpr ⟨fun _ _ hword => ?_, hmore⟩
  rw [htoken] at hword
  cases hword

/-- Tokens are read one after the other. -/
theorem read?_spell {scanner : Scanner} {before : List Token} (h : scanner.Holds before)
    {tokens : List Token} (hapart : Apart tokens) (hspelled : ∀ token ∈ tokens, token.IsSpelled)
    (hfree : ∀ first ∈ tokens.head?, first.isWord = true → scanner = ⟨before, .word []⟩) :
    ∃ last, scanner.read? (tokens.flatMap spell) = some last ∧
      last.Holds (tokens.reverse ++ before) := by
  induction tokens generalizing scanner before with
  | nil => exact ⟨scanner, rfl, h⟩
  | cons token tokens ih =>
    obtain ⟨hnext, hrest⟩ := List.isChain_cons.mp hapart
    obtain ⟨htoken, hothers⟩ := List.forall_mem_cons.mp hspelled
    obtain ⟨next, hread, hholds, hplain⟩ := Scanner.read?_token h htoken (hfree token rfl)
    have hfreeNext : ∀ first ∈ tokens.head?, first.isWord = true →
        next = ⟨token :: before, .word []⟩ := by
      intro first hm hword
      refine hplain (Bool.eq_false_iff.mpr fun hw => ?_)
      rw [hnext first hm hw] at hword
      cases hword
    obtain ⟨last, hlast, hheld⟩ := ih hholds hrest hothers hfreeNext
    refine ⟨last, ?_, ?_⟩
    · rw [List.flatMap_cons, Scanner.read?_append hread, hlast]
    · rw [List.reverse_cons, List.append_assoc]
      exact hheld

/-- **Scanning.** The written form of tokens is cut into these tokens. -/
theorem scan?_spell {tokens : List Token} (hapart : Apart tokens)
    (hspelled : ∀ token ∈ tokens, token.IsSpelled) :
    scan? (tokens.flatMap spell) = some tokens := by
  obtain ⟨last, hread, letters, hplace, hend⟩ :=
    read?_spell (Scanner.holds_word []) hapart hspelled fun _ _ _ => rfl
  unfold scan?
  rw [show (tokens.flatMap spell).foldlM Scanner.step? Scanner.start = some last from hread]
  show last.finish? = some tokens
  unfold Scanner.finish?
  rw [hplace]
  dsimp only
  rw [hend, Option.map_some, List.append_nil, List.reverse_reverse]

end Token

/-! ## Values -/

open Token

mutual

/-- In the tokens of a value no word stands next to another one. -/
theorem apart_tokens (json : Json) : Apart json.tokens := by
  match json with
  | .null | .bool _ | .int _ | .real _ | .text _ =>
    unfold tokens
    exact List.isChain_singleton _
  | .list [] =>
    unfold tokens
    exact .cons rfl (List.isChain_singleton _)
  | .list (first :: others) =>
    unfold tokens
    obtain ⟨hothers, hhead⟩ := apart_elementTokens others
    exact .append (.cons rfl (apart_tokens first)) hothers hhead
  | .object [] =>
    unfold tokens
    exact .cons rfl (List.isChain_singleton _)
  | .object ((key, first) :: others) =>
    unfold tokens
    obtain ⟨hothers, hhead⟩ := apart_memberTokens others
    exact .append (.cons rfl (.cons rfl (.cons rfl (apart_tokens first)))) hothers hhead

theorem apart_elementTokens (elements : List Json) :
    Apart (elementTokens elements) ∧
      ∀ first ∈ (elementTokens elements).head?, first.isWord = false := by
  match elements with
  | [] =>
    unfold elementTokens
    refine ⟨List.isChain_singleton _, ?_⟩
    rintro first ⟨⟩
    rfl
  | next :: others =>
    unfold elementTokens
    obtain ⟨hothers, hhead⟩ := apart_elementTokens others
    refine ⟨.append (.cons rfl (apart_tokens next)) hothers hhead, ?_⟩
    rintro first ⟨⟩
    rfl

theorem apart_memberTokens (members : List (Option String × Json)) :
    Apart (memberTokens members) ∧
      ∀ first ∈ (memberTokens members).head?, first.isWord = false := by
  match members with
  | [] =>
    unfold memberTokens
    refine ⟨List.isChain_singleton _, ?_⟩
    rintro first ⟨⟩
    rfl
  | (key, next) :: others =>
    unfold memberTokens
    obtain ⟨hothers, hhead⟩ := apart_memberTokens others
    refine ⟨.append (.cons rfl (.cons rfl (.cons rfl (apart_tokens next)))) hothers hhead, ?_⟩
    rintro first ⟨⟩
    rfl

end

/-- A value in which every number with a spelling of its own is spelled as one. -/
def IsSpelled (json : Json) : Prop := ∀ token ∈ json.tokens, token.IsSpelled

/-- **Texts.** A value is read back from its text. -/
theorem ofText?_compact {json : Json} (h : json.IsSpelled) : ofText? json.compact = some json := by
  unfold ofText? compact
  rw [String.toList_ofList, scan?_spell (apart_tokens json) h]
  exact ofTokens?_tokens json

end StreamDecode.Json
