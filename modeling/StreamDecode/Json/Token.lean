/-!
# Tokens of JSON text

`Token.spell` writes a token and `Token.scan?` cuts a text into its tokens. The scanner takes one
character after the other: outside texts, blanks, punctuation and quotes end a word, and a word is
`null`, `true`, `false` or a number; inside texts, a backslash starts an escape.
-/

namespace StreamDecode.Json

/-- A token of JSON text. -/
inductive Token where
  | openBrace
  | closeBrace
  | openBracket
  | closeBracket
  | comma
  | colon
  | null
  | bool (value : Bool)
  | int (value : Int)
  | real (spelling : String)
  | text (value : Option String)
deriving DecidableEq, Repr

/-! ### Words -/

/-- Whether there are digits and nothing else. -/
def isDigits (cs : List Char) : Bool := !cs.isEmpty && cs.all Char.isDigit

/-- Whether digits are the integer part of a number: not empty, and without a leading zero. -/
def isWhole : List Char → Bool
  | [] => false
  | ['0'] => true
  | c :: cs => c ≠ '0' && isDigits (c :: cs)

/-- What follows an optional sign. -/
def dropSign : List Char → List Char
  | '+' :: cs => cs
  | '-' :: cs => cs
  | cs => cs

/-- Whether nothing follows, or the mark of an exponent with its digits. -/
def isExponent : List Char → Bool
  | [] => true
  | c :: cs => (c = 'e' || c = 'E') && isDigits (dropSign cs)

/-- Whether characters are what may follow the integer part of a number: a fraction, an exponent,
both or nothing. -/
def isNumberTail : List Char → Bool
  | '.' :: cs =>
    !(cs.takeWhile Char.isDigit).isEmpty && isExponent (cs.dropWhile Char.isDigit)
  | cs => isExponent cs

/-- The number that a word spells. Minus zero is no integer, because no integer has that sign. -/
def number? (word : List Char) : Option Token :=
  let negative := word.head? = some '-'
  let unsigned := if negative then word.tail else word
  let whole := unsigned.takeWhile Char.isDigit
  let tail := unsigned.dropWhile Char.isDigit
  if isWhole whole && isNumberTail tail then
    if tail.isEmpty && !(negative && whole = ['0']) then
      let magnitude : Int := Nat.ofDigitChars 10 whole 0
      some (.int (if negative then -magnitude else magnitude))
    else some (.real (String.ofList word))
  else none

/-- The token that a word stands for. -/
def word? (word : List Char) : Option Token :=
  if word = ['n', 'u', 'l', 'l'] then some .null
  else if word = ['t', 'r', 'u', 'e'] then some (.bool true)
  else if word = ['f', 'a', 'l', 's', 'e'] then some (.bool false)
  else number? word

/-! ### Texts -/

/-- A piece of a text: a character, or half of a surrogate pair from an escape. -/
inductive TextPiece where
  | char (c : Char)
  | surrogate (unit : Nat)
deriving DecidableEq, Repr

namespace TextPiece

/-- The piece that an escaped code unit of 16 bits stands for. -/
def ofUnit (unit : Nat) : TextPiece :=
  if 0xd800 ≤ unit ∧ unit < 0xe000 then .surrogate unit else .char (Char.ofNat unit)

/-- The characters of a text; each pair of surrogates becomes one. -/
def assemble? : List TextPiece → Option (List Char)
  | [] => some []
  | .char c :: pieces => (assemble? pieces).map (c :: ·)
  | .surrogate high :: .surrogate low :: pieces =>
    if high < 0xdc00 ∧ 0xdc00 ≤ low then
      (assemble? pieces).map (Char.ofNat (0x10000 + (high - 0xd800) * 0x400 + (low - 0xdc00)) :: ·)
    else none
  | .surrogate _ :: _ => none

end TextPiece

/-- The character of a short escape. -/
def unescape? : Char → Option Char
  | '"' => some '"'
  | '\\' => some '\\'
  | '/' => some '/'
  | 'b' => some '\x08'
  | 'f' => some '\x0c'
  | 'n' => some '\n'
  | 'r' => some '\r'
  | 't' => some '\t'
  | _ => none

/-- The value of a hexadecimal digit. -/
def hexDigit? (c : Char) : Option Nat :=
  if '0' ≤ c ∧ c ≤ '9' then some (c.toNat - '0'.toNat)
  else if 'a' ≤ c ∧ c ≤ 'f' then some (c.toNat - 'a'.toNat + 10)
  else if 'A' ≤ c ∧ c ≤ 'F' then some (c.toNat - 'A'.toNat + 10)
  else none

/-! ### Scanning -/

/-- Where a scanner stands: in a word (the empty word is the place between tokens), in a text, after
a backslash, or after the first digits of an escaped code unit. What has been read is reversed. -/
inductive ScanPlace where
  | word (letters : List Char)
  | text (pieces : List TextPiece)
  | escape (pieces : List TextPiece)
  | unit (pieces : List TextPiece) (digits value : Nat)

/-- A scanner with the tokens it has found, the last one in front. -/
structure Scanner where
  tokens : List Token
  place : ScanPlace

/-- Whether a character separates tokens and means nothing else. -/
def isBlank (c : Char) : Bool := c = ' ' || c = '\n' || c = '\t' || c = '\r'

/-- The token of a punctuation character. -/
def punctuation? : Char → Option Token
  | '\x7b' => some .openBrace
  | '\x7d' => some .closeBrace
  | '[' => some .openBracket
  | ']' => some .closeBracket
  | ',' => some .comma
  | ':' => some .colon
  | _ => none

namespace Scanner

/-- The scanner before the first character. -/
def start : Scanner := ⟨[], .word []⟩

/-- The tokens after the end of a word. -/
def endWord? (tokens : List Token) (letters : List Char) : Option (List Token) :=
  if letters.isEmpty then some tokens else (word? letters.reverse).map (· :: tokens)

/-- Takes one character. -/
def step? (scanner : Scanner) (c : Char) : Option Scanner :=
  match scanner.place with
  | .word letters =>
    if isBlank c then (endWord? scanner.tokens letters).map (⟨·, .word []⟩)
    else if c = '"' then (endWord? scanner.tokens letters).map (⟨·, .text []⟩)
    else
      match punctuation? c with
      | some token => (endWord? scanner.tokens letters).map (⟨token :: ·, .word []⟩)
      | none => some ⟨scanner.tokens, .word (c :: letters)⟩
  | .text pieces =>
    if c = '"' then
      let value := (TextPiece.assemble? pieces.reverse).map String.ofList
      some ⟨.text value :: scanner.tokens, .word []⟩
    else if c = '\\' then some ⟨scanner.tokens, .escape pieces⟩
    else if c.toNat < 0x20 then none
    else some ⟨scanner.tokens, .text (.char c :: pieces)⟩
  | .escape pieces =>
    if c = 'u' then some ⟨scanner.tokens, .unit pieces 0 0⟩
    else (unescape? c).map fun c => ⟨scanner.tokens, .text (.char c :: pieces)⟩
  | .unit pieces digits value =>
    (hexDigit? c).map fun digit =>
      if digits = 3 then ⟨scanner.tokens, .text (.ofUnit (16 * value + digit) :: pieces)⟩
      else ⟨scanner.tokens, .unit pieces (digits + 1) (16 * value + digit)⟩

/-- The tokens in order, if the text may end here. -/
def finish? (scanner : Scanner) : Option (List Token) :=
  match scanner.place with
  | .word letters => (endWord? scanner.tokens letters).map List.reverse
  | _ => none

end Scanner

namespace Token

/-- The tokens of a text. -/
def scan? (cs : List Char) : Option (List Token) :=
  (cs.foldlM Scanner.step? Scanner.start).bind Scanner.finish?

/-! ### Spelling -/

/-- A character in a written text. -/
def spellChar (c : Char) : List Char :=
  if c = '"' then ['\\', '"']
  else if c = '\\' then ['\\', '\\']
  else if c = '\x08' then ['\\', 'b']
  else if c = '\x0c' then ['\\', 'f']
  else if c = '\n' then ['\\', 'n']
  else if c = '\r' then ['\\', 'r']
  else if c = '\t' then ['\\', 't']
  else if c.toNat < 0x20 then
    ['\\', 'u', '0', '0', Nat.digitChar (c.toNat / 16), Nat.digitChar (c.toNat % 16)]
  else [c]

/-- The characters of a written text between its quotes; half of a surrogate pair stands for one
that is no proper text. -/
def spellText : Option String → List Char
  | some value => value.toList.flatMap spellChar
  | none => ['\\', 'u', 'd', '8', '0', '0']

/-- An integer in decimal notation. -/
def spellInt (value : Int) : List Char :=
  if value < 0 then '-' :: Nat.toDigits 10 value.natAbs else Nat.toDigits 10 value.natAbs

/-- The written form of a token. -/
def spell : Token → List Char
  | .openBrace => ['\x7b']
  | .closeBrace => ['\x7d']
  | .openBracket => ['[']
  | .closeBracket => [']']
  | .comma => [',']
  | .colon => [':']
  | .null => ['n', 'u', 'l', 'l']
  | .bool true => ['t', 'r', 'u', 'e']
  | .bool false => ['f', 'a', 'l', 's', 'e']
  | .int value => spellInt value
  | .real spelling => spelling.toList
  | .text value => '"' :: spellText value ++ ['"']

end Token

end StreamDecode.Json
