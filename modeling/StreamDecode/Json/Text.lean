import StreamDecode.Json.Basic
import StreamDecode.Json.Token

/-!
# JSON text

`Json.compact` writes a value without blanks and `Json.ofText?` reads a text. Both go through the
tokens of the text: `Json.tokens` lists the tokens of a value, and `Json.ofTokens?` takes one token
after the other, remembering the lists and objects around the place where it stands.
-/

namespace StreamDecode.Json

/-! ### Writing -/

mutual

/-- The tokens of a value. -/
def tokens : Json → List Token
  | .null => [.null]
  | .bool value => [.bool value]
  | .int value => [.int value]
  | .real spelling => [.real spelling]
  | .text value => [.text value]
  | .list [] => [.openBracket, .closeBracket]
  | .list (first :: rest) => .openBracket :: first.tokens ++ elementTokens rest
  | .object [] => [.openBrace, .closeBrace]
  | .object ((key, first) :: rest) =>
    .openBrace :: .text key :: .colon :: first.tokens ++ memberTokens rest

/-- The tokens after an element of a list. -/
def elementTokens : List Json → List Token
  | [] => [.closeBracket]
  | next :: rest => .comma :: next.tokens ++ elementTokens rest

/-- The tokens after a member of an object. -/
def memberTokens : List (Option String × Json) → List Token
  | [] => [.closeBrace]
  | (key, next) :: rest => .comma :: .text key :: .colon :: next.tokens ++ memberTokens rest

end

/-- A value as text without blanks. -/
def compact (json : Json) : String := String.ofList (json.tokens.flatMap Token.spell)

/-! ### Reading -/

/-- A list or an object that is being read, with what it holds so far, the last one in front. -/
inductive Enclosure where
  | list (elements : List Json)
  | object (members : List (Option String × Json)) (key : Option String)

/-- Where a reader stands, inside the enclosures around it, the innermost one in front. -/
inductive Place where
  | beforeValue (around : List Enclosure)
  | listStart (around : List Enclosure)
  | listNext (around : List Enclosure) (elements : List Json)
  | objectStart (around : List Enclosure)
  | objectNext (around : List Enclosure) (members : List (Option String × Json))
  | memberKey (around : List Enclosure) (members : List (Option String × Json))
  | memberColon (around : List Enclosure) (members : List (Option String × Json))
      (key : Option String)
  | finished (value : Json)

namespace Place

def after : List Enclosure → Json → Place
  | [], value => .finished value
  | .list elements :: around, value => .listNext around (value :: elements)
  | .object members key :: around, value => .objectNext around ((key, value) :: members)

/-- Takes the first token of a value. -/
def startValue? (around : List Enclosure) : Token → Option Place
  | .openBrace => some (.objectStart around)
  | .openBracket => some (.listStart around)
  | .null => some (after around .null)
  | .bool value => some (after around (.bool value))
  | .int value => some (after around (.int value))
  | .real spelling => some (after around (.real spelling))
  | .text value => some (after around (.text value))
  | _ => none

/-- Takes one token. -/
def step? : Place → Token → Option Place
  | .beforeValue around, token => startValue? around token
  | .listStart around, .closeBracket => some (after around (.list []))
  | .listStart around, token => startValue? (.list [] :: around) token
  | .listNext around elements, .comma => some (.beforeValue (.list elements :: around))
  | .listNext around elements, .closeBracket => some (after around (.list elements.reverse))
  | .objectStart around, .closeBrace => some (after around (.object []))
  | .objectStart around, .text key => some (.memberColon around [] key)
  | .objectNext around members, .comma => some (.memberKey around members)
  | .objectNext around members, .closeBrace => some (after around (.object members.reverse))
  | .memberKey around members, .text key => some (.memberColon around members key)
  | .memberColon around members key, .colon => some (.beforeValue (.object members key :: around))
  | _, _ => none

/-- The value, if the text may end here. -/
def finish? : Place → Option Json
  | .finished value => some value
  | _ => none

end Place

/-- The value that tokens spell. -/
def ofTokens? (tokens : List Token) : Option Json :=
  (tokens.foldlM Place.step? (.beforeValue [])).bind Place.finish?

/-- The value of a text, which may have blanks around every token and nothing else beside it. -/
def ofText? (text : String) : Option Json := (Token.scan? text.toList).bind ofTokens?

end StreamDecode.Json
