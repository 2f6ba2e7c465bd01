import StreamDecode.Json.Text

/-!
# Parsing what was written

The tokens of a value are read back as this value, wherever it stands: a reader that stands before
them goes on after the value (`Place.read_tokens`). The proof follows the three functions that write
tokens, for a value and for what comes after an element of a list or a member of an object, with the
enclosures around the place left open.
-/

namespace StreamDecode.Json

namespace Place

/-- Takes tokens one after the other. -/
def read? (place : Place) (tokens : List Token) : Option Place := tokens.foldlM step? place

theorem read?_cons {place next : Place} {token : Token} (h : place.step? token = some next)
    (rest : List Token) : place.read? (token :: rest) = next.read? rest := by
  unfold read?
  rw [List.foldlM_cons, h]
  rfl

theorem tokens_ne_closeBracket (json : Json) :
    ∃ first rest, json.tokens = first :: rest ∧ first ≠ .closeBracket := by
  rcases json with _ | value | value | spelling | value | ⟨_ | ⟨first, rest⟩⟩ |
    ⟨_ | ⟨⟨key, first⟩, rest⟩⟩
  all_goals
    unfold tokens
    exact ⟨_, _, rfl, nofun⟩

theorem read?_listStart (around : List Enclosure) (json : Json) (rest : List Token) :
    (listStart around).read? (json.tokens ++ rest) =
      (beforeValue (.list [] :: around)).read? (json.tokens ++ rest) := by
  obtain ⟨first, more, htokens, hfirst⟩ := tokens_ne_closeBracket json
  have hstep : (listStart around).step? first = (beforeValue (.list [] :: around)).step? first := by
    cases first with
    | closeBracket => exact absurd rfl hfirst
    | _ => rfl
  unfold read?
  rw [htokens, List.cons_append, List.foldlM_cons, List.foldlM_cons, hstep]

mutual

/-- A reader before the tokens of a value goes on after the value. -/
theorem read?_tokens (json : Json) (around : List Enclosure) (rest : List Token) :
    (beforeValue around).read? (json.tokens ++ rest) = (after around json).read? rest := by
  match json with
  | .null | .bool _ | .int _ | .real _ | .text _ =>
    unfold tokens
    exact read?_cons rfl rest
  | .list [] =>
    unfold tokens
    rw [List.cons_append, read?_cons rfl]
    exact read?_cons rfl rest
  | .list (first :: others) =>
    unfold tokens
    rw [List.cons_append, List.cons_append, read?_cons rfl, List.append_assoc, read?_listStart,
      read?_tokens first]
    exact read?_elementTokens others around [first] rest
  | .object [] =>
    unfold tokens
    rw [List.cons_append, read?_cons rfl]
    exact read?_cons rfl rest
  | .object ((key, first) :: others) =>
    unfold tokens
    simp only [List.cons_append, List.append_assoc]
    rw [read?_cons rfl, read?_cons rfl, read?_cons rfl, read?_tokens first]
    exact read?_memberTokens others around [(key, first)] rest

theorem read?_elementTokens (elements : List Json) (around : List Enclosure) (done : List Json)
    (rest : List Token) :
    (listNext around done).read? (elementTokens elements ++ rest) =
      (after around (.list (done.reverse ++ elements))).read? rest := by
  match elements with
  | [] =>
    unfold elementTokens
    rw [List.append_nil]
    exact read?_cons rfl rest
  | next :: others =>
    unfold elementTokens
    rw [List.cons_append, List.cons_append, read?_cons rfl, List.append_assoc, read?_tokens next]
    have hothers := read?_elementTokens others around (next :: done) rest
    rw [List.reverse_cons, List.append_assoc] at hothers
    exact hothers

theorem read?_memberTokens (members : List (Option String × Json)) (around : List Enclosure)
    (done : List (Option String × Json)) (rest : List Token) :
    (objectNext around done).read? (memberTokens members ++ rest) =
      (after around (.object (done.reverse ++ members))).read? rest := by
  match members with
  | [] =>
    unfold memberTokens
    rw [List.append_nil]
    exact read?_cons rfl rest
  | (key, next) :: others =>
    unfold memberTokens
    simp only [List.cons_append, List.append_assoc]
    rw [read?_cons rfl, read?_cons rfl, read?_cons rfl, read?_tokens next]
    have hothers := read?_memberTokens others around ((key, next) :: done) rest
    rw [List.reverse_cons, List.append_assoc] at hothers
    exact hothers

end

end Place

/-- **Tokens.** The tokens of a value spell this value. -/
theorem ofTokens?_tokens (json : Json) : ofTokens? json.tokens = some json := by
  have hread := Place.read?_tokens json [] []
  rw [List.append_nil] at hread
  unfold ofTokens?
  rw [show json.tokens.foldlM Place.step? (.beforeValue []) = some (.finished json) from hread]
  rfl

end StreamDecode.Json
