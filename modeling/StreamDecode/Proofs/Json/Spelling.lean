import StreamDecode.Proofs.Json.Scanning

/-!
# Values that have a text

`Json.IsSpelled` is what a value needs to be read back from its text. It follows from its parts
(`isSpelled_list`, `isSpelled_object`), and every value that is read from a text has it
(`isSpelled_of_ofText?`): a word becomes a number with a spelling of its own only by this spelling,
and neither scanner nor parser makes any other.
-/

namespace StreamDecode.Json

/-! ## Values from their parts -/

theorem isSpelled_null : null.IsSpelled := by
  unfold IsSpelled tokens
  exact List.forall_mem_singleton.mpr trivial

theorem isSpelled_bool (value : Bool) : (bool value).IsSpelled := by
  unfold IsSpelled tokens
  exact List.forall_mem_singleton.mpr trivial

theorem isSpelled_int (value : Int) : (int value).IsSpelled := by
  unfold IsSpelled tokens
  exact List.forall_mem_singleton.mpr trivial

theorem isSpelled_real {spelling : String} (h : (Token.real spelling).IsSpelled) :
    (real spelling).IsSpelled := by
  unfold IsSpelled tokens
  exact List.forall_mem_singleton.mpr h

theorem isSpelled_text (value : Option String) : (text value).IsSpelled := by
  unfold IsSpelled tokens
  exact List.forall_mem_singleton.mpr trivial

theorem isSpelled_elementTokens {elements : List Json}
    (h : ∀ element ∈ elements, element.IsSpelled) :
    ∀ token ∈ elementTokens elements, token.IsSpelled := by
  induction elements with
  | nil =>
    unfold elementTokens
    exact List.forall_mem_singleton.mpr trivial
  | cons next others ih =>
    obtain ⟨hnext, hothers⟩ := List.forall_mem_cons.mp h
    unfold elementTokens
    exact List.forall_mem_append.mpr ⟨List.forall_mem_cons.mpr ⟨trivial, hnext⟩, ih hothers⟩

theorem isSpelled_memberTokens {members : List (Option String × Json)}
    (h : ∀ member ∈ members, member.2.IsSpelled) :
    ∀ token ∈ memberTokens members, token.IsSpelled := by
  induction members with
  | nil =>
    unfold memberTokens
    exact List.forall_mem_singleton.mpr trivial
  | cons member others ih =>
    obtain ⟨hnext, hothers⟩ := List.forall_mem_cons.mp h
    unfold memberTokens
    refine List.forall_mem_append.mpr ⟨?_, ih hothers⟩
    simp only [List.forall_mem_cons]
    exact ⟨trivial, trivial, trivial, hnext⟩

theorem isSpelled_list {elements : List Json} (h : ∀ element ∈ elements, element.IsSpelled) :
    (list elements).IsSpelled := by
  cases elements with
  | nil =>
    unfold IsSpelled tokens
    simp only [List.forall_mem_cons]
    exact ⟨trivial, trivial, nofun⟩
  | cons first others =>
    obtain ⟨hfirst, hothers⟩ := List.forall_mem_cons.mp h
    unfold IsSpelled tokens
    exact List.forall_mem_append.mpr
      ⟨List.forall_mem_cons.mpr ⟨trivial, hfirst⟩, isSpelled_elementTokens hothers⟩

theorem isSpelled_object {members : List (Option String × Json)}
    (h : ∀ member ∈ members, member.2.IsSpelled) : (object members).IsSpelled := by
  cases members with
  | nil =>
    unfold IsSpelled tokens
    simp only [List.forall_mem_cons]
    exact ⟨trivial, trivial, nofun⟩
  | cons first others =>
    obtain ⟨hfirst, hothers⟩ := List.forall_mem_cons.mp h
    unfold IsSpelled tokens
    refine List.forall_mem_append.mpr ⟨?_, isSpelled_memberTokens hothers⟩
    simp only [List.forall_mem_cons]
    exact ⟨trivial, trivial, trivial, hfirst⟩

theorem isSpelled_record {members : List (String × Json)}
    (h : ∀ member ∈ members, member.2.IsSpelled) : (record members).IsSpelled :=
  isSpelled_object (List.forall_mem_map.mpr h)

/-! ## Values that were read -/

theorem foldlM_keeps {State Input : Type} {step? : State → Input → Option State}
    {Good : State → Prop} {Fits : Input → Prop}
    (hstep : ∀ {state next input}, Good state → Fits input → step? state input = some next →
      Good next)
    {inputs : List Input} (hinputs : ∀ input ∈ inputs, Fits input) {state last : State}
    (h : Good state) (hrun : inputs.foldlM step? state = some last) : Good last := by
  induction inputs generalizing state with
  | nil =>
    cases hrun
    exact h
  | cons input inputs ih =>
    obtain ⟨hinput, hothers⟩ := List.forall_mem_cons.mp hinputs
    rw [List.foldlM_cons] at hrun
    obtain ⟨next, hnext, hrest⟩ := Option.bind_eq_some_iff.mp hrun
    exact ih hothers (hstep h hinput hnext) hrest

/-! ### Tokens -/

theorem isSpelled_of_number? {word : List Char} {token : Token} (h : number? word = some token) :
    token.IsSpelled := by
  cases token with
  | real spelling =>
    have hspelling : spelling = String.ofList word := by
      unfold number? at h
      dsimp only at h
      split_ifs at h
      all_goals cases h
      all_goals rfl
    show number? spelling.toList = _
    rw [hspelling, String.toList_ofList, h, hspelling]
  | _ => trivial

theorem isSpelled_of_word? {word : List Char} {token : Token} (h : word? word = some token) :
    token.IsSpelled := by
  unfold word? at h
  split_ifs at h
  · cases h
    trivial
  · cases h
    trivial
  · cases h
    trivial
  · exact isSpelled_of_number? h

namespace Scanner

/-- All tokens that were found are spelled. -/
def Spelled (tokens : List Token) : Prop := ∀ token ∈ tokens, token.IsSpelled

theorem spelled_endWord? {tokens next : List Token} {letters : List Char} (h : Spelled tokens)
    (hend : endWord? tokens letters = some next) : Spelled next := by
  unfold endWord? at hend
  split_ifs at hend
  · cases hend
    exact h
  · obtain ⟨token, hword, rfl⟩ := Option.map_eq_some_iff.mp hend
    exact List.forall_mem_cons.mpr ⟨isSpelled_of_word? hword, h⟩

theorem isSpelled_of_punctuation? {c : Char} {token : Token} (h : punctuation? c = some token) :
    token.IsSpelled := by
  unfold punctuation? at h
  split at h
  all_goals cases h
  all_goals trivial

theorem spelled_step? {scanner next : Scanner} {c : Char} (h : Spelled scanner.tokens)
    (hstep : scanner.step? c = some next) : Spelled next.tokens := by
  obtain ⟨tokens, place⟩ := scanner
  cases place with
  | word letters =>
    unfold step? at hstep
    dsimp only at hstep
    split_ifs at hstep with hblank hquote
    · obtain ⟨ended, hend, rfl⟩ := Option.map_eq_some_iff.mp hstep
      exact spelled_endWord? h hend
    · obtain ⟨ended, hend, rfl⟩ := Option.map_eq_some_iff.mp hstep
      exact spelled_endWord? h hend
    · split at hstep
      · next hmark =>
        obtain ⟨ended, hend, rfl⟩ := Option.map_eq_some_iff.mp hstep
        exact List.forall_mem_cons.mpr
          ⟨isSpelled_of_punctuation? hmark, spelled_endWord? h hend⟩
      · cases hstep
        exact h
  | text pieces =>
    unfold step? at hstep
    dsimp only at hstep
    split_ifs at hstep
    · cases hstep
      exact List.forall_mem_cons.mpr ⟨trivial, h⟩
    · cases hstep
      exact h
    · cases hstep
      exact h
  | escape pieces =>
    unfold step? at hstep
    dsimp only at hstep
    split_ifs at hstep
    · cases hstep
      exact h
    · obtain ⟨_, -, rfl⟩ := Option.map_eq_some_iff.mp hstep
      exact h
  | unit pieces digits value =>
    obtain ⟨digit, -, rfl⟩ := Option.map_eq_some_iff.mp hstep
    split_ifs
    · exact h
    · exact h

/-- The tokens of a text are spelled. -/
theorem spelled_of_scan? {cs : List Char} {tokens : List Token} (h : Token.scan? cs = some tokens) :
    Spelled tokens := by
  obtain ⟨last, hrun, hfinish⟩ := Option.bind_eq_some_iff.mp h
  have hstart : Spelled start.tokens := fun _ hm => absurd hm List.not_mem_nil
  have hlast : Spelled last.tokens :=
    foldlM_keeps (fun hgood _ hstep => spelled_step? hgood hstep) (fun _ _ => trivial) hstart hrun
  unfold finish? at hfinish
  split at hfinish
  · obtain ⟨ended, hend, rfl⟩ := Option.map_eq_some_iff.mp hfinish
    exact fun token hm => spelled_endWord? hlast hend token (List.mem_reverse.mp hm)
  · cases hfinish

end Scanner

/-! ### Values -/

/-- All values in an enclosure are spelled. -/
def Enclosure.IsSpelled : Enclosure → Prop
  | .list elements => ∀ element ∈ elements, element.IsSpelled
  | .object members _ => ∀ member ∈ members, member.2.IsSpelled

namespace Place

/-- All values that a reader holds are spelled. -/
def IsSpelled : Place → Prop
  | .beforeValue around | .listStart around | .objectStart around =>
    ∀ enclosure ∈ around, enclosure.IsSpelled
  | .listNext around elements =>
    (∀ enclosure ∈ around, enclosure.IsSpelled) ∧ ∀ element ∈ elements, element.IsSpelled
  | .objectNext around members | .memberKey around members | .memberColon around members _ =>
    (∀ enclosure ∈ around, enclosure.IsSpelled) ∧ ∀ member ∈ members, member.2.IsSpelled
  | .finished value => value.IsSpelled

theorem isSpelled_after {around : List Enclosure} {value : Json}
    (haround : ∀ enclosure ∈ around, enclosure.IsSpelled) (hvalue : value.IsSpelled) :
    (after around value).IsSpelled := by
  cases around with
  | nil => exact hvalue
  | cons enclosure around =>
    obtain ⟨hfirst, hothers⟩ := List.forall_mem_cons.mp haround
    cases enclosure with
    | list elements => exact ⟨hothers, List.forall_mem_cons.mpr ⟨hvalue, hfirst⟩⟩
    | object members key => exact ⟨hothers, List.forall_mem_cons.mpr ⟨hvalue, hfirst⟩⟩

theorem isSpelled_startValue? {around : List Enclosure} {token : Token} {next : Place}
    (haround : ∀ enclosure ∈ around, enclosure.IsSpelled) (htoken : token.IsSpelled)
    (h : startValue? around token = some next) : next.IsSpelled := by
  cases token with
  | openBrace | openBracket =>
    cases h
    exact haround
  | null =>
    cases h
    exact isSpelled_after haround isSpelled_null
  | bool value =>
    cases h
    exact isSpelled_after haround (isSpelled_bool value)
  | int value =>
    cases h
    exact isSpelled_after haround (isSpelled_int value)
  | real spelling =>
    cases h
    exact isSpelled_after haround (isSpelled_real htoken)
  | text value =>
    cases h
    exact isSpelled_after haround (isSpelled_text value)
  | closeBrace | closeBracket | comma | colon => cases h

theorem isSpelled_step? {place next : Place} {token : Token} (h : place.IsSpelled)
    (htoken : token.IsSpelled) (hstep : place.step? token = some next) : next.IsSpelled := by
  unfold step? at hstep
  split at hstep
  · exact isSpelled_startValue? h htoken hstep
  · cases hstep
    exact isSpelled_after h (isSpelled_list nofun)
  · have hempty : (Enclosure.list []).IsSpelled := fun _ hm => absurd hm List.not_mem_nil
    exact isSpelled_startValue? (List.forall_mem_cons.mpr ⟨hempty, h⟩) htoken hstep
  · cases hstep
    exact List.forall_mem_cons.mpr ⟨h.2, h.1⟩
  · cases hstep
    exact isSpelled_after h.1 (isSpelled_list fun _ hm => h.2 _ (List.mem_reverse.mp hm))
  · cases hstep
    exact isSpelled_after h (isSpelled_object nofun)
  · cases hstep
    exact ⟨h, nofun⟩
  · cases hstep
    exact h
  · cases hstep
    exact isSpelled_after h.1 (isSpelled_object fun _ hm => h.2 _ (List.mem_reverse.mp hm))
  · cases hstep
    exact h
  · cases hstep
    exact List.forall_mem_cons.mpr ⟨h.2, h.1⟩
  · cases hstep

end Place

/-- **Read values.** What is read from a text is spelled. -/
theorem isSpelled_of_ofText? {text : String} {json : Json} (h : ofText? text = some json) :
    json.IsSpelled := by
  obtain ⟨tokens, hscan, hparse⟩ := Option.bind_eq_some_iff.mp h
  obtain ⟨place, hrun, hfinish⟩ := Option.bind_eq_some_iff.mp hparse
  have hplace : place.IsSpelled :=
    foldlM_keeps Place.isSpelled_step? (Scanner.spelled_of_scan? hscan)
      (show (Place.beforeValue []).IsSpelled from nofun) hrun
  unfold Place.finish? at hfinish
  split at hfinish
  · cases hfinish
    exact hplace
  · cases hfinish

end StreamDecode.Json
