import Mathlib.Data.List.Nodup
import StreamDecode.MediaType.Text
import StreamDecode.Proofs.Json.Spelling

/-!
# Media types read back from their text

A media type is read from every text that spells its fields in some order, its attributes in some
order, and perhaps other fields beside them.

1. A record gives its fields wherever they stand in it (`Json.fields?_of_perm`).
2. The values of attributes, with their numbers and bytes, are read as they were written
   (`AttributeValue.ofJson?_toJson`).
3. Attributes with names of their own are the same map in every order
   (`Attributes.ofJson?_of_perm`).

With the tokens of the text (`Json.ofText?_compact`) this makes `MediaType.ofText?_rearranged`.
-/

namespace StreamDecode

namespace Json

/-! ## Records -/

theorem filter_of_mem {members : List (String × Json)} (hnames : (members.map Prod.fst).Nodup)
    {member : String × Json} (hm : member ∈ members) :
    members.filter (·.1 = member.1) = [member] := by
  refine List.perm_singleton.mp ?_
  rw [List.perm_ext_iff_of_nodup (hnames.of_map.filter _) (List.nodup_singleton _)]
  intro other
  rw [List.mem_filter, List.mem_singleton, decide_eq_true_eq]
  constructor
  · rintro ⟨hother, hname⟩
    exact List.inj_on_of_nodup_map hnames hother hm hname
  · rintro rfl
    exact ⟨hm, rfl⟩

section Rearranged

variable {members known unknown : List (String × Json)}

/-- A known field stands once in a record, wherever that is. -/
theorem filter_of_perm (hperm : members.Perm (known ++ unknown))
    (hnames : (known.map Prod.fst).Nodup)
    (hunknown : ∀ member ∈ unknown, member.1 ∉ known.map Prod.fst) {member : String × Json}
    (hm : member ∈ known) :
    (members.map fun (name, value) => (some name, value)).filter (·.1 = some member.1) =
      [(some member.1, member.2)] := by
  have hothers : unknown.filter (·.1 = member.1) = [] := by
    rw [List.filter_eq_nil_iff]
    intro other ho heq
    rw [decide_eq_true_eq] at heq
    exact hunknown other ho (heq ▸ List.mem_map_of_mem hm)
  have hfound : members.filter (·.1 = member.1) = [member] := by
    refine List.perm_singleton.mp ((hperm.filter _).trans ?_)
    rw [List.filter_append, filter_of_mem hnames hm, hothers]
    exact .refl _
  rw [List.filter_map]
  simp only [Function.comp_def, Option.some.injEq]
  rw [hfound]
  rfl

/-- A record has its fields in whatever order they stand, with whatever else it holds. -/
theorem fields?_of_perm (hperm : members.Perm (known ++ unknown))
    (hnames : (known.map Prod.fst).Nodup)
    (hunknown : ∀ member ∈ unknown, member.1 ∉ known.map Prod.fst) :
    ∃ fields, (record members).fields? (known.map Prod.fst) = some fields ∧
      ∀ member ∈ known, fields member.1 = some member.2 := by
  have hproper : (members.map fun (name, value) => (some name, value)).all (·.1.isSome) = true := by
    rw [List.all_map, List.all_eq_true]
    exact fun _ _ => rfl
  have honce : (known.map Prod.fst).all (fun name =>
      ((members.map fun (name, value) => (some name, value)).filter (·.1 = some name)).length ≤ 1) =
        true := by
    rw [List.all_eq_true]
    intro name hname
    obtain ⟨member, hm, rfl⟩ := List.mem_map.mp hname
    rw [filter_of_perm hperm hnames hunknown hm]
    rfl
  refine ⟨_, if_pos ⟨hproper, honce⟩, fun member hm => ?_⟩
  rw [← List.head?_filter, filter_of_perm hperm hnames hunknown hm]
  rfl

end Rearranged

/-! ## Numbers -/

theorem intWithin?_natCast {n : Nat} {high : Int} (h : n ≤ high) :
    (int n).intWithin? 0 high = some (n : Int) :=
  if_pos ⟨Int.natCast_nonneg n, h⟩

theorem u8?_toNat (value : UInt8) : (int value.toNat).u8? = some value := by
  have hlt := value.toNat_lt
  unfold u8?
  rw [intWithin?_natCast (by omega), Option.map_some, Int.toNat_natCast, UInt8.ofNat_toNat]

theorem u32?_toNat (value : UInt32) : (int value.toNat).u32? = some value := by
  have hlt := value.toNat_lt
  unfold u32?
  rw [intWithin?_natCast (by omega), Option.map_some, Int.toNat_natCast, UInt32.ofNat_toNat]

theorem u64?_toNat (value : UInt64) : (int value.toNat).u64? = some value := by
  have hlt := value.toNat_lt
  unfold u64?
  rw [intWithin?_natCast (by omega), Option.map_some, Int.toNat_natCast, UInt64.ofNat_toNat]

theorem listOf?_bytes (bytes : List UInt8) :
    (list (bytes.map fun byte => int byte.toNat)).listOf? u8? = some bytes := by
  unfold listOf?
  dsimp only
  induction bytes with
  | nil => rfl
  | cons byte bytes ih => simp [u8?_toNat, ih]

end Json

/-! ## Values of attributes -/

namespace AttributeValue

/-- A record of two words. -/
def pair (first second : String) (a b : UInt32) : Json :=
  .record [(first, word a), (second, word b)]

theorem ofPair?_pair {first second : String} (hne : first ≠ second)
    (make : UInt32 → UInt32 → AttributeValue) (a b : UInt32) :
    ofPair? first second make (pair first second a b) = some (make a b) := by
  have hnames : [first, second].Nodup := by simpa using hne
  obtain ⟨fields, hfields, hvalues⟩ := Json.fields?_of_perm
    (.refl ([(first, word a), (second, word b)] ++ [])) hnames nofun
  have hfirst := hvalues _ List.mem_cons_self
  have hsecond := hvalues _ (List.mem_cons_of_mem _ List.mem_cons_self)
  unfold ofPair?
  rw [show (pair first second a b).fields? [first, second] = some fields from hfields]
  simp [Json.Fields.required?, hfirst, hsecond, word, Json.u32?_toNat]

theorem ofJson?_toJson (value : AttributeValue) : ofJson? value.toJson = some value := by
  cases value with
  | u32 value =>
    show (Json.int value.toNat).u32?.map u32 = _
    rw [Json.u32?_toNat]
    rfl
  | u64 value =>
    show (Json.int value.toNat).u64?.map u64 = _
    rw [Json.u64?_toNat]
    rfl
  | size value => exact ofPair?_pair (by decide) (fun w h => .size ⟨w, h⟩) value.width value.height
  | ratio num den => exact ofPair?_pair (by decide) ratio num den
  | blob bytes =>
    show (Json.listOf? Json.u8? _).map _ = _
    rw [Json.listOf?_bytes]
    rfl

theorem isSpelled_pair (first second : String) (a b : UInt32) :
    (pair first second a b).IsSpelled := by
  refine Json.isSpelled_record ?_
  simp only [List.forall_mem_cons]
  exact ⟨Json.isSpelled_int _, Json.isSpelled_int _, nofun⟩

theorem isSpelled_toJson (value : AttributeValue) : value.toJson.IsSpelled := by
  cases value with
  | u32 value | u64 value =>
    exact Json.isSpelled_record (List.forall_mem_singleton.mpr (Json.isSpelled_int _))
  | size value =>
    exact Json.isSpelled_record (List.forall_mem_singleton.mpr (isSpelled_pair _ _ _ _))
  | ratio num den =>
    exact Json.isSpelled_record (List.forall_mem_singleton.mpr (isSpelled_pair _ _ _ _))
  | blob bytes =>
    refine Json.isSpelled_record (List.forall_mem_singleton.mpr (Json.isSpelled_list ?_))
    exact List.forall_mem_map.mpr fun byte _ => Json.isSpelled_int byte.toNat

end AttributeValue

/-! ## Attributes -/

namespace Attributes

/-- The members of an object that holds attributes in some order. -/
def members (pairs : List (AttributeKey × AttributeValue)) : List (String × Json) :=
  pairs.map fun (key, value) => (key.name, value.toJson)

/-- The map with all these values set, one after the other. -/
def insertAll (attributes : Attributes) (pairs : List (AttributeKey × AttributeValue)) :
    Attributes :=
  pairs.foldl (fun attributes (key, value) => attributes.insert key value) attributes

theorem lookup_insertAll_of_notMem {pairs : List (AttributeKey × AttributeValue)}
    {key : AttributeKey} (h : key ∉ pairs.map Prod.fst) (attributes : Attributes) :
    (attributes.insertAll pairs).lookup key = attributes.lookup key := by
  induction pairs generalizing attributes with
  | nil => rfl
  | cons pair pairs ih =>
    rw [List.map_cons, List.mem_cons, not_or] at h
    rw [insertAll, List.foldl_cons]
    exact (ih h.2 _).trans (if_neg h.1)

theorem lookup_insertAll_of_mem {pairs : List (AttributeKey × AttributeValue)}
    (hkeys : (pairs.map Prod.fst).Nodup) {key : AttributeKey} {value : AttributeValue}
    (h : (key, value) ∈ pairs) (attributes : Attributes) :
    (attributes.insertAll pairs).lookup key = some value := by
  induction pairs generalizing attributes with
  | nil => cases h
  | cons pair pairs ih =>
    obtain ⟨hfirst, hothers⟩ := List.nodup_cons.mp hkeys
    rw [insertAll, List.foldl_cons]
    rcases List.mem_cons.mp h with rfl | hm
    · exact (lookup_insertAll_of_notMem hfirst _).trans (if_pos rfl)
    · exact ih hothers hm _

theorem nodup_entries (attributes : Attributes) : (attributes.entries.map Prod.fst).Nodup := by
  have hall : AttributeKey.all.Nodup := by decide
  unfold entries List.Nodup
  rw [List.pairwise_map, List.pairwise_filterMap]
  refine hall.imp fun hne first hfirst second hsecond => ?_
  obtain ⟨_, -, rfl⟩ := Option.map_eq_some_iff.mp hfirst
  obtain ⟨_, -, rfl⟩ := Option.map_eq_some_iff.mp hsecond
  exact hne

theorem insertAll_of_perm {attributes : Attributes} {pairs : List (AttributeKey × AttributeValue)}
    (h : pairs.Perm attributes.entries) : empty.insertAll pairs = attributes := by
  have hkeys : (pairs.map Prod.fst).Nodup := (h.map Prod.fst).nodup_iff.mpr attributes.nodup_entries
  ext1 key
  cases hvalue : attributes.lookup key with
  | some value => exact lookup_insertAll_of_mem hkeys (h.mem_iff.mpr (mem_entries_iff.mpr hvalue)) _
  | none =>
    refine lookup_insertAll_of_notMem (fun hm => ?_) _
    obtain ⟨⟨_, value⟩, hpair, rfl⟩ := List.mem_map.mp hm
    rw [mem_entries_iff.mp (h.mem_iff.mp hpair)] at hvalue
    cases hvalue

theorem insertMember?_toJson (attributes : Attributes) (key : AttributeKey)
    (value : AttributeValue) :
    attributes.insertMember? (some key.name, value.toJson) =
      some (attributes.insert key value) := by
  have hkey : AttributeKey.all.find? (·.name = key.name) = some key := by cases key <;> rfl
  simp [insertMember?, hkey, AttributeValue.ofJson?_toJson]

theorem foldlM_insertMember? (pairs : List (AttributeKey × AttributeValue))
    (attributes : Attributes) :
    ((members pairs).map fun (name, value) => (some name, value)).foldlM insertMember? attributes =
      some (attributes.insertAll pairs) := by
  induction pairs generalizing attributes with
  | nil => rfl
  | cons pair pairs ih =>
    unfold members
    rw [List.map_cons, List.map_cons, List.foldlM_cons, insertMember?_toJson]
    exact ih _

/-- **Attributes.** They are read from an object that holds them in any order. -/
theorem ofJson?_of_perm {attributes : Attributes} {pairs : List (AttributeKey × AttributeValue)}
    (h : pairs.Perm attributes.entries) :
    ofJson? (.record (members pairs)) = some attributes := by
  show List.foldlM insertMember? empty _ = _
  rw [foldlM_insertMember?, insertAll_of_perm h]

theorem isSpelled_members (pairs : List (AttributeKey × AttributeValue)) :
    (Json.record (members pairs)).IsSpelled :=
  Json.isSpelled_record (List.forall_mem_map.mpr fun pair _ => pair.2.isSpelled_toJson)

end Attributes

/-! ## Media types -/

namespace MediaType

/-- The fields of a media type with its attributes in some order. -/
def members (type : MediaType) (pairs : List (AttributeKey × AttributeValue)) :
    List (String × Json) :=
  [("kind", .text (some type.kind.name)), ("codec", .text (some type.coding.name)),
    ("attributes", .record (Attributes.members pairs))]

theorem toJson_eq_members (type : MediaType) :
    type.toJson = .record (type.members type.attributes.entries) := rfl

theorem named?_kind (kind : StreamKind) :
    Json.named? StreamKind.all StreamKind.name (.text (some kind.name)) = some kind := by
  cases kind <;> rfl

theorem named?_coding (coding : Coding) :
    Json.named? Coding.all Coding.name (.text (some coding.name)) = some coding := by
  cases coding <;> rfl

variable {type : MediaType} {pairs : List (AttributeKey × AttributeValue)}
  {unknown members : List (String × Json)}

/-- A media type is read from a record with its fields in any order and others beside them. -/
theorem ofJson?_of_perm (hpairs : pairs.Perm type.attributes.entries)
    (hunknown : ∀ member ∈ unknown, member.1 ∉ ["kind", "codec", "attributes"])
    (hmembers : members.Perm (type.members pairs ++ unknown)) :
    ofJson? (.record members) = some type := by
  have hnames : ["kind", "codec", "attributes"].Nodup := by decide
  obtain ⟨fields, hfields, hvalues⟩ := Json.fields?_of_perm hmembers hnames hunknown
  unfold MediaType.members at hvalues
  simp only [List.forall_mem_cons] at hvalues
  obtain ⟨hkind, hcoding, hattributes, -⟩ := hvalues
  unfold ofJson?
  rw [show Json.fields? ["kind", "codec", "attributes"] _ = some fields from hfields]
  simp [Json.Fields.required?, Json.Fields.optional?, hkind, hcoding, hattributes, named?_kind,
    named?_coding, Attributes.ofJson?_of_perm hpairs]

theorem isSpelled_of_perm (hmembers : members.Perm (type.members pairs ++ unknown))
    (hunknown : ∀ member ∈ unknown, member.2.IsSpelled) : (Json.record members).IsSpelled := by
  refine Json.isSpelled_record fun member hm => ?_
  rcases List.mem_append.mp (hmembers.mem_iff.mp hm) with hm | hm
  · have hknown : ∀ member ∈ type.members pairs, member.2.IsSpelled := by
      unfold MediaType.members
      simp only [List.forall_mem_cons]
      exact ⟨Json.isSpelled_text _, Json.isSpelled_text _, Attributes.isSpelled_members pairs,
        nofun⟩
    exact hknown member hm
  · exact hunknown member hm

theorem ofText?_of_perm (hpairs : pairs.Perm type.attributes.entries)
    (hunknown : ∀ member ∈ unknown, member.1 ∉ ["kind", "codec", "attributes"])
    (hmembers : members.Perm (type.members pairs ++ unknown)) {text : String}
    (htext : Json.ofText? text = some (.record members)) : ofText? text = some type := by
  unfold ofText?
  rw [htext]
  exact ofJson?_of_perm hpairs hunknown hmembers

/-- A media type is read back from its text. -/
theorem ofText?_toText (type : MediaType) : ofText? type.toText = some type := by
  have hmembers : (type.members type.attributes.entries).Perm
      (type.members type.attributes.entries ++ []) := by
    rw [List.append_nil]
  have hunknown : ∀ {P : String × Json → Prop}, ∀ member ∈ [], P member := nofun
  unfold toText
  rw [toJson_eq_members]
  exact ofText?_of_perm (.refl _) hunknown hmembers
    (Json.ofText?_compact (isSpelled_of_perm hmembers hunknown))

/-- **Round trip.** A media type is read from its text, and from every text of its fields in any
order, with its attributes in any order and with any other fields beside them. -/
theorem ofText?_rearranged (type : MediaType) :
    ofText? type.toText = some type ∧
      ∀ (pairs : List (AttributeKey × AttributeValue)) (unknown members : List (String × Json)),
        pairs.Perm type.attributes.entries →
        (∀ member ∈ unknown, member.1 ∉ ["kind", "codec", "attributes"]) →
        members.Perm (type.members pairs ++ unknown) →
        (∀ text, Json.ofText? text = some (.record members) → ofText? text = some type) ∧
          ((∀ member ∈ unknown, ∃ text, Json.ofText? text = some member.2) →
            ofText? (Json.record members).compact = some type) := by
  refine ⟨ofText?_toText type, fun pairs unknown members hpairs hunknown hmembers => ⟨?_, ?_⟩⟩
  · intro text htext
    exact ofText?_of_perm hpairs hunknown hmembers htext
  · intro htexts
    have hspelled : ∀ member ∈ unknown, member.2.IsSpelled := by
      intro member hm
      obtain ⟨text, htext⟩ := htexts member hm
      exact Json.isSpelled_of_ofText? htext
    exact ofText?_of_perm hpairs hunknown hmembers
      (Json.ofText?_compact (isSpelled_of_perm hmembers hspelled))

/-! ### A video stream with its fields the other way round -/

/-- A video stream with a size, the highest bit rate and an empty header. -/
def annotatedVideo : MediaType :=
  ((video .h264 ⟨640, 360⟩).set .avgBitrate (.u64 0xffffffffffffffff)).set .userData (.blob #[])

theorem ofText?_rearranged_reversed :
    ofText? (Json.record (("note", .list [.null, .int (-1)]) ::
      (annotatedVideo.members annotatedVideo.attributes.entries.reverse).reverse)).compact =
        some annotatedVideo := by
  have hunknown : ∀ member ∈ [("note", Json.list [.null, .int (-1)])],
      member.1 ∉ ["kind", "codec", "attributes"] := by
    rw [List.forall_mem_singleton]
    decide
  have htexts : ∀ member ∈ [("note", Json.list [.null, .int (-1)])],
      ∃ text, Json.ofText? text = some member.2 := by
    refine List.forall_mem_singleton.mpr ⟨_, Json.ofText?_compact (Json.isSpelled_list ?_)⟩
    simp only [List.forall_mem_cons]
    exact ⟨Json.isSpelled_null, Json.isSpelled_int _, nofun⟩
  have hmembers : (("note", .list [.null, .int (-1)]) ::
      (annotatedVideo.members annotatedVideo.attributes.entries.reverse).reverse).Perm
        (annotatedVideo.members annotatedVideo.attributes.entries.reverse ++
          [("note", .list [.null, .int (-1)])]) :=
    ((List.reverse_perm _).cons _).trans (List.perm_append_singleton _ _).symm
  exact ((ofText?_rearranged annotatedVideo).2 _ _ _ (List.reverse_perm _) hunknown hmembers).2
    htexts

end MediaType

end StreamDecode
