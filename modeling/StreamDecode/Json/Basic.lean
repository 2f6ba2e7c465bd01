/-!
# JSON values

`Json` is the tree of a JSON text. Texts may be written with escapes that denote no character, half
of a surrogate pair; such a text is `none`. Numbers that are not written as plain integers keep
their spelling.

Below are the readings of single values. `Json.fields?` reads a record: an object, or a list of the
values in order; `Json.variant?` reads a named alternative: its name, or an object with its payload.
-/

namespace StreamDecode

/-- The tree of a JSON text; the members of an object keep their order. -/
inductive Json where
  | null
  | bool (value : Bool)
  | int (value : Int)
  | real (spelling : String)
  | text (value : Option String)
  | list (elements : List Json)
  | object (members : List (Option String × Json))

namespace Json

/-- An object whose names are proper texts. -/
def record (members : List (String × Json)) : Json :=
  .object (members.map fun (name, value) => (some name, value))

/-! ### Single values -/

def bool? : Json → Option Bool
  | .bool value => some value
  | _ => none

/-- An integer between two bounds. -/
def intWithin? (low high : Int) : Json → Option Int
  | .int value => if low ≤ value ∧ value ≤ high then some value else none
  | _ => none

def u8? (json : Json) : Option UInt8 :=
  (json.intWithin? 0 0xff).map fun value => UInt8.ofNat value.toNat

def u32? (json : Json) : Option UInt32 :=
  (json.intWithin? 0 0xffffffff).map fun value => UInt32.ofNat value.toNat

def u64? (json : Json) : Option UInt64 :=
  (json.intWithin? 0 0xffffffffffffffff).map fun value => UInt64.ofNat value.toNat

def i64? (json : Json) : Option Int64 :=
  (json.intWithin? Int64.minValue.toInt Int64.maxValue.toInt).map Int64.ofInt

/-- A proper text. -/
def text? : Json → Option String
  | .text value => value
  | _ => none

/-- A list of which every element is read. -/
def listOf? {α : Type} (read : Json → Option α) : Json → Option (List α)
  | .list elements => elements.mapM read
  | _ => none

/-- A value that may be `null`. -/
def nullable? {α : Type} (read : Json → Option α) : Json → Option (Option α)
  | .null => some none
  | json => (read json).map some

/-! ### Records and alternatives -/

/-- The values of a record by the names of its fields. -/
abbrev Fields := String → Option Json

/-- A record with the given fields. An object may have other members too, but its names are proper
texts and no field occurs twice; a list holds the values in order and may end early. -/
def fields? (names : List String) : Json → Option Fields
  | .object members =>
    if members.all (·.1.isSome) ∧
        names.all (fun name => (members.filter (·.1 = some name)).length ≤ 1) then
      some fun name => (members.find? (·.1 = some name)).map Prod.snd
    else none
  | .list elements =>
    if elements.length ≤ names.length then
      some fun name => (names.idxOf? name).bind (elements[·]?)
    else none
  | _ => none

namespace Fields

def required? {α : Type} (fields : Fields) (name : String) (read : Json → Option α) : Option α :=
  (fields name).bind read

/-- A field with a default value. -/
def optional? {α : Type} (fields : Fields) (name : String) (read : Json → Option α)
    (default : α) : Option α :=
  match fields name with
  | none => some default
  | some value => read value

end Fields

/-- A named alternative with its payload, if it has one. -/
def variant? : Json → Option (String × Option Json)
  | .text (some name) => some (name, none)
  | .object [(some name, payload)] => some (name, some payload)
  | _ => none

/-- One of a list of values by its name; an alternative without payload may be given one that is
`null`. -/
def named? {α : Type} (all : List α) (nameOf : α → String) (json : Json) : Option α :=
  match json.variant? with
  | some (name, none) | some (name, some .null) => all.find? (nameOf · = name)
  | _ => none

end Json

end StreamDecode
