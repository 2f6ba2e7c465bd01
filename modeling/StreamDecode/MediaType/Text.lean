import StreamDecode.Json.Text
import StreamDecode.MediaType.Basic

/-!
# Media types as structured text

A media type is written as an object with its kind, its coding and an object of its attributes in
the order of the keys (`MediaType.toJson`). Reading (`MediaType.ofJson?`) takes any record with
these fields; the attributes may be left out, and of an attribute that is given twice the last value
counts.
-/

namespace StreamDecode

namespace AttributeValue

/-- A record of two words, read in this order. -/
def ofPair? (first second : String) (make : UInt32 → UInt32 → AttributeValue) (json : Json) :
    Option AttributeValue := do
  let fields ← json.fields? [first, second]
  some (make (← fields.required? first Json.u32?) (← fields.required? second Json.u32?))

/-- The value that an alternative with a payload stands for. -/
def ofVariant? (name : String) (payload : Json) : Option AttributeValue :=
  if name = "u32" then payload.u32?.map .u32
  else if name = "u64" then payload.u64?.map .u64
  else if name = "size" then ofPair? "width" "height" (fun w h => .size ⟨w, h⟩) payload
  else if name = "ratio" then ofPair? "num" "den" .ratio payload
  else if name = "blob" then (payload.listOf? Json.u8?).map fun bytes => .blob bytes.toArray
  else none

def ofJson? (json : Json) : Option AttributeValue :=
  match json.variant? with
  | some (name, some payload) => ofVariant? name payload
  | _ => none

def word (value : UInt32) : Json := .int value.toNat

def toJson : AttributeValue → Json
  | .u32 value => .record [("u32", word value)]
  | .u64 value => .record [("u64", .int value.toNat)]
  | .size value =>
    .record [("size", .record [("width", word value.width), ("height", word value.height)])]
  | .ratio num den => .record [("ratio", .record [("num", word num), ("den", word den)])]
  | .blob bytes => .record [("blob", .list (bytes.toList.map fun byte => .int byte.toNat))]

end AttributeValue

namespace Attributes

/-- Adds an attribute as it stands in an object. -/
def insertMember? (attributes : Attributes) (member : Option String × Json) :
    Option Attributes := do
  let name ← member.1
  let key ← AttributeKey.all.find? (·.name = name)
  some (attributes.insert key (← AttributeValue.ofJson? member.2))

def ofJson? : Json → Option Attributes
  | .object members => members.foldlM insertMember? .empty
  | _ => none

/-- Writes attributes in the order of their keys. -/
def toJson (attributes : Attributes) : Json :=
  .record (attributes.entries.map fun (key, value) => (key.name, value.toJson))

end Attributes

namespace MediaType

def ofJson? (json : Json) : Option MediaType := do
  let fields ← json.fields? ["kind", "codec", "attributes"]
  let kind ← fields.required? "kind" (Json.named? StreamKind.all StreamKind.name)
  let coding ← fields.required? "codec" (Json.named? Coding.all Coding.name)
  let attributes ← fields.optional? "attributes" Attributes.ofJson? .empty
  some ⟨kind, coding, attributes⟩

def toJson (type : MediaType) : Json :=
  .record
    [("kind", .text (some type.kind.name)), ("codec", .text (some type.coding.name)),
      ("attributes", type.attributes.toJson)]

def ofText? (text : String) : Option MediaType := (Json.ofText? text).bind ofJson?

def toText (type : MediaType) : String := type.toJson.compact

end MediaType

end StreamDecode
