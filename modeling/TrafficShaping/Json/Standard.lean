import TrafficShaping.Json

/-!
A codec that follows the declarations.

Beside what is documented of every such codec, `Json.Codec.standard` reads a record from an array of
all fields in their order, and of members with one name it takes the first.
-/

namespace TrafficShaping.Json

mutual

/-- The form of a value. -/
def Declaration.write {α : Type} : Declaration α → α → Json
  | .word word, value => integer (word.toInt value)
  | .text, value => .text value
  | .list item, values => .array (values.map item.write)
  | .array _ item, values => .array (values.val.map item.write)
  | .transparent inner _ part _, value => inner.write (part value)
  | .record fields _ parts _, value => object (fields.write (parts value))

/-- The members for the fields of a record. -/
def Fields.write {names : List String} {α : Type} : Fields names α → α → List (String × Json)
  | .nil, _ => []
  | .required name type later _, (value, rest) => (name, type.write value) :: later.write rest
  | .optional name type later _, (some value, rest) =>
    (name, type.write value) :: later.write rest
  | .optional name _ later _, (none, rest) => (name, null) :: later.write rest

end

/-- The members of a record, which may be written without their names in an array of all of them. -/
def members? (names : List String) : Json → Option (List (String × Json))
  | object members => some members
  | array items => if items.length = names.length then some (names.zip items) else none
  | _ => none

mutual

/-- The value of a form. -/
def Declaration.read? {α : Type} : Declaration α → Json → Option α
  | .word word, integer value =>
    if word.low ≤ value ∧ value ≤ word.high then some (word.ofInt value) else none
  | .text, .text value => some value
  | .list item, .array items => items.mapM item.read?
  | .array length item, .array items => (items.mapM item.read?).bind (exactly? length)
  | .transparent inner build _ _, json => (inner.read? json).map build
  | @Declaration.record names _ _ fields build _ _, json =>
    ((members? names json).bind fields.read?).map build
  | _, _ => none

/-- The parts of a record, each read from the member of its name. -/
def Fields.read? {names : List String} {α : Type} :
    Fields names α → List (String × Json) → Option α
  | .nil, _ => some ()
  | .required name type later _, members => do
    let value ← (members.lookup name).bind type.read?
    some (value, ← later.read? members)
  | .optional name type later _, members => do
    let value ← optionalPart? type.read? (members.lookup name)
    some (value, ← later.read? members)

end

namespace Codec

/-- The codec that writes and reads as the declarations say. -/
def standard : Codec where
  write := Declaration.write
  read? := Declaration.read?
  writeVariant enumeration value :=
    object [enumeration.variants.member Declaration.write (enumeration.part value)]
  readVariant? enumeration
    | object [(name, json)] =>
      (enumeration.variants.contents? Declaration.read? name json).map enumeration.build
    | _ => none

end Codec

end TrafficShaping.Json
