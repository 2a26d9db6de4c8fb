import TrafficShaping.Bytes

/-!
JSON values, how types are declared, and codecs that are derived from the declarations.

A declaration says of what a type consists: words, texts, lists, and the fields of a record under
their names (`Json.Declaration`), or kinds, each under its name (`Json.Enumeration`). It carries the
proof that a value is determined by its parts, and no name stands twice in it. A `Json.Codec` writes
the values of declared types as JSON and reads them back. It is not defined here: what is documented
of the one that is derived from declarations is `Json.Codec.Conforms`.
-/

namespace TrafficShaping

/-- A JSON value. -/
inductive Json where
  | null
  | bool (value : Bool)
  /-- A number without a fraction. -/
  | integer (value : Int)
  /-- A number with a fraction: `digits` with the point before the last `places` of them. -/
  | decimal (digits : Int) (places : Nat)
  | text (value : String)
  | array (items : List Json)
  | object (members : List (String × Json))

namespace Json

/-! ## Words -/

/-- The types of words. -/
inductive Word : Type → Type
  | uint8 : Word UInt8
  | uint16 : Word UInt16
  | uint32 : Word UInt32
  | uint64 : Word UInt64
  | int32 : Word Int32

namespace Word

variable {α : Type}

/-- The least number of a type of words. -/
def low : Word α → Int
  | int32 => Int32.minValue.toInt
  | _ => 0

/-- The greatest number of a type of words. -/
def high : Word α → Int
  | uint8 => UInt8.size - 1
  | uint16 => UInt16.size - 1
  | uint32 => UInt32.size - 1
  | uint64 => UInt64.size - 1
  | int32 => Int32.maxValue.toInt

/-- The number that is a word. -/
def toInt : Word α → α → Int
  | uint8, value => value.toNat
  | uint16, value => value.toNat
  | uint32, value => value.toNat
  | uint64, value => value.toNat
  | int32, value => value.toInt

/-- The word that is a number within the bounds. -/
def ofInt : Word α → Int → α
  | uint8, value => .ofNat value.toNat
  | uint16, value => .ofNat value.toNat
  | uint32, value => .ofNat value.toNat
  | uint64, value => .ofNat value.toNat
  | int32, value => .ofInt value

end Word

/-! ## Declarations -/

mutual

/-- How a type is declared. -/
inductive Declaration : Type → Type 1
  | word {α : Type} (word : Word α) : Declaration α
  | text : Declaration String
  | list {α : Type} (item : Declaration α) : Declaration (List α)
  /-- A list of fixed length. -/
  | array {α : Type} (length : Nat) (item : Declaration α) :
    Declaration {items : List α // items.length = length}
  /-- A type with one part, as which it is written. -/
  | transparent {α β : Type} (inner : Declaration β) (build : β → α) (part : α → β)
    (build_part : ∀ value, build (part value) = value) : Declaration α
  /-- A type with the parts that the fields declare. -/
  | record {names : List String} {α β : Type} (fields : Fields names β) (build : β → α)
    (parts : α → β) (build_parts : ∀ value, build (parts value) = value) : Declaration α

/-- The fields of a record in their order, each under its name. -/
inductive Fields : List String → Type → Type 1
  | nil : Fields [] Unit
  | required {names : List String} {α β : Type} (name : String) (type : Declaration α)
    (later : Fields names β) (fresh : name ∉ names := by decide) : Fields (name :: names) (α × β)
  /-- A field that may be without a value. -/
  | optional {names : List String} {α β : Type} (name : String) (type : Declaration α)
    (later : Fields names β) (fresh : name ∉ names := by decide) :
    Fields (name :: names) (Option α × β)

end

/-- The kinds of a type in their order, each under its name with what it holds. -/
inductive Variants : List String → Type → Type 1
  | nil : Variants [] Empty
  | cons {names : List String} {α β : Type} (name : String) (contents : Declaration α)
    (later : Variants names β) (fresh : name ∉ names := by decide) :
    Variants (name :: names) (α ⊕ β)

/-- How a type of several kinds is declared. -/
structure Enumeration (α : Type) where
  {names : List String}
  {β : Type}
  variants : Variants names β
  build : β → α
  part : α → β
  build_part : ∀ value, build (part value) = value

namespace Declaration

/-- A byte. -/
def uint8 : Declaration UInt8 := word .uint8

/-- A word of 16 bits. -/
def uint16 : Declaration UInt16 := word .uint16

/-- A word of 32 bits. -/
def uint32 : Declaration UInt32 := word .uint32

/-- A word of 64 bits. -/
def uint64 : Declaration UInt64 := word .uint64

/-- A signed word of 32 bits. -/
def int32 : Declaration Int32 := word .int32

end Declaration

/-! ## Codecs -/

/-- What writes the values of declared types as JSON and reads them back. -/
structure Codec where
  write : {α : Type} → Declaration α → α → Json
  read? : {α : Type} → Declaration α → Json → Option α
  writeVariant : {α : Type} → Enumeration α → α → Json
  readVariant? : {α : Type} → Enumeration α → Json → Option α

/-- A part that may be missing. There is none when its member is null or not there. -/
def optionalPart? {α : Type} (read? : Json → Option α) : Option Json → Option (Option α)
  | none | some null => some none
  | some json => (read? json).map some

section Parts

variable (write : {α : Type} → Declaration α → α → Json)
  (read? : {α : Type} → Declaration α → Json → Option α)

/-- The members for the fields of a record. -/
def Fields.members {names : List String} {α : Type} : Fields names α → α → List (String × Json)
  | .nil, _ => []
  | .required name type later _, (value, rest) => (name, write type value) :: later.members rest
  | .optional name type later _, (some value, rest) =>
    (name, write type value) :: later.members rest
  | .optional name _ later _, (none, rest) => (name, null) :: later.members rest

/-- The parts of a record, each read from the member of its name. Other members are passed over. -/
def Fields.parts? {names : List String} {α : Type} :
    Fields names α → List (String × Json) → Option α
  | .nil, _ => some ()
  | .required name type later _, members => do
    let value ← (members.lookup name).bind (read? type)
    some (value, ← later.parts? members)
  | .optional name type later _, members => do
    let value ← optionalPart? (read? type) (members.lookup name)
    some (value, ← later.parts? members)

/-- The member for a value of some kind. -/
def Variants.member {names : List String} {α : Type} : Variants names α → α → String × Json
  | .cons name contents _ _, .inl value => (name, write contents value)
  | .cons _ _ later _, .inr value => later.member value

/-- What the member of a name holds, read as the kind of that name. -/
def Variants.contents? {names : List String} {α : Type} :
    Variants names α → String → Json → Option α
  | .nil, _, _ => none
  | .cons name contents later _, given, json =>
    if given = name then (read? contents json).map .inl
    else (later.contents? given json).map .inr

end Parts

/-- Whether each of some names stands on one member at most. -/
def Once (names : List String) (members : List (String × Json)) : Prop :=
  ∀ name ∈ names, (members.map Prod.fst).count name ≤ 1

/-- The items, when there are as many as there should be. -/
def exactly? {α : Type} (length : Nat) (items : List α) :
    Option {items : List α // items.length = length} :=
  if exact : items.length = length then some ⟨items, exact⟩ else none

/-- What is documented of the codec that is derived from declarations: a word is a number, and a
number within the bounds is read as a word; lists are arrays, item by item; a type with one part is
that part; a record is an object with a member for each field in their order, and it is read from an
object that has no field twice, whatever other members there are; and a kind is an object with one
member, named for the kind. -/
structure Codec.Conforms (codec : Codec) : Prop where
  write_word : ∀ {α : Type} (word : Word α) (value : α),
    codec.write (.word word) value = integer (word.toInt value)
  write_text : ∀ value, codec.write .text value = text value
  write_list : ∀ {α : Type} (item : Declaration α) (values : List α),
    codec.write (.list item) values = array (values.map (codec.write item))
  write_array : ∀ {α : Type} (length : Nat) (item : Declaration α)
      (values : {items : List α // items.length = length}),
    codec.write (.array length item) values = array (values.val.map (codec.write item))
  write_transparent : ∀ {α β : Type} (inner : Declaration β) (build : β → α) (part : α → β)
      (build_part : ∀ value, build (part value) = value) (value : α),
    codec.write (.transparent inner build part build_part) value = codec.write inner (part value)
  write_record : ∀ {names : List String} {α β : Type} (fields : Fields names β) (build : β → α)
      (parts : α → β) (build_parts : ∀ value, build (parts value) = value) (value : α),
    codec.write (.record fields build parts build_parts) value =
      object (fields.members codec.write (parts value))
  read?_word : ∀ {α : Type} (word : Word α) {n : Int}, word.low ≤ n → n ≤ word.high →
    codec.read? (.word word) (integer n) = some (word.ofInt n)
  read?_text : ∀ value, codec.read? .text (text value) = some value
  read?_list : ∀ {α : Type} (item : Declaration α) (items : List Json),
    codec.read? (.list item) (array items) = items.mapM (codec.read? item)
  read?_array : ∀ {α : Type} (length : Nat) (item : Declaration α) (items : List Json),
    codec.read? (.array length item) (array items) =
      (items.mapM (codec.read? item)).bind (exactly? length)
  read?_transparent : ∀ {α β : Type} (inner : Declaration β) (build : β → α) (part : α → β)
      (build_part : ∀ value, build (part value) = value) (json : Json),
    codec.read? (.transparent inner build part build_part) json = (codec.read? inner json).map build
  read?_record : ∀ {names : List String} {α β : Type} (fields : Fields names β) (build : β → α)
      (parts : α → β) (build_parts : ∀ value, build (parts value) = value)
      {members : List (String × Json)}, Once names members →
    codec.read? (.record fields build parts build_parts) (object members) =
      (fields.parts? codec.read? members).map build
  writeVariant_eq : ∀ {α : Type} (enumeration : Enumeration α) (value : α),
    codec.writeVariant enumeration value =
      object [enumeration.variants.member codec.write (enumeration.part value)]
  readVariant?_single : ∀ {α : Type} (enumeration : Enumeration α) (name : String) (json : Json),
    codec.readVariant? enumeration (object [(name, json)]) =
      (enumeration.variants.contents? codec.read? name json).map enumeration.build

end Json

end TrafficShaping
