import TrafficShaping.Wire.Layout.Lawful

/-!
Attributes: records of a tag, a length and a payload, filled up to a multiple of four bytes.

The payload of an attribute may be a sequence of attributes; whether it is depends on the tag, which
nothing here interprets. `Attribute` is a tree to be written, `Tagged` is one record as it is found.
`Tagged.parse` reads a byte string strictly and `Tagged.scan` stops at the first malformed record.
The two upper bits of a tag are flags: they are written as given and are no part of a tag found.
-/

namespace TrafficShaping

/-- The header of an attribute. -/
structure AttributeHeader where
  /-- The length of header and payload, without the filling. -/
  length : UInt16
  type : UInt16
  deriving DecidableEq, Repr

namespace AttributeHeader

instance : Record AttributeHeader where
  name := "attribute header"
  layout := (Layout.uint16.pair Layout.uint16).map
    (fun (length, type) => ⟨length, type⟩) (fun header => (header.length, header.type))

theorem lawful_layout : (Record.layout : Layout AttributeHeader).Lawful :=
  (Layout.lawful_uint16.pair Layout.lawful_uint16).map (fun _ => rfl) (fun _ => rfl)

/-- The tag without the flags. -/
def tagOf (type : UInt16) : UInt16 := type &&& 0x3FFF

/-- The tag without the flags. -/
def tag (header : AttributeHeader) : UInt16 := tagOf header.type

/-- The length of the payload, zero when the length does not even cover the header. -/
def payloadLength (header : AttributeHeader) : Nat := header.length.toNat - 4

/-- The header for a payload, which must fit the length field. -/
def forPayload (type : UInt16) (length : Nat) : Except Error AttributeHeader :=
  if length ≤ maxAttributePayload then .ok ⟨UInt16.ofNat (4 + length), type⟩
  else .error (.config (.oversizedAttribute (tagOf type) length))

end AttributeHeader

/-! ## Writing -/

/-- A tree of attributes. -/
inductive Attribute where
  /-- An attribute with a payload of its own. -/
  | leaf (type : UInt16) (payload : Bytes)
  /-- An attribute whose payload is the attributes below it, one after the other. -/
  | nested (type : UInt16) (children : List Attribute)

namespace Attribute

/-- A word of 32 bits. -/
def ofUInt32 (type : UInt16) (value : UInt32) : Attribute := .leaf type (Layout.uint32.write value)

/-- A word of 64 bits. -/
def ofUInt64 (type : UInt16) (value : UInt64) : Attribute := .leaf type (Layout.uint64.write value)

/-- A text and the zero byte that ends it. -/
def ofText (type : UInt16) (text : String) : Attribute := .leaf type (Text.Utf8.encode text ++ [0])

/-- A record. -/
def ofRecord {α : Type} [Record α] (type : UInt16) (value : α) : Attribute :=
  .leaf type (Record.toBytes value)

/-- The tag with its flags. -/
def type : Attribute → UInt16
  | .leaf type _ | .nested type _ => type

mutual

/-- The bytes that an attribute takes, filling included. -/
def size : Attribute → Nat
  | .leaf _ payload => Bytes.align (4 + payload.length)
  | .nested _ children => Bytes.align (4 + sizes children)

/-- The bytes that a sequence of attributes takes. -/
def sizes : List Attribute → Nat
  | [] => 0
  | first :: rest => first.size + sizes rest

end

/-- The length of the payload. -/
def payloadLength : Attribute → Nat
  | .leaf _ payload => payload.length
  | .nested _ children => sizes children

mutual

/-- A buffer with an attribute behind it. The filling brings the whole buffer to a multiple of four,
and a payload that is too long is refused before anything below it. -/
def writeTo (buffer : Bytes) : Attribute → Except Error Bytes
  | .leaf type payload => do
    let header ← AttributeHeader.forPayload type payload.length
    .ok (Bytes.padded (buffer ++ Record.toBytes header ++ payload))
  | .nested type children => do
    let header ← AttributeHeader.forPayload type (sizes children)
    let buffer ← writeAllTo (buffer ++ Record.toBytes header) children
    .ok (Bytes.padded buffer)

/-- A buffer with a sequence of attributes behind it, one after the other. -/
def writeAllTo (buffer : Bytes) : List Attribute → Except Error Bytes
  | [] => .ok buffer
  | first :: rest => do
    let buffer ← first.writeTo buffer
    writeAllTo buffer rest

end

/-- The bytes of an attribute. -/
def write (tree : Attribute) : Except Error Bytes := tree.writeTo []

/-- The bytes of a sequence of attributes. -/
def writeAll (trees : List Attribute) : Except Error Bytes := writeAllTo [] trees

end Attribute

/-! ## Reading -/

/-- An attribute as it is found in a byte string. -/
structure Tagged where
  /-- The tag without flags. -/
  tag : UInt16
  payload : Bytes
  deriving DecidableEq, Repr

namespace Tagged

/-- The attribute at the front of a byte string and what follows it and its filling, of which the
end of the byte string may have cut off a part; `none` when the attribute is not all there. -/
def take? (data : Bytes) : Option (Tagged × Bytes) := do
  let (header, rest) ← (Record.layout : Layout AttributeHeader).read? data
  if header.length.toNat < 4 then none
  else
    let (payload, rest) ← Bytes.splitExact? header.payloadLength rest
    some (⟨header.tag, payload⟩, rest.drop (Bytes.align header.length.toNat - header.length.toNat))

/-- Reading an attribute uses up the four bytes of its header at least. -/
theorem length_lt_of_take? {data rest : Bytes} {found : Tagged}
    (taken : take? data = some (found, rest)) : rest.length < data.length := by
  simp only [take?, Option.bind_eq_bind, Option.bind_eq_some_iff] at taken
  obtain ⟨⟨header, body⟩, headed, taken⟩ := taken
  have bodyLength := AttributeHeader.lawful_layout.length_eq headed
  dsimp only at taken
  split at taken
  · cases taken
  · obtain ⟨⟨payload, later⟩, cut, h⟩ := Option.bind_eq_some_iff.mp taken
    cases h
    have whole := congrArg List.length (Bytes.splitExact?_eq_some cut).2
    have size : (Record.layout : Layout AttributeHeader).size = 4 := rfl
    simp only [List.length_append, List.length_drop] at whole ⊢
    omega

/-- The attributes of `data`, which starts at `offset`. -/
def parseFrom (offset : Nat) (data : Bytes) : Except Error (List Tagged) :=
  if data.isEmpty then .ok []
  else
    match _ : take? data with
    | some (found, rest) =>
      (parseFrom (offset + Bytes.align (4 + found.payload.length)) rest).map (found :: ·)
    | none =>
      if data.length < 4 then .error (.wireFormat (.attributeHeader offset data.length))
      else .error (.wireFormat (.malformedAttribute offset))
termination_by data.length
decreasing_by exact length_lt_of_take? ‹_›

/-- The attributes of a byte string, which must hold nothing else. -/
def parse (data : Bytes) : Except Error (List Tagged) := parseFrom 0 data

/-- The attributes of a byte string up to the first that is malformed. -/
def scan (data : Bytes) : List Tagged :=
  match _ : take? data with
  | some (found, rest) => found :: scan rest
  | none => []
termination_by data.length
decreasing_by exact length_lt_of_take? ‹_›

/-- Whether a byte string is too short to hold an attribute. -/
def isExhausted (data : Bytes) : Bool := data.length < 4

/-- The payload of the first attribute with a tag. -/
def find? (found : List Tagged) (tag : UInt16) : Option Bytes :=
  (found.find? (·.tag == tag)).map Tagged.payload

theorem find?_cons_self (first : Tagged) (rest : List Tagged) :
    find? (first :: rest) first.tag = some first.payload := by
  have same : (first.tag == first.tag) = true := beq_self_eq_true _
  unfold find?
  rw [List.find?_cons, same]
  rfl

theorem find?_cons_of_ne {first : Tagged} {tag : UInt16} (other : first.tag ≠ tag)
    (rest : List Tagged) : find? (first :: rest) tag = find? rest tag := by
  have different : (first.tag == tag) = false := beq_false_of_ne other
  unfold find?
  rw [List.find?_cons, different]

end Tagged

/-! ## Payloads -/

namespace Payload

/-- The byte at the front of a payload. -/
def readUInt8 (payload : Bytes) : Except Error UInt8 := Layout.uint8.readAs "u8 attribute" payload

/-- The word of 32 bits at the front of a payload. -/
def readUInt32 (payload : Bytes) : Except Error UInt32 :=
  Layout.uint32.readAs "u32 attribute" payload

/-- The word of 64 bits at the front of a payload. -/
def readUInt64 (payload : Bytes) : Except Error UInt64 :=
  Layout.uint64.readAs "u64 attribute" payload

/-- The text of a payload, which ends before the first zero byte if there is one. -/
def readText (payload : Bytes) : Except Error String :=
  match Text.Utf8.decode (payload.takeWhile (· != 0)) with
  | .ok text => .ok text
  | .error fault => .error (.wireFormat (.notUtf8 fault))

end Payload

end TrafficShaping
