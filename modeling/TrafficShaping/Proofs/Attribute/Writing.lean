import TrafficShaping.Outcome
import TrafficShaping.Wire.Attribute

/-!
What writing a tree of attributes puts behind a buffer.

The filling behind an attribute is counted from the start of the whole buffer, and the length in the
header of a nest is computed before anything below the nest is written. Both come out as they would
for the attribute alone because every attribute leaves the buffer aligned:

* `Attribute.writeTo_eq` and `Attribute.writeAllTo_eq` split the buffer off, so that
  `Attribute.writeAll_cons` and `Attribute.write_nested_eq_ok` describe writing without a buffer;
* `Attribute.write_eq_ok` says that an attribute is one record around its payload, and
  `Attribute.length_of_writeAll` that the computed length of a nest is the true one.
-/

namespace TrafficShaping

namespace AttributeHeader

@[simp] theorem length_toBytes (header : AttributeHeader) : (Record.toBytes header).length = 4 :=
  lawful_layout.length_toBytes header

theorem aligned_toBytes (header : AttributeHeader) : Bytes.Aligned (Record.toBytes header) := by
  unfold Bytes.Aligned
  rw [length_toBytes]

theorem forPayload_of_le {type : UInt16} {length : Nat} (fits : length ≤ maxAttributePayload) :
    forPayload type length = .ok ⟨UInt16.ofNat (4 + length), type⟩ := if_pos fits

theorem forPayload_of_lt {type : UInt16} {length : Nat} (long : maxAttributePayload < length) :
    forPayload type length = .error (.config (.oversizedAttribute (tagOf type) length)) :=
  if_neg (Nat.not_le.mpr long)

theorem forPayload_eq_ok {type : UInt16} {length : Nat} {header : AttributeHeader} :
    forPayload type length = .ok header ↔
      length ≤ maxAttributePayload ∧ header = ⟨UInt16.ofNat (4 + length), type⟩ := by
  rcases Nat.lt_or_ge maxAttributePayload length with long | fits
  · rw [forPayload_of_lt long]
    exact ⟨fun h => (nomatch h), fun h => absurd h.1 (Nat.not_le.mpr long)⟩
  · rw [forPayload_of_le fits]
    exact ⟨fun h => ⟨fits, (Except.ok.inj h).symm⟩, fun h => by rw [h.2]⟩

end AttributeHeader

namespace Attribute

/-- The bytes of an attribute whose payload is known, filling included. -/
def record (type : UInt16) (payload : Bytes) : Bytes :=
  Bytes.padded
    (Record.toBytes (⟨UInt16.ofNat (4 + payload.length), type⟩ : AttributeHeader) ++ payload)

/-- The payload of an attribute: its own, or the bytes of what is below it. -/
def payload : Attribute → Except Error Bytes
  | .leaf _ payload => .ok payload
  | .nested _ children => writeAll children

theorem aligned_record (type : UInt16) (payload : Bytes) : Bytes.Aligned (record type payload) :=
  Bytes.aligned_padded _

@[simp] theorem length_record (type : UInt16) (payload : Bytes) :
    (record type payload).length = Bytes.align (4 + payload.length) := by
  rw [record, Bytes.length_padded, List.length_append, AttributeHeader.length_toBytes]

/-! ## The buffer stays aligned -/

theorem aligned_of_writeTo {tree : Attribute} {buffer data : Bytes}
    (written : tree.writeTo buffer = .ok data) : Bytes.Aligned data := by
  cases tree with
  | leaf type payload =>
      obtain ⟨header, _, done⟩ := Outcome.bind_eq_ok.mp written
      rw [← Except.ok.inj done]
      exact Bytes.aligned_padded _
  | nested type children =>
      obtain ⟨header, _, below⟩ := Outcome.bind_eq_ok.mp written
      obtain ⟨filled, _, done⟩ := Outcome.bind_eq_ok.mp below
      rw [← Except.ok.inj done]
      exact Bytes.aligned_padded _

/-! ## The buffer splits off -/

mutual

/-- What is written behind an aligned buffer does not depend on the buffer. -/
theorem writeTo_eq {buffer : Bytes} (aligned : Bytes.Aligned buffer) :
    ∀ tree : Attribute, tree.writeTo buffer = tree.write.map (buffer ++ ·)
  | .leaf type payload => by
      unfold write writeTo
      cases AttributeHeader.forPayload type payload.length with
      | error error => rfl
      | ok header =>
          change Except.ok (Bytes.padded (buffer ++ Record.toBytes header ++ payload))
            = Except.ok (buffer ++ Bytes.padded (Record.toBytes header ++ payload))
          rw [List.append_assoc, aligned.padded_append]
  | .nested type children => by
      unfold write writeTo
      cases AttributeHeader.forPayload type (sizes children) with
      | error error => rfl
      | ok header =>
          have behindBuffer := writeAllTo_eq (aligned.append header.aligned_toBytes) children
          have behindHeader := writeAllTo_eq header.aligned_toBytes children
          change (writeAllTo (buffer ++ Record.toBytes header) children >>= fun filled =>
              Except.ok (Bytes.padded filled))
            = (writeAllTo (Record.toBytes header) children >>= fun filled =>
              Except.ok (Bytes.padded filled)).map (buffer ++ ·)
          rw [behindBuffer, behindHeader]
          cases writeAll children with
          | error error => rfl
          | ok below =>
              change Except.ok (Bytes.padded (buffer ++ Record.toBytes header ++ below))
                = Except.ok (buffer ++ Bytes.padded (Record.toBytes header ++ below))
              rw [List.append_assoc, aligned.padded_append]

theorem writeAllTo_eq {buffer : Bytes} (aligned : Bytes.Aligned buffer) :
    ∀ trees : List Attribute, writeAllTo buffer trees = (writeAll trees).map (buffer ++ ·)
  | [] => congrArg Except.ok (List.append_nil buffer).symm
  | first :: rest => by
      unfold writeAll writeAllTo
      rw [writeTo_eq aligned first]
      change ((first.write.map (buffer ++ ·)) >>= fun filled => writeAllTo filled rest)
        = (first.write >>= fun filled => writeAllTo filled rest).map (buffer ++ ·)
      cases written : first.write with
      | error error => rfl
      | ok front =>
          have alignedFront : Bytes.Aligned front := aligned_of_writeTo written
          change writeAllTo (buffer ++ front) rest = (writeAllTo front rest).map (buffer ++ ·)
          rw [writeAllTo_eq (aligned.append alignedFront) rest, writeAllTo_eq alignedFront rest]
          cases writeAll rest with
          | error error => rfl
          | ok later => exact congrArg Except.ok (List.append_assoc _ _ _)

end

/-! ## Writing without a buffer -/

/-- Attributes are written one after the other, each as it would be alone. -/
theorem writeAll_cons (first : Attribute) (rest : List Attribute) :
    writeAll (first :: rest) = first.write >>= fun front => (writeAll rest).map (front ++ ·) := by
  change (first.write >>= fun filled => writeAllTo filled rest) = _
  cases written : first.write with
  | error error => rfl
  | ok front => exact writeAllTo_eq (aligned_of_writeTo written) rest

theorem writeAll_cons_eq_ok {first : Attribute} {rest : List Attribute} {data : Bytes} :
    writeAll (first :: rest) = .ok data ↔
      ∃ front later, first.write = .ok front ∧ writeAll rest = .ok later ∧
        data = front ++ later := by
  rw [writeAll_cons, Outcome.bind_eq_ok]
  constructor
  · rintro ⟨front, written, mapped⟩
    obtain ⟨later, writtenRest, whole⟩ := Outcome.map_eq_ok.mp mapped
    exact ⟨front, later, written, writtenRest, whole.symm⟩
  · rintro ⟨front, later, written, writtenRest, rfl⟩
    exact ⟨front, written, Outcome.map_eq_ok.mpr ⟨later, writtenRest, rfl⟩⟩

theorem write_leaf_eq_ok {type : UInt16} {payload data : Bytes} :
    (leaf type payload).write = .ok data ↔
      payload.length ≤ maxAttributePayload ∧ data = record type payload := by
  unfold write writeTo
  rw [Outcome.bind_eq_ok]
  constructor
  · rintro ⟨header, made, done⟩
    obtain ⟨fits, rfl⟩ := AttributeHeader.forPayload_eq_ok.mp made
    exact ⟨fits, (Except.ok.inj done).symm⟩
  · rintro ⟨fits, rfl⟩
    exact ⟨_, AttributeHeader.forPayload_of_le fits, rfl⟩

theorem write_nested_eq_ok {type : UInt16} {children : List Attribute} {data : Bytes} :
    (nested type children).write = .ok data ↔
      sizes children ≤ maxAttributePayload ∧ ∃ below, writeAll children = .ok below ∧
        data = Bytes.padded (Record.toBytes
          (⟨UInt16.ofNat (4 + sizes children), type⟩ : AttributeHeader) ++ below) := by
  unfold write writeTo
  rw [Outcome.bind_eq_ok]
  constructor
  · rintro ⟨header, made, filled⟩
    obtain ⟨fits, rfl⟩ := AttributeHeader.forPayload_eq_ok.mp made
    obtain ⟨filled, written, done⟩ := Outcome.bind_eq_ok.mp filled
    rw [List.nil_append, writeAllTo_eq (AttributeHeader.aligned_toBytes _)] at written
    obtain ⟨below, writtenBelow, rfl⟩ := Outcome.map_eq_ok.mp written
    exact ⟨fits, below, writtenBelow, (Except.ok.inj done).symm⟩
  · rintro ⟨fits, below, written, rfl⟩
    refine ⟨_, AttributeHeader.forPayload_of_le fits, Outcome.bind_eq_ok.mpr ⟨_, ?_, rfl⟩⟩
    rw [List.nil_append, writeAllTo_eq (AttributeHeader.aligned_toBytes _)]
    exact Outcome.map_eq_ok.mpr ⟨below, written, rfl⟩

/-! ## Lengths -/

mutual

/-- The length computed for an attribute is the number of bytes written for it. -/
theorem length_of_write : ∀ {tree : Attribute} {data : Bytes}, tree.write = .ok data →
    data.length = tree.size
  | .leaf type payload, data, written => by
      obtain ⟨_, rfl⟩ := write_leaf_eq_ok.mp written
      exact length_record type payload
  | .nested type children, data, written => by
      obtain ⟨_, below, writtenBelow, rfl⟩ := write_nested_eq_ok.mp written
      rw [Bytes.length_padded, List.length_append, AttributeHeader.length_toBytes,
        length_of_writeAll writtenBelow]
      rfl

theorem length_of_writeAll : ∀ {trees : List Attribute} {data : Bytes},
    writeAll trees = .ok data → data.length = sizes trees
  | [], data, written => by
      rw [← Except.ok.inj written]
      rfl
  | first :: rest, data, written => by
      obtain ⟨front, later, writtenFirst, writtenRest, rfl⟩ := writeAll_cons_eq_ok.mp written
      rw [List.length_append, length_of_write writtenFirst, length_of_writeAll writtenRest]
      rfl

end

theorem payloadLength_le_size (tree : Attribute) : tree.payloadLength ≤ tree.size := by
  cases tree with
  | leaf type payload => exact Nat.le_trans (Nat.le_add_left _ 4) (Bytes.le_align _)
  | nested type children => exact Nat.le_trans (Nat.le_add_left _ 4) (Bytes.le_align _)

mutual

/-- An attribute whose payload fits can be written: what is below a nest is shorter than its
payload. -/
theorem exists_write_of_le : ∀ {tree : Attribute}, tree.payloadLength ≤ maxAttributePayload →
    ∃ data, tree.write = .ok data
  | .leaf _ _, fits => ⟨_, write_leaf_eq_ok.mpr ⟨fits, rfl⟩⟩
  | .nested _ _, fits => by
      obtain ⟨below, written⟩ := exists_writeAll_of_le fits
      exact ⟨_, write_nested_eq_ok.mpr ⟨fits, below, written, rfl⟩⟩

theorem exists_writeAll_of_le : ∀ {trees : List Attribute}, sizes trees ≤ maxAttributePayload →
    ∃ data, writeAll trees = .ok data
  | [], _ => ⟨[], rfl⟩
  | first :: rest, fits => by
      have shorter := payloadLength_le_size first
      change first.size + sizes rest ≤ _ at fits
      have fitsFirst : first.payloadLength ≤ maxAttributePayload := by omega
      have fitsRest : sizes rest ≤ maxAttributePayload := by omega
      obtain ⟨front, writtenFirst⟩ := exists_write_of_le fitsFirst
      obtain ⟨later, writtenRest⟩ := exists_writeAll_of_le fitsRest
      exact ⟨_, writeAll_cons_eq_ok.mpr ⟨front, later, writtenFirst, writtenRest, rfl⟩⟩

end

/-- An attribute is written as one record around its payload, which must fit the length field. -/
theorem write_eq_ok {tree : Attribute} {data : Bytes} :
    tree.write = .ok data ↔
      ∃ payload, tree.payload = .ok payload ∧ payload.length ≤ maxAttributePayload ∧
        data = record tree.type payload := by
  cases tree with
  | leaf type own =>
      rw [write_leaf_eq_ok]
      constructor
      · rintro ⟨fits, rfl⟩
        exact ⟨own, rfl, fits, rfl⟩
      · rintro ⟨payload, known, fits, rfl⟩
        cases known
        exact ⟨fits, rfl⟩
  | nested type children =>
      rw [write_nested_eq_ok]
      constructor
      · rintro ⟨fits, below, written, rfl⟩
        rw [← length_of_writeAll written] at fits ⊢
        exact ⟨below, written, fits, rfl⟩
      · rintro ⟨below, written, fits, rfl⟩
        rw [length_of_writeAll written] at fits
        refine ⟨fits, below, written, ?_⟩
        rw [record, length_of_writeAll written]
        rfl

end Attribute

end TrafficShaping
