import TrafficShaping.Proofs.Attribute.Writing

/-!
Reading back the records of attributes.

`Tagged.take?_record_append` reads the record of a payload off the front of any byte string, and
`Tagged.parseFrom_of_take?` lets strict reading take one record after the other. Among records that
were read, `Tagged.find?_append_cons` finds the first of a tag.
-/

namespace TrafficShaping.Tagged

/-- A header whose length covers itself and the payload behind it makes an attribute. What follows
is shorter by the filling, or empty when there is less of it. -/
theorem take?_of_header (header : AttributeHeader) {payload : Bytes}
    (length : header.length.toNat = 4 + payload.length) (rest : Bytes) :
    take? (Record.toBytes header ++ (payload ++ rest)) =
      some (⟨header.tag, payload⟩,
        rest.drop (Bytes.align (4 + payload.length) - (4 + payload.length))) := by
  have headed := AttributeHeader.lawful_layout.read?_write header (payload ++ rest)
  have covered : ¬ header.length.toNat < 4 := by omega
  have width : payload.length = header.payloadLength := by
    unfold AttributeHeader.payloadLength
    omega
  have cut := Bytes.splitExact?_append width rest
  change ((Record.layout : Layout AttributeHeader).read? (Record.layout.write header ++ _) >>= _)
    = _
  rw [headed]
  change (if header.length.toNat < 4 then none
    else Bytes.splitExact? header.payloadLength (payload ++ rest) >>= _) = _
  rw [if_neg covered, cut, length]
  rfl

/-- The record of a payload is read as that payload, and its filling is read with it. -/
theorem take?_record_append {payload : Bytes} (fits : payload.length ≤ maxAttributePayload)
    (type : UInt16) (rest : Bytes) :
    take? (Attribute.record type payload ++ rest) =
      some (⟨AttributeHeader.tagOf type, payload⟩, rest) := by
  have bound : maxAttributePayload = 65531 := rfl
  have length : (UInt16.ofNat (4 + payload.length)).toNat = 4 + payload.length := by
    apply UInt16.toNat_ofNat_of_lt'
    change 4 + payload.length < 65536
    omega
  have filled := take?_of_header ⟨UInt16.ofNat (4 + payload.length), type⟩ length
    (Bytes.zeros (Bytes.align (4 + payload.length) - (4 + payload.length)) ++ rest)
  rw [List.drop_left' (Bytes.length_zeros _)] at filled
  rw [Attribute.record, Bytes.padded, List.length_append, AttributeHeader.length_toBytes,
    List.append_assoc, List.append_assoc]
  exact filled

theorem take?_nil : take? [] = none := rfl

@[simp] theorem parseFrom_nil (offset : Nat) : parseFrom offset [] = .ok [] := by
  rw [parseFrom]
  rfl

/-- An attribute at the front is the first that strict reading finds, and reading goes on behind
it. -/
theorem parseFrom_of_take? {data rest : Bytes} {found : Tagged}
    (taken : take? data = some (found, rest)) (offset : Nat) :
    parseFrom offset data =
      (parseFrom (offset + Bytes.align (4 + found.payload.length)) rest).map (found :: ·) := by
  have nonempty : ¬ data.isEmpty = true := by
    intro empty
    rw [List.isEmpty_iff.mp empty, take?_nil] at taken
    cases taken
  rw [parseFrom, if_neg nonempty]
  split
  · next other later found' =>
      cases taken.symm.trans found'
      rfl
  · next missing => cases taken.symm.trans missing

theorem parseFrom_record_append {payload : Bytes} (fits : payload.length ≤ maxAttributePayload)
    (type : UInt16) (rest : Bytes) (offset : Nat) :
    parseFrom offset (Attribute.record type payload ++ rest) =
      (parseFrom (offset + Bytes.align (4 + payload.length)) rest).map
        (⟨AttributeHeader.tagOf type, payload⟩ :: ·) :=
  parseFrom_of_take? (take?_record_append fits type rest) offset

/-! ## The first record of a tag -/

section First

variable {front found : List Tagged} {tag : UInt16}

theorem find?_append_cons (absent : ∀ before ∈ front, before.tag ≠ tag) (payload : Bytes)
    (rest : List Tagged) : find? (front ++ ⟨tag, payload⟩ :: rest) tag = some payload := by
  induction front with
  | nil => exact find?_cons_self ⟨tag, payload⟩ rest
  | cons first front ih =>
      obtain ⟨other, later⟩ := List.forall_mem_cons.mp absent
      exact (find?_cons_of_ne other _).trans (ih later)

theorem find?_eq_none (absent : ∀ record ∈ found, record.tag ≠ tag) : find? found tag = none := by
  induction found with
  | nil => rfl
  | cons first rest ih =>
      obtain ⟨other, later⟩ := List.forall_mem_cons.mp absent
      exact (find?_cons_of_ne other _).trans (ih later)

end First

end TrafficShaping.Tagged
