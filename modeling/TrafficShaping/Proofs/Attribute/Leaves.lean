import TrafficShaping.Proofs.Attribute.Reading

/-!
Flat sequences of attributes, such as the options of qdiscs and classes are.

A sequence without nests is given by the records that it is to be found as. It is written as their
bytes whenever the payloads fit, and strict reading finds the same records: `Tagged.writeAll_toLeaf`
and `Tagged.parseFrom_flatMap_toBytes`. Attributes of which some may be absent are given by
`Tagged.ofEntries`, and then each tag is looked up with its own payload: `Tagged.find?_ofEntries`.
-/

namespace TrafficShaping

/-- Whether tags have no flags is decided tag by tag. -/
theorem AttributeHeader.tagOf_eq_of_all {tags : List UInt16}
    (plain : (tags.all fun tag => tagOf tag == tag) = true) : ∀ tag ∈ tags, tagOf tag = tag :=
  fun tag member => eq_of_beq (List.all_eq_true.mp plain tag member)

namespace Tagged

/-- The attribute that is found as a record. -/
def toLeaf (record : Tagged) : Attribute := .leaf record.tag record.payload

/-- The bytes of the attribute that is found as a record. -/
def toBytes (record : Tagged) : Bytes := Attribute.record record.tag record.payload

/-- Whether a record can be written: its tag has no flags and its payload fits the length field. -/
structure IsWritable (record : Tagged) : Prop where
  tag_eq : AttributeHeader.tagOf record.tag = record.tag
  fits : record.payload.length ≤ maxAttributePayload

theorem writeAll_toLeaf {found : List Tagged} (writable : ∀ record ∈ found, record.IsWritable) :
    Attribute.writeAll (found.map toLeaf) = .ok (found.flatMap toBytes) := by
  induction found with
  | nil => rfl
  | cons first rest ih =>
      have own : first.IsWritable := writable first List.mem_cons_self
      have later := ih fun record member => writable record (List.mem_cons_of_mem first member)
      have front : first.toLeaf.write = .ok first.toBytes :=
        Attribute.write_leaf_eq_ok.mpr ⟨own.fits, rfl⟩
      exact Attribute.writeAll_cons_eq_ok.mpr ⟨_, _, front, later, rfl⟩

theorem parseFrom_flatMap_toBytes {found : List Tagged}
    (writable : ∀ record ∈ found, record.IsWritable) (offset : Nat) :
    parseFrom offset (found.flatMap toBytes) = .ok found := by
  induction found generalizing offset with
  | nil => exact parseFrom_nil offset
  | cons first rest ih =>
      have own : first.IsWritable := writable first List.mem_cons_self
      have later := ih fun record member => writable record (List.mem_cons_of_mem first member)
      rw [List.flatMap_cons, toBytes, parseFrom_record_append own.fits, later, own.tag_eq]
      rfl

/-- Records that can be written are, and they are found again. -/
theorem exists_writeAll_toLeaf {found : List Tagged}
    (writable : ∀ record ∈ found, record.IsWritable) :
    ∃ data, Attribute.writeAll (found.map toLeaf) = .ok data ∧
      ∀ offset, parseFrom offset data = .ok found :=
  ⟨_, writeAll_toLeaf writable, parseFrom_flatMap_toBytes writable⟩

/-! ## Attributes that may be absent -/

/-- The records of tags that have a payload. -/
def ofEntries (entries : List (UInt16 × Option Bytes)) : List Tagged :=
  entries.flatMap fun (tag, payload) => (payload.map (⟨tag, ·⟩)).toList

theorem ofEntries_cons_some (tag : UInt16) (data : Bytes) (rest : List (UInt16 × Option Bytes)) :
    ofEntries ((tag, some data) :: rest) = ⟨tag, data⟩ :: ofEntries rest := rfl

theorem ofEntries_cons_none (tag : UInt16) (rest : List (UInt16 × Option Bytes)) :
    ofEntries ((tag, none) :: rest) = ofEntries rest := rfl

theorem ofEntries_append (front back : List (UInt16 × Option Bytes)) :
    ofEntries (front ++ back) = ofEntries front ++ ofEntries back := List.flatMap_append

theorem find?_ofEntries_eq_none {entries : List (UInt16 × Option Bytes)} {tag : UInt16}
    (absent : tag ∉ entries.map Prod.fst) : find? (ofEntries entries) tag = none := by
  induction entries with
  | nil => rfl
  | cons first rest ih =>
      have other : first.1 ≠ tag := fun same => absent (same ▸ List.mem_cons_self)
      have later := ih fun member => absent (List.mem_cons_of_mem _ member)
      rcases first with ⟨own, none | data⟩
      · exact later
      · rw [ofEntries_cons_some, find?_cons_of_ne other, later]

/-- A tag that occurs once is found with its own payload. -/
theorem find?_ofEntries {entries : List (UInt16 × Option Bytes)} {tag : UInt16}
    {payload : Option Bytes} (distinct : (entries.map Prod.fst).Nodup)
    (member : (tag, payload) ∈ entries) : find? (ofEntries entries) tag = payload := by
  induction entries with
  | nil => cases member
  | cons first rest ih =>
      obtain ⟨absent, distinctRest⟩ := List.nodup_cons.mp distinct
      rcases List.mem_cons.mp member with rfl | later
      · cases payload with
        | none =>
            rw [ofEntries_cons_none]
            exact find?_ofEntries_eq_none absent
        | some data => exact find?_cons_self ⟨tag, data⟩ _
      · have other : first.1 ≠ tag := by
          intro same
          exact absent (same ▸ List.mem_map_of_mem later)
        have found := ih distinctRest later
        rcases first with ⟨own, none | data⟩
        · exact found
        · rw [ofEntries_cons_some, find?_cons_of_ne other, found]

theorem tagOf_of_mem_ofEntries {entries : List (UInt16 × Option Bytes)}
    (plain : ∀ tag ∈ entries.map Prod.fst, AttributeHeader.tagOf tag = tag) :
    ∀ record ∈ ofEntries entries, AttributeHeader.tagOf record.tag = record.tag := by
  intro record member
  obtain ⟨entry, among, there⟩ := List.mem_flatMap.mp member
  obtain ⟨data, _, rfl⟩ := Option.map_eq_some_iff.mp (Option.mem_toList.mp there)
  exact plain _ (List.mem_map_of_mem among)

theorem isWritable_of_mem_ofEntries {entries : List (UInt16 × Option Bytes)}
    (plain : ∀ tag ∈ entries.map Prod.fst, AttributeHeader.tagOf tag = tag)
    (fits : ∀ entry ∈ entries, ∀ data ∈ entry.2, data.length ≤ maxAttributePayload) :
    ∀ record ∈ ofEntries entries, record.IsWritable := by
  intro record member
  obtain ⟨entry, among, there⟩ := List.mem_flatMap.mp member
  obtain ⟨data, some, rfl⟩ := Option.map_eq_some_iff.mp (Option.mem_toList.mp there)
  exact ⟨plain _ (List.mem_map_of_mem among), fits entry among data some⟩

/-- Entries whose tags have no flags and whose payloads fit the length field are written, and the
records that are there are found again. -/
theorem exists_writeAll_ofEntries {entries : List (UInt16 × Option Bytes)}
    (plain : ∀ tag ∈ entries.map Prod.fst, AttributeHeader.tagOf tag = tag)
    (fits : ∀ entry ∈ entries, ∀ data ∈ entry.2, data.length ≤ maxAttributePayload) :
    ∃ data, Attribute.writeAll ((ofEntries entries).map toLeaf) = .ok data ∧
      ∀ offset, parseFrom offset data = .ok (ofEntries entries) :=
  exists_writeAll_toLeaf (isWritable_of_mem_ofEntries plain fits)

end Tagged

end TrafficShaping
