import TrafficShaping.Proofs.Attribute.RoundTrip

/-!
Sequences of attributes in another order.

Each attribute of a sequence is written and found on its own: `Attribute.parse_writeAll_eq` gives
the records found as the image of the trees under `Attribute.found`, and
`Attribute.exists_writeAll_of_perm` lets the trees change places.
-/

namespace TrafficShaping.Attribute

/-- The tag without flags. -/
def tag (tree : Attribute) : UInt16 := AttributeHeader.tagOf tree.type

/-- The record as which a tree that can be written is found. -/
def found (tree : Attribute) : Tagged := ⟨tree.tag, tree.payload.toOption.getD []⟩

variable {tree : Attribute} {trees others : List Attribute} {data : Bytes}

/-! ## One tree -/

theorem found_leaf {type : UInt16} (unflagged : AttributeHeader.tagOf type = type)
    (payload : Bytes) : (leaf type payload).found = ⟨type, payload⟩ := by
  change Tagged.mk (AttributeHeader.tagOf type) payload = _
  rw [unflagged]

theorem payload_found (written : tree.write = .ok data) :
    tree.payload = .ok tree.found.payload := by
  obtain ⟨payload, known, -⟩ := write_eq_ok.mp written
  rw [found, known]
  rfl

/-- The payload found has the length that was computed before anything was written. -/
theorem length_payload_found (written : tree.write = .ok data) :
    tree.found.payload.length = tree.payloadLength := by
  have known := payload_found written
  cases tree with
  | leaf type payload => rfl
  | nested type children => exact length_of_writeAll known

/-! ## Sequences -/

/-- A sequence can be written when each of its trees can. -/
theorem exists_writeAll_iff :
    (∃ data, writeAll trees = .ok data) ↔ ∀ tree ∈ trees, ∃ data, tree.write = .ok data := by
  induction trees with
  | nil => exact iff_of_true ⟨[], rfl⟩ (fun _ absent => (nomatch absent))
  | cons first rest ih =>
      rw [List.forall_mem_cons, ← ih]
      constructor
      · rintro ⟨data, written⟩
        obtain ⟨front, later, writtenFirst, writtenRest, -⟩ := writeAll_cons_eq_ok.mp written
        exact ⟨⟨front, writtenFirst⟩, ⟨later, writtenRest⟩⟩
      · rintro ⟨⟨front, writtenFirst⟩, ⟨later, writtenRest⟩⟩
        exact ⟨_, writeAll_cons_eq_ok.mpr ⟨front, later, writtenFirst, writtenRest, rfl⟩⟩

theorem exists_writeAll_of_perm (written : writeAll trees = .ok data)
    (permuted : trees.Perm others) : ∃ other, writeAll others = .ok other := by
  have each := exists_writeAll_iff.mp ⟨data, written⟩
  exact exists_writeAll_iff.mpr fun tree among => each tree (permuted.mem_iff.mpr among)

theorem FoundAs.eq_found {record : Tagged} (matched : tree.FoundAs record) :
    record = tree.found := by
  rw [found, matched.2, tag, ← matched.1]
  rfl

theorem eq_map_found {records : List Tagged} (matched : List.Forall₂ FoundAs trees records) :
    records = trees.map found := by
  induction matched with
  | nil => rfl
  | cons first _ ih => rw [List.map_cons, ih, first.eq_found]

/-- What is found of a sequence of trees is what is found of each. -/
theorem parse_writeAll_eq (written : writeAll trees = .ok data) :
    Tagged.parse data = .ok (trees.map found) := by
  obtain ⟨records, parsed, matched⟩ := exists_parseFrom_of_writeAll written 0
  rw [Tagged.parse, parsed, eq_map_found matched]

end TrafficShaping.Attribute
