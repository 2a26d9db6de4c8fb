import Mathlib.Data.List.Forall2
import TrafficShaping.Proofs.Attribute.Reading

/-!
Trees of attributes survive being written and read back.

Strict reading finds one record for each tree, in order, with the tag of the tree and its payload.
What is below a nest is in its payload, so reading the payloads in turn brings the whole tree back;
which payloads to read is not in the bytes, so it is told by an `AttributeShape`.
-/

namespace TrafficShaping

/-- Which attributes are nests, and of what. -/
inductive AttributeShape where
  | leaf
  | nested (children : List AttributeShape)

namespace Attribute

mutual

/-- The shape of a tree, without tags and payloads. -/
def shape : Attribute → AttributeShape
  | .leaf _ _ => .leaf
  | .nested _ children => .nested (shapes children)

def shapes : List Attribute → List AttributeShape
  | [] => []
  | first :: rest => first.shape :: shapes rest

end

mutual

/-- The tree without the flags of its tags, at every depth. -/
def withoutFlags : Attribute → Attribute
  | .leaf type payload => .leaf (AttributeHeader.tagOf type) payload
  | .nested type children => .nested (AttributeHeader.tagOf type) (allWithoutFlags children)

def allWithoutFlags : List Attribute → List Attribute
  | [] => []
  | first :: rest => first.withoutFlags :: allWithoutFlags rest

end

/-- A record found is the record of a tree: it has the tag and the payload of the tree. -/
def FoundAs (tree : Attribute) (found : Tagged) : Prop :=
  found.tag = AttributeHeader.tagOf tree.type ∧ tree.payload = .ok found.payload

end Attribute

namespace Tagged

mutual

/-- The tree of a shape that a record found is the root of. The payload of a nest is read as a
sequence of attributes, and so on below it. -/
def grow (shape : AttributeShape) (found : Tagged) : Option Attribute :=
  match shape with
  | .leaf => some (.leaf found.tag found.payload)
  | .nested shapes => do
    let below ← (parse found.payload).toOption
    let children ← growAll shapes below
    some (.nested found.tag children)

/-- The trees of some shapes that as many records found are the roots of. -/
def growAll (shapes : List AttributeShape) (found : List Tagged) : Option (List Attribute) :=
  match shapes, found with
  | [], [] => some []
  | shape :: shapes, first :: rest => do
    let tree ← grow shape first
    let trees ← growAll shapes rest
    some (tree :: trees)
  | _, _ => none

end

end Tagged

namespace Attribute

/-- Strict reading finds exactly the records of the trees that were written, in order. -/
theorem exists_parseFrom_of_writeAll {trees : List Attribute} :
    ∀ {data : Bytes}, writeAll trees = .ok data → ∀ offset,
      ∃ found, Tagged.parseFrom offset data = .ok found ∧ List.Forall₂ FoundAs trees found := by
  induction trees with
  | nil =>
      intro data written offset
      rw [← Except.ok.inj written]
      exact ⟨[], Tagged.parseFrom_nil offset, .nil⟩
  | cons first rest ih =>
      intro data written offset
      obtain ⟨front, later, writtenFirst, writtenRest, rfl⟩ := writeAll_cons_eq_ok.mp written
      obtain ⟨payload, known, fits, rfl⟩ := write_eq_ok.mp writtenFirst
      obtain ⟨found, parsed, matched⟩ :=
        ih writtenRest (offset + Bytes.align (4 + payload.length))
      refine ⟨⟨AttributeHeader.tagOf first.type, payload⟩ :: found, ?_,
        .cons ⟨rfl, known⟩ matched⟩
      rw [Tagged.parseFrom_record_append fits, parsed]
      rfl

mutual

/-- A tree grows back from its record. -/
theorem grow_of_foundAs : ∀ {tree : Attribute} {found : Tagged}, tree.FoundAs found →
    Tagged.grow tree.shape found = some tree.withoutFlags
  | .leaf type own, found, matched => by
      have payload : own = found.payload := Except.ok.inj matched.2
      rw [shape, Tagged.grow, withoutFlags, matched.1, payload]
      rfl
  | .nested type children, found, matched => by
      obtain ⟨below, parsed, matchedBelow⟩ := exists_parseFrom_of_writeAll matched.2 0
      rw [shape, Tagged.grow, Tagged.parse, parsed, withoutFlags, matched.1]
      change (Tagged.growAll (shapes children) below >>= fun trees => _) = _
      rw [growAll_of_foundAs matchedBelow]
      rfl

theorem growAll_of_foundAs : ∀ {trees : List Attribute} {found : List Tagged},
    List.Forall₂ FoundAs trees found →
      Tagged.growAll (shapes trees) found = some (allWithoutFlags trees)
  | [], _, .nil => by
      rw [shapes, Tagged.growAll, allWithoutFlags]
  | first :: rest, found :: later, .cons matched matchedRest => by
      rw [shapes, Tagged.growAll, grow_of_foundAs matched, growAll_of_foundAs matchedRest,
        allWithoutFlags]
      rfl

end

/-- Trees that could be written are found again: one record for each, in order and with its tag and
payload, from which the trees grow back at every depth, less the flags of their tags. -/
theorem parse_writeAll {trees : List Attribute} {data : Bytes}
    (written : writeAll trees = .ok data) :
    ∃ found, Tagged.parse data = .ok found ∧
      List.Forall₂ (fun tree record => record.tag = AttributeHeader.tagOf tree.type ∧
        tree.payload = .ok record.payload) trees found ∧
      Tagged.growAll (shapes trees) found = some (allWithoutFlags trees) := by
  obtain ⟨found, parsed, matched⟩ := exists_parseFrom_of_writeAll written 0
  exact ⟨found, parsed, matched, growAll_of_foundAs matched⟩

/-- A nest with a flag, of a word and of a nest with three bytes below it, followed by an empty
leaf. -/
def threeLevels : List Attribute :=
  [.nested 0x8002 [.ofUInt32 5 1000, .nested 7 [.leaf 1 [1, 2, 3]]], .leaf 9 []]

theorem parse_writeAll_threeLevels :
    ∃ data, writeAll threeLevels = .ok data ∧
      ∃ found, Tagged.parse data = .ok found ∧
        List.Forall₂ (fun tree record => record.tag = AttributeHeader.tagOf tree.type ∧
          tree.payload = .ok record.payload) threeLevels found ∧
        Tagged.growAll (shapes threeLevels) found = some (allWithoutFlags threeLevels) :=
  ⟨_, rfl, parse_writeAll rfl⟩

end Attribute

end TrafficShaping
