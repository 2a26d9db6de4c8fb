import TrafficShaping.Proofs.Attribute.Order
import TrafficShaping.Proofs.Layout

/-!
Sequences of attributes that later formats may extend.

`Attribute.Extends` puts more into a sequence: attributes of tags that a reader does not look for,
bytes behind the payloads, flags at the tags. A reader that passes over unknown tags and reads
payloads from the front (`ReadsFront`) does not notice. `Attribute.Tolerant` says so of a reading of
records, and is kept when readings follow each other; it holds of both ways to go through a
sequence, of looking a tag up (`Attribute.tolerant_lookup`) and of going over all records in turn
(`Attribute.TolerantStep.tolerant_foldlM`).
-/

namespace TrafficShaping

variable {α β σ : Type}

/-! ## Payloads -/

/-- A reading that looks at the front of a payload: more bytes behind one that it accepts change
nothing. -/
def ReadsFront (read : Bytes → Except Error α) : Prop :=
  ∀ ⦃payload value⦄, read payload = .ok value → ∀ more, read (payload ++ more) = .ok value

namespace ReadsFront

theorem ofLayout {layout : Layout α} (lawful : layout.Lawful) (what : String) :
    ReadsFront (layout.readAs what) := fun _ _ read => lawful.readAs_append read

theorem ofRecord [Record α] (lawful : (Record.layout : Layout α).Lawful) :
    ReadsFront (Record.read α) := ofLayout lawful _

theorem const (outcome : Except Error α) : ReadsFront fun _ => outcome := fun _ _ known _ => known

theorem map {read : Bytes → Except Error α} (front : ReadsFront read) (f : α → β) :
    ReadsFront fun payload => (read payload).map f := by
  intro payload value mapped more
  obtain ⟨first, known, rfl⟩ := Outcome.map_eq_ok.mp mapped
  exact Outcome.map_eq_ok.mpr ⟨first, front known more, rfl⟩

theorem bind {read : Bytes → Except Error α} (front : ReadsFront read) (next : α → Except Error β) :
    ReadsFront fun payload => read payload >>= next := by
  intro payload value done more
  obtain ⟨first, known, later⟩ := Outcome.bind_eq_ok.mp done
  exact Outcome.bind_eq_ok.mpr ⟨first, front known more, later⟩

theorem ite {p : Prop} {_ : Decidable p} {read other : Bytes → Except Error α}
    (front : ReadsFront read) (front' : ReadsFront other) :
    ReadsFront fun payload => if p then read payload else other payload := by
  by_cases holds : p
  · simpa only [if_pos holds] using front
  · simpa only [if_neg holds] using front'

end ReadsFront

/-- Flags that are set leave the tag as it is. -/
theorem AttributeHeader.tagOf_or_flags {flags : UInt16} (masked : tagOf flags = 0)
    (type : UInt16) : tagOf (type ||| flags) = tagOf type := by
  have apart : tagOf (type ||| flags) = tagOf type ||| tagOf flags :=
    UInt16.toBitVec_inj.mp BitVec.and_or_distrib_right
  rw [apart, masked, UInt16.or_zero]

namespace Attribute

/-! ## Sequences -/

/-- Another attribute of the same tag, whatever the flags, with more bytes behind its payload. -/
structure Grows (tree other : Attribute) : Prop where
  tag : other.tag = tree.tag
  payload : ∃ payload more, tree.payload = .ok payload ∧ other.payload = .ok (payload ++ more)

/-- Another sequence with the attributes of the first in order, each of which may have grown. More
attributes may stand anywhere among them, of any tags but some. -/
inductive Extends (names : List UInt16) : List Attribute → List Attribute → Prop
  | nil : Extends names [] []
  | keep {tree other : Attribute} {rest others : List Attribute} (grown : tree.Grows other)
      (later : Extends names rest others) : Extends names (tree :: rest) (other :: others)
  | insert {other : Attribute} {rest others : List Attribute} (unnamed : other.tag ∉ names)
      (later : Extends names rest others) : Extends names rest (other :: others)

variable {names : List UInt16} {tree other : Attribute} {trees others : List Attribute}

/-- An attribute that can be written has grown by nothing. -/
theorem Grows.refl {data : Bytes} (written : tree.write = .ok data) : tree.Grows tree := by
  obtain ⟨payload, known, _⟩ := write_eq_ok.mp written
  exact ⟨rfl, payload, [], known, by rw [List.append_nil, known]⟩

theorem Grows.leaf {flags : UInt16} (masked : AttributeHeader.tagOf flags = 0) (type : UInt16)
    (payload more : Bytes) :
    (Attribute.leaf type payload).Grows (.leaf (type ||| flags) (payload ++ more)) :=
  ⟨AttributeHeader.tagOf_or_flags masked type, payload, more, rfl, rfl⟩

theorem Grows.exists_found_eq (grown : tree.Grows other) :
    ∃ more, other.found = ⟨tree.tag, tree.found.payload ++ more⟩ := by
  obtain ⟨payload, more, known, longer⟩ := grown.payload
  refine ⟨more, ?_⟩
  rw [found, found, grown.tag, known, longer]
  rfl

/-- A tag that is looked for is missing from both sequences, or its first payload has grown. -/
theorem Extends.find? (extended : Extends names trees others) {tag : UInt16}
    (named : tag ∈ names) :
    Tagged.find? (trees.map found) tag = none ∧ Tagged.find? (others.map found) tag = none ∨
      ∃ payload more, Tagged.find? (trees.map found) tag = some payload ∧
        Tagged.find? (others.map found) tag = some (payload ++ more) := by
  induction extended with
  | nil => exact .inl ⟨rfl, rfl⟩
  | @keep tree other rest others grown _ ih =>
      obtain ⟨more, longer⟩ := grown.exists_found_eq
      rw [List.map_cons, List.map_cons, longer]
      by_cases here : tree.tag = tag
      · subst here
        exact .inr ⟨_, more, Tagged.find?_cons_self tree.found _, Tagged.find?_cons_self ⟨_, _⟩ _⟩
      · have elsewhere : tree.found.tag ≠ tag := here
        rw [Tagged.find?_cons_of_ne elsewhere, Tagged.find?_cons_of_ne here]
        exact ih
  | @insert other rest others unnamed _ ih =>
      have elsewhere : other.found.tag ≠ tag := by
        rintro rfl
        exact unnamed named
      rw [List.map_cons, Tagged.find?_cons_of_ne elsewhere]
      exact ih

/-! ## Readings of records -/

/-- A reading of the records of a sequence that reads the same of every sequence with more in it. -/
def Tolerant (names : List UInt16) (read : List Tagged → Except Error α) : Prop :=
  ∀ ⦃trees others value⦄, Extends names trees others → read (trees.map found) = .ok value →
    read (others.map found) = .ok value

theorem tolerant_const (outcome : Except Error α) : Tolerant names fun _ => outcome :=
  fun _ _ _ _ known => known

theorem Tolerant.bind {read : List Tagged → Except Error α}
    {next : α → List Tagged → Except Error β} (here : Tolerant names read)
    (there : ∀ a, Tolerant names (next a)) :
    Tolerant names fun records => read records >>= (next · records) := by
  intro trees others value extended done
  obtain ⟨first, known, later⟩ := Outcome.bind_eq_ok.mp done
  exact Outcome.bind_eq_ok.mpr ⟨first, here extended known, there first extended later⟩

/-- A tag may be looked up and its payload read from the front, and the other records be read with
what it holds. -/
theorem tolerant_lookup {tag : UInt16} (named : tag ∈ names)
    {present : Bytes → List Tagged → Except Error α} {absent : List Tagged → Except Error α}
    (front : ∀ records, ReadsFront (present · records))
    (others : ∀ payload, Tolerant names (present payload)) (without : Tolerant names absent) :
    Tolerant names fun records =>
      match Tagged.find? records tag with
      | some payload => present payload records
      | none => absent records := by
  intro trees others' value extended done
  dsimp only at done ⊢
  rcases extended.find? named with ⟨here, there⟩ | ⟨payload, more, here, there⟩
  · rw [here] at done
    rw [there]
    exact without extended done
  · rw [here] at done
    rw [there]
    exact front _ (others payload extended done) more

/-- A step over the records of a sequence that passes over unknown tags and reads payloads from the
front. -/
structure TolerantStep (names : List UInt16) (step : σ → Tagged → Except Error σ) : Prop where
  unnamed : ∀ {record : Tagged} (state : σ), record.tag ∉ names → step state record = .ok state
  front : ∀ (state : σ) (tag : UInt16), ReadsFront fun payload => step state ⟨tag, payload⟩

theorem TolerantStep.tolerant_foldlM {step : σ → Tagged → Except Error σ}
    (tolerant : TolerantStep names step) (state : σ) : Tolerant names (·.foldlM step state) := by
  intro trees others value extended
  dsimp only
  -- Both loops are in the same state, with what is left of one extended to what is left of the
  -- other.
  induction extended generalizing state with
  | nil => exact id
  | keep grown _ ih =>
      intro done
      obtain ⟨more, longer⟩ := grown.exists_found_eq
      rw [List.map_cons, List.foldlM_cons] at done ⊢
      obtain ⟨state', here, later⟩ := Outcome.bind_eq_ok.mp done
      rw [longer]
      exact Outcome.bind_eq_ok.mpr ⟨state', tolerant.front state _ here more, ih state' later⟩
  | @insert other rest others unnamed _ ih =>
      intro done
      have passed : step state other.found = .ok state := tolerant.unnamed state unnamed
      rw [List.map_cons, List.foldlM_cons, passed]
      exact ih state done

/-! ## Readings of bytes -/

/-- A sequence of attributes that fit is written, and a tolerant reader of its records reads what it
reads of the sequence that was extended. -/
theorem Tolerant.exists_writeAll {read : List Tagged → Except Error α} {value : α}
    (tolerant : Tolerant names read) (extended : Extends names trees others)
    (fits : ∀ other ∈ others, other.payloadLength ≤ maxAttributePayload)
    (known : read (trees.map found) = .ok value) :
    ∃ data, writeAll others = .ok data ∧ (Tagged.parse data >>= read) = .ok value := by
  obtain ⟨data, written⟩ :=
    exists_writeAll_iff.mpr fun other among => exists_write_of_le (fits other among)
  exact ⟨data, written, Outcome.bind_eq_ok.mpr
    ⟨_, parse_writeAll_eq written, tolerant extended known⟩⟩

end Attribute

end TrafficShaping
