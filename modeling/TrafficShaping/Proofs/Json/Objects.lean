import TrafficShaping.Json.Objects
import TrafficShaping.Proofs.Json
import TrafficShaping.Proofs.Json.Standard

/-!
Qdiscs and classes are read back from their JSON forms.

What says the same as the form of a type of several kinds has one member again, with a record that
says the same (`Json.RestatesVariant`). A codec that conforms reads the kind by the name of that
member and the record as it is declared, so it keeps all of a value whose type is declared
(`Json.Codec.Conforms.faithful`). The main result is that of qdiscs and classes,
`Json.faithful_qdisc_and_class`.
-/

namespace TrafficShaping.Json

/-- Whether a value says the same as a record under the name of its kind. There is no other member
beside that one. -/
inductive RestatesVariant : Json → Json → Prop
  | variant {name : String} {contents other : Json} (same : Restates contents other) :
      RestatesVariant (object [(name, contents)]) (object [(name, other)])

theorem RestatesVariant.exists_of_single {member : String × Json} {json : Json}
    (same : RestatesVariant (object [member]) json) :
    ∃ other, json = object [(member.1, other)] ∧ Restates member.2 other := by
  obtain ⟨name, contents⟩ := member
  cases same with
  | variant same => exact ⟨_, rfl, same⟩

/-- Whether a codec keeps all of the values of a type of several kinds. -/
structure Codec.Faithful (codec : Codec) {α : Type} (enumeration : Enumeration α) : Prop where
  restored : ∀ value : α,
    codec.readVariant? enumeration (codec.writeVariant enumeration value) = some value
  restated : ∀ {value : α} {json : Json},
    RestatesVariant (codec.writeVariant enumeration value) json →
      codec.readVariant? enumeration json = some value
  /-- No value says the same as the forms of two. -/
  distinct : ∀ {value other : α} {json : Json},
    RestatesVariant (codec.writeVariant enumeration value) json →
      RestatesVariant (codec.writeVariant enumeration other) json → value = other

namespace Codec.Conforms

variable {codec : Codec} (conforms : codec.Conforms)

include conforms

/-- What a kind holds is read under the name of the kind, which no other kind has. -/
theorem contents?_eq {names : List String} {α : Type} (variants : Variants names α) {value : α}
    {json : Json} (same : Restates (variants.member codec.write value).2 json) :
    variants.contents? codec.read? (variants.member codec.write value).1 json = some value := by
  induction variants with
  | nil => cases value
  | cons name contents later fresh ih =>
      cases value with
      | inl value =>
          have read : codec.read? contents json = some value :=
            (conforms.lossless contents).read?_eq same
          exact (if_pos rfl).trans (congrArg (Option.map Sum.inl) read)
      | inr value =>
          have other : (later.member codec.write value).1 ≠ name :=
            ne_of_mem_of_not_mem (later.member_fst_mem value) fresh
          exact (if_neg other).trans (congrArg (Option.map Sum.inr) (ih same))

theorem faithful {α : Type} (enumeration : Enumeration α) : codec.Faithful enumeration := by
  have read : ∀ {value : α} {json : Json},
      RestatesVariant (codec.writeVariant enumeration value) json →
        codec.readVariant? enumeration json = some value := by
    intro value json same
    rw [conforms.writeVariant_eq] at same
    obtain ⟨other, rfl, told⟩ := same.exists_of_single
    rw [conforms.readVariant?_single, conforms.contents?_eq enumeration.variants told]
    exact congrArg some (enumeration.build_part value)
  have itself : ∀ value : α, RestatesVariant (codec.writeVariant enumeration value)
      (codec.writeVariant enumeration value) := fun value => by
    rw [conforms.writeVariant_eq]
    exact .variant (.same _)
  exact
    { restored := fun value => read (itself value)
      restated := read
      distinct := fun one two => Option.some.inj ((read one).symm.trans (read two)) }

end Codec.Conforms

/-- Every qdisc and every class is read back from its form, also when members are in another order,
when there are unknown ones and when null ones are left out; and no two have the same form. -/
theorem faithful_qdisc_and_class {codec : Codec} (conforms : codec.Conforms) :
    codec.Faithful Qdisc.enumeration ∧ codec.Faithful Class.enumeration :=
  ⟨conforms.faithful Qdisc.enumeration, conforms.faithful Class.enumeration⟩

/-- A class with the most bytes that are counted, and without options. -/
def countedClass : Class :=
  ⟨⟨2, ⟨0x10001⟩, ⟨0x10000⟩⟩, { Statistics.zero with traffic := ⟨0xFFFFFFFFFFFFFFFF, 1⟩ },
    .generic "drr" none⟩

/-- The form of the class with the kind in front and a member that is not known, and without a
member for the options. -/
def countedForm : Json :=
  object [("Generic", object [("kind", text "drr"), ("deficit", integer 1),
    ("attrs", Codec.standard.write ClassAttributes.declaration countedClass.attributes)])]

/-- An ingress qdisc whose references the kernel has not counted. -/
def uncountedQdisc : Qdisc := .ofIngress 2

/-- The form of the qdisc with its statistics in front, and without a member for the references. -/
def uncountedForm : Json :=
  object [("Ingress", object [("attrs", object
    [("statistics", Codec.standard.write Statistics.declaration .zero), ("link_index", integer 2),
      ("handle", integer 0xFFFF0000), ("parent", integer 0xFFFFFFF1)])])]

theorem faithful_qdisc_and_class_standard :
    Codec.standard.Conforms ∧
      Codec.standard.readVariant? Class.enumeration countedForm = some countedClass ∧
      Codec.standard.readVariant? Qdisc.enumeration uncountedForm = some uncountedQdisc := by
  obtain ⟨qdiscs, classes⟩ := faithful_qdisc_and_class Codec.conforms_standard
  have attributes : Restates
      (Codec.standard.write QdiscAttributes.declaration uncountedQdisc.attributes)
      (object [("statistics", Codec.standard.write Statistics.declaration .zero),
        ("link_index", integer 2), ("handle", integer 0xFFFF0000),
        ("parent", integer 0xFFFFFFF1)]) :=
    .record (.kept (.same _) <| .kept (.same _) <| .kept (.same _) <| .leftOut <|
      .kept (.same _) .nil) (List.forall_mem_nil _) (List.perm_append_singleton _ _).symm
  refine ⟨Codec.conforms_standard, classes.restated (.variant ?_),
    qdiscs.restated (.variant ?_)⟩
  · exact .record (.kept (.same _) <| .kept (.same _) <| .leftOut .nil)
      (List.forall_mem_singleton.mpr (by decide)) (List.perm_append_singleton _ [_, _])
  · exact .record (.kept attributes .nil) (List.forall_mem_nil _) (List.Perm.refl _)

end TrafficShaping.Json
