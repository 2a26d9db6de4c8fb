import Mathlib.Data.List.Basic
import TrafficShaping.Json

/-!
What else says the same as a JSON value, and what a codec that conforms reads from it.

A record says the same when its members come in another order, when there are members that it does
not know, and when those that are null are left out, at any depth (`Json.Restates`). A codec is
lossless for a declaration when it reads every value back from whatever says the same as it writes
(`Json.Codec.Lossless`). Every codec that conforms is so for all declarations, by induction on the
declaration (`Json.Codec.Conforms.lossless`): what says the same as a record has each field once
under its name (`Json.exists_written`), and so each part is read back
(`Json.Codec.Conforms.parts?_eq`).
-/

namespace TrafficShaping.Json

/-! ## Saying the same -/

/-- The members of a record in their order, each with a value that is related to its own, where
members that are null may be left out. -/
inductive Retold (related : Json → Json → Prop) :
    List (String × Json) → List (String × Json) → Prop
  | nil : Retold related [] []
  | kept {name : String} {json other : Json} {rest later : List (String × Json)}
      (value : related json other) (told : Retold related rest later) :
      Retold related ((name, json) :: rest) ((name, other) :: later)
  | leftOut {name : String} {rest later : List (String × Json)} (told : Retold related rest later) :
      Retold related ((name, null) :: rest) later

/-- Whether a value says the same as one that is written in full. -/
inductive Restates : Json → Json → Prop
  | same (json : Json) : Restates json json
  /-- A record may have more members, and its members may come in any order. -/
  | record {members fields extra written : List (String × Json)}
      (told : Retold Restates members fields)
      (unknown : ∀ member ∈ extra, member.1 ∉ members.map Prod.fst)
      (order : written.Perm (fields ++ extra)) : Restates (object members) (object written)

/-- Whether a value is neither null nor a record. -/
def IsPlain : Json → Prop
  | null | object _ => False
  | bool _ | integer _ | decimal _ _ | text _ | array _ => True

/-- What there is of a value under its name: a value that says the same or, if it is null, perhaps
nothing. -/
inductive Found (json : Json) : Option Json → Prop
  | there {other : Json} (same : Restates json other) : Found json (some other)
  | absent (nothing : json = null) : Found json none

variable {members fields written : List (String × Json)} {name : String} {json : Json}

theorem retold_self (members : List (String × Json)) : Retold Restates members members := by
  induction members with
  | nil => exact .nil
  | cons first rest ih => exact .kept (.same first.2) ih

/-- Nothing but null says null. -/
theorem Restates.ne_null {other : Json} (there : json ≠ null) (same : Restates json other) :
    other ≠ null := by
  cases same with
  | same => exact there
  | record _ _ _ => exact fun null => nomatch null

theorem IsPlain.ne_null (plain : json.IsPlain) : json ≠ null := by
  intro null
  rw [null] at plain
  exact plain

/-- There is one way to say what is neither null nor a record. -/
theorem IsPlain.eq_of_restates {other : Json} (plain : json.IsPlain) (same : Restates json other) :
    other = json := by
  cases same with
  | same => rfl
  | record _ _ _ => exact plain.elim

/-! ## Looking members up -/

theorem lookup_eq {form : Option Json}
    (only : ∀ other, (name, other) ∈ written ↔ form = some other) : written.lookup name = form := by
  cases known : written.lookup name with
  | none =>
      cases form with
      | none => rfl
      | some other =>
          have differs := List.lookup_eq_none_iff.mp known _ ((only other).mpr rfl)
          exact absurd rfl (bne_iff_ne.mp differs)
  | some other =>
      obtain ⟨before, after, rfl, _⟩ := List.lookup_eq_some_iff.mp known
      exact ((only other).mp (List.mem_append_right _ List.mem_cons_self)).symm

theorem Retold.notMem (told : Retold Restates members fields)
    (absent : name ∉ members.map Prod.fst) (other : Json) : (name, other) ∉ fields := by
  induction told with
  | nil => exact List.not_mem_nil
  | kept _ _ ih =>
      obtain ⟨differs, later⟩ := not_or.mp (mt List.mem_cons.mpr absent)
      intro member
      rcases List.mem_cons.mp member with own | member
      · exact differs (congrArg Prod.fst own)
      · exact ih later member
  | leftOut _ ih => exact ih fun later => absent (List.mem_cons_of_mem _ later)

/-- With distinct names, a member is told once or, if it is null, perhaps not at all. -/
theorem Retold.exists_found (told : Retold Restates members fields)
    (distinct : (members.map Prod.fst).Nodup) (member : (name, json) ∈ members) :
    ∃ form, Found json form ∧ ∀ other, (name, other) ∈ fields ↔ form = some other := by
  induction told with
  | nil => cases member
  | @kept own value other rest later same told ih =>
      obtain ⟨absent, distinct⟩ := List.nodup_cons.mp distinct
      rcases List.mem_cons.mp member with first | member
      · cases first
        refine ⟨some other, .there same, fun found => ?_⟩
        constructor
        · intro among
          rcases List.mem_cons.mp among with own | among
          · cases own
            rfl
          · exact absurd among (told.notMem absent found)
        · rintro ⟨⟩
          exact List.mem_cons_self
      · obtain ⟨form, found, only⟩ := ih distinct member
        refine ⟨form, found, fun other => Iff.trans ?_ (only other)⟩
        rw [List.mem_cons]
        refine or_iff_right fun same => absent ?_
        exact List.mem_map.mpr ⟨_, member, (congrArg Prod.fst same : name = own)⟩
  | @leftOut own rest later told ih =>
      obtain ⟨absent, distinct⟩ := List.nodup_cons.mp distinct
      rcases List.mem_cons.mp member with first | member
      · cases first
        refine ⟨none, .absent rfl, fun other => ?_⟩
        exact iff_of_false (told.notMem absent other) nofun
      · exact ih distinct member

theorem Retold.map_fst_sublist (told : Retold Restates members fields) :
    (fields.map Prod.fst).Sublist (members.map Prod.fst) := by
  induction told with
  | nil => exact .slnil
  | @kept name _ _ _ _ _ _ ih => exact ih.cons_cons name
  | @leftOut name _ _ _ ih => exact ih.cons name

/-- With distinct names, no member of a record is told twice, whatever other members there are. -/
theorem once_of_perm {extra : List (String × Json)} (told : Retold Restates members fields)
    (distinct : (members.map Prod.fst).Nodup)
    (unknown : ∀ member ∈ extra, member.1 ∉ members.map Prod.fst)
    (order : written.Perm (fields ++ extra)) : Once (members.map Prod.fst) written := by
  intro name known
  have none : (extra.map Prod.fst).count name = 0 := by
    refine List.count_eq_zero.mpr fun among => ?_
    obtain ⟨member, more, rfl⟩ := List.mem_map.mp among
    exact unknown member more known
  calc (written.map Prod.fst).count name
      = ((fields ++ extra).map Prod.fst).count name := (order.map Prod.fst).count_eq name
    _ = (fields.map Prod.fst).count name := by
      rw [List.map_append, List.count_append, none, Nat.add_zero]
    _ ≤ (members.map Prod.fst).count name := told.map_fst_sublist.count_le name
    _ ≤ 1 := List.nodup_iff_count.mp distinct name

/-- What says the same as a record is a record, in which each member is found once under its
name. -/
theorem exists_written (distinct : (members.map Prod.fst).Nodup)
    (same : Restates (object members) json) :
    ∃ written, json = object written ∧ Once (members.map Prod.fst) written ∧
      ∀ member ∈ members, Found member.2 (written.lookup member.1) := by
  obtain ⟨fields, extra, written, rfl, told, unknown, order⟩ :
      ∃ fields extra written, json = object written ∧ Retold Restates members fields ∧
        (∀ member ∈ extra, member.1 ∉ members.map Prod.fst) ∧ written.Perm (fields ++ extra) := by
    cases same with
    | same =>
        exact ⟨members, [], members, rfl, retold_self members, List.forall_mem_nil _, by simp⟩
    | record told unknown order => exact ⟨_, _, _, rfl, told, unknown, order⟩
  refine ⟨written, rfl, once_of_perm told distinct unknown order, fun member among => ?_⟩
  obtain ⟨form, found, only⟩ := told.exists_found distinct among
  have lookup : written.lookup member.1 = form := by
    refine lookup_eq fun other => Iff.trans ?_ (only other)
    rw [order.mem_iff, List.mem_append]
    exact or_iff_left fun more => unknown _ more (List.mem_map.mpr ⟨member, among, rfl⟩)
  rw [lookup]
  exact found

/-! ## Declarations -/

namespace Word

variable {α : Type}

theorem low_le_toInt (word : Word α) (value : α) : word.low ≤ word.toInt value := by
  cases word with
  | uint8 => exact Int.natCast_nonneg _
  | uint16 => exact Int.natCast_nonneg _
  | uint32 => exact Int.natCast_nonneg _
  | uint64 => exact Int.natCast_nonneg _
  | int32 => exact value.minValue_le_toInt

theorem toInt_le_high (word : Word α) (value : α) : word.toInt value ≤ word.high := by
  cases word with
  | uint8 => exact Int.le_sub_one_of_lt (Int.ofNat_lt.mpr value.toNat_lt)
  | uint16 => exact Int.le_sub_one_of_lt (Int.ofNat_lt.mpr value.toNat_lt)
  | uint32 => exact Int.le_sub_one_of_lt (Int.ofNat_lt.mpr value.toNat_lt)
  | uint64 => exact Int.le_sub_one_of_lt (Int.ofNat_lt.mpr value.toNat_lt)
  | int32 => exact value.toInt_le

theorem ofInt_toInt (word : Word α) (value : α) : word.ofInt (word.toInt value) = value := by
  cases word with
  | uint8 => exact UInt8.ofNat_toNat
  | uint16 => exact UInt16.ofNat_toNat
  | uint32 => exact UInt32.ofNat_toNat
  | uint64 => exact UInt64.ofNat_toNat
  | int32 => exact Int32.ofInt_toInt value

end Word

theorem exactly?_val {α : Type} {length : Nat}
    (items : {items : List α // items.length = length}) :
    exactly? length items.val = some items :=
  dif_pos items.property

section Optional

variable {α : Type} (read? : Json → Option α)

theorem optionalPart?_some {json : Json} (there : json ≠ null) :
    optionalPart? read? (some json) = (read? json).map some := by
  cases json with
  | null => exact absurd rfl there
  | bool _ => rfl
  | integer _ => rfl
  | decimal _ _ => rfl
  | text _ => rfl
  | array _ => rfl
  | object _ => rfl

/-- Whether null is written or left out, there is no value. -/
theorem optionalPart?_of_null {form : Option Json} (found : Found null form) :
    optionalPart? read? form = some none := by
  cases found with
  | there same =>
      cases same
      rfl
  | absent _ => rfl

end Optional

section Names

variable {names : List String} {α : Type} {write : {α : Type} → Declaration α → α → Json}

/-- A record has no two fields of one name. -/
theorem Fields.nodup : {names : List String} → {α : Type} → Fields names α → names.Nodup
  | _, _, .nil => .nil
  | _, _, .required _ _ later fresh => List.nodup_cons.mpr ⟨fresh, later.nodup⟩
  | _, _, .optional _ _ later fresh => List.nodup_cons.mpr ⟨fresh, later.nodup⟩

theorem Fields.map_fst_members : {names : List String} → {α : Type} → (fields : Fields names α) →
    (values : α) → (fields.members write values).map Prod.fst = names
  | _, _, .nil, _ => rfl
  | _, _, .required name _ later _, (_, rest) => congrArg (name :: ·) (later.map_fst_members rest)
  | _, _, .optional name _ later _, (some _, rest) =>
    congrArg (name :: ·) (later.map_fst_members rest)
  | _, _, .optional name _ later _, (none, rest) =>
    congrArg (name :: ·) (later.map_fst_members rest)

theorem Variants.member_fst_mem : {names : List String} → {α : Type} →
    (variants : Variants names α) → (value : α) → (variants.member write value).1 ∈ names
  | _, _, .cons _ _ _ _, .inl _ => List.mem_cons_self
  | _, _, .cons _ _ later _, .inr value => List.mem_cons_of_mem _ (later.member_fst_mem value)

end Names

/-! ## Lossless codecs -/

namespace Codec

/-- Whether a codec reads every value back from whatever says the same as its form, which is never
null. -/
structure Lossless (codec : Codec) {α : Type} (declaration : Declaration α) : Prop where
  ne_null : ∀ value, codec.write declaration value ≠ null
  read?_eq : ∀ {value : α} {json : Json}, Restates (codec.write declaration value) json →
    codec.read? declaration json = some value

/-- Whether a codec reads the parts of every record back from any members among which its own are
found. -/
def LosslessFields (codec : Codec) {names : List String} {α : Type} (fields : Fields names α) :
    Prop :=
  ∀ {values : α} {members : List (String × Json)},
    (∀ member ∈ fields.members codec.write values, Found member.2 (members.lookup member.1)) →
      fields.parts? codec.read? members = some values

variable {codec : Codec} {α β : Type} {names : List String} {name : String}

namespace Lossless

variable {type : Declaration α}

theorem mapM_eq (lossless : codec.Lossless type) (values : List α) :
    (values.map (codec.write type)).mapM (codec.read? type) = some values := by
  induction values with
  | nil => rfl
  | cons first rest ih =>
      rw [List.map_cons, List.mapM_cons, lossless.read?_eq (.same _), ih]
      rfl

/-- Where all forms are plain, it is enough that the forms themselves are read. -/
theorem of_plain {form : α → Json} (write_eq : ∀ value, codec.write type value = form value)
    (plain : ∀ value, (form value).IsPlain)
    (read_form : ∀ value, codec.read? type (form value) = some value) : codec.Lossless type where
  ne_null value := by
    rw [write_eq]
    exact (plain value).ne_null
  read?_eq {value json} same := by
    rw [write_eq] at same
    rw [(plain value).eq_of_restates same, read_form]

/-- The part of a required field is read from what is found of its form. -/
theorem bind_eq (lossless : codec.Lossless type) {value : α} {form : Option Json}
    (found : Found (codec.write type value) form) : form.bind (codec.read? type) = some value := by
  cases found with
  | there same => exact lossless.read?_eq same
  | absent nothing => exact absurd nothing (lossless.ne_null value)

theorem optionalPart?_eq (lossless : codec.Lossless type) {value : α} {form : Option Json}
    (found : Found (codec.write type value) form) :
    optionalPart? (codec.read? type) form = some (some value) := by
  cases found with
  | there same =>
      have there := same.ne_null (lossless.ne_null value)
      exact (optionalPart?_some _ there).trans (congrArg (Option.map some) (lossless.read?_eq same))
  | absent nothing => exact absurd nothing (lossless.ne_null value)

theorem required (lossless : codec.Lossless type) {later : Fields names β}
    (rest : codec.LosslessFields later) (fresh : name ∉ names) :
    codec.LosslessFields (.required name type later fresh) := by
  intro values members found
  obtain ⟨value, values⟩ := values
  obtain ⟨own, others⟩ := List.forall_mem_cons.mp found
  have first : (members.lookup name).bind (codec.read? type) = some value := lossless.bind_eq own
  rw [Fields.parts?, first, rest others]
  rfl

theorem optional (lossless : codec.Lossless type) {later : Fields names β}
    (rest : codec.LosslessFields later) (fresh : name ∉ names) :
    codec.LosslessFields (.optional name type later fresh) := by
  intro values members found
  obtain ⟨value?, values⟩ := values
  cases value? with
  | none =>
      obtain ⟨own, others⟩ := List.forall_mem_cons.mp found
      have first : optionalPart? (codec.read? type) (members.lookup name) = some none :=
        optionalPart?_of_null _ own
      rw [Fields.parts?, first, rest others]
      rfl
  | some value =>
      obtain ⟨own, others⟩ := List.forall_mem_cons.mp found
      have first : optionalPart? (codec.read? type) (members.lookup name) = some (some value) :=
        lossless.optionalPart?_eq own
      rw [Fields.parts?, first, rest others]
      rfl

end Lossless

namespace Conforms

variable (conforms : codec.Conforms)

include conforms

theorem lossless_word (word : Word α) : codec.Lossless (.word word) := by
  refine .of_plain (conforms.write_word word) (fun _ => trivial) fun value => ?_
  rw [conforms.read?_word word (word.low_le_toInt value) (word.toInt_le_high value),
    word.ofInt_toInt]

theorem lossless_text : codec.Lossless .text :=
  .of_plain conforms.write_text (fun _ => trivial) conforms.read?_text

theorem lossless_list {item : Declaration α} (lossless : codec.Lossless item) :
    codec.Lossless (.list item) := by
  refine .of_plain (conforms.write_list item) (fun _ => trivial) fun values => ?_
  rw [conforms.read?_list, lossless.mapM_eq]

theorem lossless_array {length : Nat} {item : Declaration α} (lossless : codec.Lossless item) :
    codec.Lossless (.array length item) := by
  refine .of_plain (conforms.write_array length item) (fun _ => trivial) fun values => ?_
  rw [conforms.read?_array, lossless.mapM_eq]
  exact exactly?_val values

theorem lossless_transparent {inner : Declaration β} {build : β → α} {part : α → β}
    {build_part : ∀ value, build (part value) = value} (lossless : codec.Lossless inner) :
    codec.Lossless (.transparent inner build part build_part) where
  ne_null value := by
    rw [conforms.write_transparent]
    exact lossless.ne_null (part value)
  read?_eq {value json} same := by
    rw [conforms.write_transparent] at same
    rw [conforms.read?_transparent, lossless.read?_eq same]
    exact congrArg some (build_part value)

theorem lossless_record {fields : Fields names β} {build : β → α} {parts : α → β}
    {build_parts : ∀ value, build (parts value) = value} (lossless : codec.LosslessFields fields) :
    codec.Lossless (.record fields build parts build_parts) where
  ne_null value := by
    rw [conforms.write_record]
    exact nofun
  read?_eq {value json} same := by
    have own : (fields.members codec.write (parts value)).map Prod.fst = names :=
      fields.map_fst_members (parts value)
    rw [conforms.write_record] at same
    have distinct := fields.nodup
    rw [← own] at distinct
    obtain ⟨written, rfl, once, found⟩ := exists_written distinct same
    rw [own] at once
    rw [conforms.read?_record fields build parts build_parts once, lossless found]
    exact congrArg some (build_parts value)

end Conforms

mutual

/-- A codec that conforms reads everything back from whatever says the same as what it writes. -/
theorem Conforms.lossless {codec : Codec} (conforms : codec.Conforms) :
    {α : Type} → (declaration : Declaration α) → codec.Lossless declaration
  | _, .word word => conforms.lossless_word word
  | _, .text => conforms.lossless_text
  | _, .list item => conforms.lossless_list (conforms.lossless item)
  | _, .array _ item => conforms.lossless_array (conforms.lossless item)
  | _, .transparent inner _ _ _ => conforms.lossless_transparent (conforms.lossless inner)
  | _, .record fields _ _ _ => conforms.lossless_record (conforms.losslessFields fields)

theorem Conforms.losslessFields {codec : Codec} (conforms : codec.Conforms) :
    {names : List String} → {α : Type} → (fields : Fields names α) → codec.LosslessFields fields
  | _, _, .nil => fun _ => rfl
  | _, _, .required _ type later fresh =>
    (conforms.lossless type).required (conforms.losslessFields later) fresh
  | _, _, .optional _ type later fresh =>
    (conforms.lossless type).optional (conforms.losslessFields later) fresh

end

end Codec

end TrafficShaping.Json
