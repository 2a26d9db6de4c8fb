import Mathlib.Algebra.Order.BigOperators.Group.List
import Mathlib.Algebra.Order.Ring.Nat
import TrafficShaping.Proofs.Attribute.Order

/-!
Which trees of attributes are too long to be written.

A header counts itself and its payload in 16 bits, and is made before anything below it is written.
A nest has room for all that is below it, headers and fillings included
(`Attribute.Below.payloadLength_le`), so that a tree fits as a whole or fails at its top. A sequence
is written when all of its trees fit (`Attribute.exists_writeAll_iff_fits`) and otherwise refused
for the first that does not (`Attribute.writeAll_eq_error_iff`).
-/

namespace TrafficShaping.Attribute

/-- Whether 16 bits are enough to count the header of a tree and its payload. -/
def Fits (tree : Attribute) : Prop := 4 + tree.payloadLength ≤ 65535

instance (tree : Attribute) : Decidable tree.Fits := inferInstanceAs (Decidable (_ ≤ _))

/-- The error for a tree that does not fit. -/
def oversized (tree : Attribute) : Error :=
  .config (.oversizedAttribute tree.tag tree.payloadLength)

/-- Whether a tree is below the top of another one, at any depth. -/
inductive Below (tree : Attribute) : Attribute → Prop
  | child {type : UInt16} {children : List Attribute} (among : tree ∈ children) :
      Below tree (.nested type children)
  | deeper {type : UInt16} {children : List Attribute} {between : Attribute}
      (among : between ∈ children) (below : Below tree between) :
      Below tree (.nested type children)

variable {tree : Attribute} {trees : List Attribute}

theorem fits_iff : tree.Fits ↔ tree.payloadLength ≤ maxAttributePayload := by
  have limit : maxAttributePayload = 65531 := rfl
  unfold Fits
  omega

/-! ## Sizes -/

theorem size_eq (tree : Attribute) : tree.size = Bytes.align (4 + tree.payloadLength) := by
  cases tree with
  | leaf type payload => rfl
  | nested type children => rfl

theorem sizes_eq_sum (trees : List Attribute) : sizes trees = (trees.map size).sum := by
  induction trees with
  | nil => rfl
  | cons first rest ih => rw [sizes, ih, List.map_cons, List.sum_cons]

theorem sizes_mod_four (trees : List Attribute) : sizes trees % 4 = 0 := by
  induction trees with
  | nil => rfl
  | cons first rest ih =>
      have multiple := Bytes.align_mod_four (4 + first.payloadLength)
      rw [sizes, size_eq]
      omega

/-- The payload of a nest is all that is below it, every filling included. -/
theorem payloadLength_nested (type : UInt16) (children : List Attribute) :
    (nested type children).payloadLength =
      (children.map fun child => Bytes.align (4 + child.payloadLength)).sum := by
  change sizes children = _
  rw [sizes_eq_sum, List.map_congr_left fun child _ => child.size_eq]

theorem payloadLength_le_of_mem {children : List Attribute} (among : tree ∈ children)
    (type : UInt16) : 4 + tree.payloadLength ≤ (nested type children).payloadLength := by
  have room : Bytes.align (4 + tree.payloadLength) ≤
      (children.map fun child => Bytes.align (4 + child.payloadLength)).sum :=
    List.le_sum_of_mem (List.mem_map_of_mem among)
  rw [payloadLength_nested]
  exact Nat.le_trans (Bytes.le_align _) room

/-- A nest has room for everything below it. -/
theorem Below.payloadLength_le {below : Attribute} (there : Below below tree) :
    4 + below.payloadLength ≤ tree.payloadLength := by
  induction there with
  | child among => exact payloadLength_le_of_mem among _
  | @deeper type children between among _ ih =>
      have room := payloadLength_le_of_mem among type
      omega

theorem Below.fits {below : Attribute} (there : Below below tree) (fits : tree.Fits) :
    below.Fits := by
  have room := there.payloadLength_le
  unfold Fits at fits ⊢
  omega

/-! ## Writing -/

/-- A tree that does not fit fails at its own header, before anything below it is written. -/
theorem write_of_not_fits (long : ¬ tree.Fits) : tree.write = .error tree.oversized := by
  have refused : AttributeHeader.forPayload tree.type tree.payloadLength =
      .error tree.oversized :=
    AttributeHeader.forPayload_of_lt (Nat.not_le.mp (mt fits_iff.mpr long))
  unfold write
  cases tree with
  | leaf type payload =>
      change AttributeHeader.forPayload type payload.length = _ at refused
      rw [writeTo, refused]
      rfl
  | nested type children =>
      change AttributeHeader.forPayload type (sizes children) = _ at refused
      rw [writeTo, refused]
      rfl

theorem exists_write_iff_fits : (∃ data, tree.write = .ok data) ↔ tree.Fits := by
  constructor
  · rintro ⟨data, written⟩
    by_contra long
    cases written.symm.trans (write_of_not_fits long)
  · intro fits
    exact exists_write_of_le (fits_iff.mp fits)

theorem exists_writeAll_iff_fits :
    (∃ data, writeAll trees = .ok data) ↔ ∀ tree ∈ trees, tree.Fits := by
  rw [exists_writeAll_iff]
  exact forall₂_congr fun _ _ => exists_write_iff_fits

theorem writeAll_of_not_fits {front back : List Attribute} (fit : ∀ before ∈ front, before.Fits)
    (long : ¬ tree.Fits) : writeAll (front ++ tree :: back) = .error tree.oversized := by
  induction front with
  | nil =>
      rw [List.nil_append, writeAll_cons, write_of_not_fits long]
      rfl
  | cons first front ih =>
      obtain ⟨fits, later⟩ := List.forall_mem_cons.mp fit
      obtain ⟨data, written⟩ := exists_write_iff_fits.mpr fits
      rw [List.cons_append, writeAll_cons, written, ih later]
      rfl

theorem exists_first_of_not_fits (some : ¬ ∀ tree ∈ trees, tree.Fits) :
    ∃ front tree back, trees = front ++ tree :: back ∧ (∀ before ∈ front, before.Fits) ∧
      ¬ tree.Fits := by
  cases first : trees.find? fun tree => !decide tree.Fits with
  | none =>
      have all := List.find?_eq_none.mp first
      exact absurd (fun tree among => by simpa using all tree among) some
  | some tree =>
      obtain ⟨long, front, back, whole, fit⟩ := List.find?_eq_some_iff_append.mp first
      refine ⟨front, tree, back, whole, fun before among => ?_, by simpa using long⟩
      simpa using fit before among

theorem writeAll_eq_error_iff {error : Error} :
    writeAll trees = .error error ↔
      ∃ front tree back, trees = front ++ tree :: back ∧ (∀ before ∈ front, before.Fits) ∧
        ¬ tree.Fits ∧ error = tree.oversized := by
  constructor
  · intro failed
    have some : ¬ ∀ tree ∈ trees, tree.Fits := by
      intro all
      obtain ⟨data, written⟩ := exists_writeAll_iff_fits.mpr all
      cases written.symm.trans failed
    obtain ⟨front, tree, back, rfl, fit, long⟩ := exists_first_of_not_fits some
    have refused : writeAll (front ++ tree :: back) = .error tree.oversized :=
      writeAll_of_not_fits fit long
    exact ⟨front, tree, back, rfl, fit, long, Except.error.inj (failed.symm.trans refused)⟩
  · rintro ⟨front, tree, back, rfl, fit, long, rfl⟩
    exact writeAll_of_not_fits fit long

/-- A sequence is written exactly when its trees fit, whatever is below them, in as many bytes as
their sizes have together. Otherwise it is refused for the first tree that does not fit. -/
theorem refuses_oversized (trees : List Attribute) :
    ((∃ data, writeAll trees = .ok data) ↔ ∀ tree ∈ trees, tree.Fits) ∧
    (∀ tree below, Below below tree → tree.Fits → below.Fits) ∧
    (∀ data, writeAll trees = .ok data →
      data.length = (trees.map size).sum ∧ data.length % 4 = 0) ∧
    (∀ error, writeAll trees = .error error ↔
      ∃ front tree back, trees = front ++ tree :: back ∧ (∀ before ∈ front, before.Fits) ∧
        ¬ tree.Fits ∧ error = tree.oversized) := by
  refine ⟨exists_writeAll_iff_fits, fun _ _ there fits => there.fits fits, ?_,
    fun _ => writeAll_eq_error_iff⟩
  intro data written
  rw [length_of_writeAll written]
  exact ⟨sizes_eq_sum trees, sizes_mod_four trees⟩

/-- A leaf that fits, in a nest that its filling makes too long by a byte. -/
def filledNest : Attribute := .nested 0x8002 [.leaf 1 (Bytes.zeros 65525)]

theorem refuses_oversized_filledNest :
    (leaf 3 [1, 2]).Fits ∧ (leaf 1 (Bytes.zeros 65525)).Fits ∧ ¬ filledNest.Fits ∧
      writeAll [leaf 3 [1, 2], filledNest, leaf 4 (Bytes.zeros 70000)] =
        .error (.config (.oversizedAttribute 2 65532)) := by
  have inner : (leaf 1 (Bytes.zeros 65525)).payloadLength = 65525 := Bytes.length_zeros _
  have outer : filledNest.payloadLength = 65532 := by
    rw [filledNest, payloadLength_nested, List.map_singleton, List.sum_singleton, inner]
    rfl
  have fits : (leaf 3 [1, 2]).Fits := by decide
  have long : ¬ filledNest.Fits := by
    unfold Fits
    omega
  have named : Error.config (.oversizedAttribute 2 65532) = filledNest.oversized := by
    rw [oversized, outer]
    rfl
  refine ⟨fits, ?_, long, ?_⟩
  · unfold Fits
    omega
  · exact ((refuses_oversized _).2.2.2 _).mpr
      ⟨[leaf 3 [1, 2]], filledNest, _, rfl, List.forall_mem_singleton.mpr fits, long, named⟩

end TrafficShaping.Attribute
