import Mathlib.Data.List.Pairwise
import Mathlib.Tactic.MkIffOfInductiveProp
import TrafficShaping.Kernel.State

/-!
Tables of qdiscs and of classes.

What is said of the tables of the kernel is of two forms: no two entries of a link agree in something
(`Distinct`), or what an entry is below stands before it (`Rising`). Either survives when entries are
left out, and when an entry that fits is put at the end. A table in which entries only rise can be
gone through from the top down: `Rising.induction`.
-/

namespace TrafficShaping.Kernel

variable {link : UInt32} {entries : List Entry} {entry : Entry}

theorem isNamed_iff {handle : Handle} {entry : Entry} :
    entry.isNamed link handle = true ↔
      entry.place.link = link ∧ entry.place.handle = handle := by
  simp only [Entry.isNamed, Bool.and_eq_true, beq_iff_eq]

theorem isAttached_iff {parent : Handle} {entry : Entry} :
    entry.isAttached link parent = true ↔
      entry.place.link = link ∧ entry.place.parent = parent := by
  simp only [Entry.isAttached, Bool.and_eq_true, beq_iff_eq]

/-! ## Entries that differ -/

/-- Whether the entries of each link differ in a part of their places. -/
def Distinct (part : Placement → Handle) (entries : List Entry) : Prop :=
  entries.Pairwise fun a b => a.place.link = b.place.link → part a.place ≠ part b.place

variable {part : Placement → Handle}

theorem Distinct.eq_of_same (distinct : Distinct part entries) {a b : Entry} (memberA : a ∈ entries)
    (memberB : b ∈ entries) (onLink : a.place.link = b.place.link)
    (same : part a.place = part b.place) : a = b := by
  have symmetric : Std.Symm fun a b : Entry =>
      a.place.link = b.place.link → part a.place ≠ part b.place :=
    ⟨fun _ _ differ onLink same => differ onLink.symm same.symm⟩
  by_cases equal : a = b
  · exact equal
  · exact absurd same (List.Pairwise.forall distinct memberA memberB equal onLink)

theorem Distinct.filter (distinct : Distinct part entries) (keeps : Entry → Bool) :
    Distinct part (entries.filter keeps) :=
  List.Pairwise.filter keeps distinct

theorem Distinct.concat (distinct : Distinct part entries)
    (free : ∀ other ∈ entries, other.place.link = entry.place.link →
      part other.place ≠ part entry.place) : Distinct part (entries ++ [entry]) := by
  refine List.pairwise_append.mpr ⟨distinct, List.pairwise_singleton _ _, ?_⟩
  intro other member last same
  rw [List.mem_singleton.mp same]
  exact free other member

/-- The first entry of a link with a part of its own is the only one. -/
theorem Distinct.find?_eq (distinct : Distinct part entries) (member : entry ∈ entries)
    {condition : Entry → Bool} (exactly : ∀ other : Entry, condition other = true ↔
      other.place.link = entry.place.link ∧ part other.place = part entry.place) :
    entries.find? condition = some entry := by
  cases found : entries.find? condition with
  | none => exact absurd ((exactly entry).mpr ⟨rfl, rfl⟩) (List.find?_eq_none.mp found entry member)
  | some other =>
      obtain ⟨onLink, same⟩ := (exactly other).mp (List.find?_some found)
      rw [distinct.eq_of_same (List.mem_of_find?_eq_some found) member onLink same]

/-- When no two entries have one handle, the first of a handle is the only one. -/
theorem Distinct.find?_isNamed (distinct : Distinct Placement.handle entries)
    (member : entry ∈ entries) :
    entries.find? (·.isNamed entry.place.link entry.place.handle) = some entry :=
  distinct.find?_eq member fun _ => isNamed_iff

/-- When no two entries have one parent, the first that is attached to it is the only one. -/
theorem Distinct.find?_isAttached (distinct : Distinct Placement.parent entries)
    (member : entry ∈ entries) :
    entries.find? (·.isAttached entry.place.link entry.place.parent) = some entry :=
  distinct.find?_eq member fun _ => isAttached_iff

/-! ## Entries below earlier ones -/

/-- Whether all that is above an entry of a table stands before it. -/
@[mk_iff]
structure Rising (isBelow : Entry → Entry → Prop) (entries : List Entry) : Prop where
  earlier : entries.Pairwise fun a b => ¬ isBelow a b
  other : ∀ entry ∈ entries, ¬ isBelow entry entry

namespace Rising

variable {isBelow : Entry → Entry → Prop}

theorem filter (rising : Rising isBelow entries) (keeps : Entry → Bool) :
    Rising isBelow (entries.filter keeps) where
  earlier := List.Pairwise.filter keeps rising.earlier
  other entry member := rising.other entry (List.mem_filter.mp member).1

theorem concat (rising : Rising isBelow entries) (last : ∀ other ∈ entries, ¬ isBelow other entry)
    (alone : ¬ isBelow entry entry) : Rising isBelow (entries ++ [entry]) where
  earlier := by
    refine List.pairwise_append.mpr ⟨rising.earlier, List.pairwise_singleton _ _, ?_⟩
    intro other member new same
    rw [List.mem_singleton.mp same]
    exact last other member
  other := List.forall_mem_append.mpr ⟨rising.other, List.forall_mem_singleton.mpr alone⟩

/-- Wherever the table is cut, what is above the front part is in it. -/
theorem mem_front {front back : List Entry} (rising : Rising isBelow (front ++ back))
    (member : entry ∈ front) {above : Entry} (memberA : above ∈ front ++ back)
    (below : isBelow entry above) : above ∈ front := by
  rcases List.mem_append.mp memberA with before | after
  · exact before
  · exact absurd below ((List.pairwise_append.mp rising.earlier).2.2 entry member above after)

theorem mem_before {front back : List Entry} (rising : Rising isBelow (front ++ entry :: back))
    {above : Entry} (memberA : above ∈ front ++ entry :: back) (below : isBelow entry above) :
    above ∈ front := by
  rw [← List.singleton_append, ← List.append_assoc] at rising memberA
  have last : entry ∈ front ++ [entry] := List.mem_append_right _ List.mem_cons_self
  rcases List.mem_append.mp (rising.mem_front last memberA below) with before | same
  · exact before
  · rw [List.mem_singleton.mp same] at below
    exact absurd below (rising.other entry (List.mem_append_left _ last))

/-- A property of all that is above an entry may be used to prove it of the entry. -/
theorem induction (rising : Rising isBelow entries) {holds : Entry → Prop}
    (step : ∀ entry ∈ entries, (∀ above ∈ entries, isBelow entry above → holds above) →
      holds entry) : ∀ entry ∈ entries, holds entry := by
  -- The induction is on what is still to be visited; `front` is what has been.
  suffices visited : ∀ back front, entries = front ++ back → (∀ entry ∈ front, holds entry) →
      ∀ entry ∈ entries, holds entry from
    visited entries [] rfl (fun _ member => nomatch member)
  intro back
  induction back with
  | nil =>
      intro front whole done
      rw [whole, List.append_nil]
      exact done
  | cons next back ih =>
      intro front whole done
      have nextHolds : holds next := by
        refine step next (whole ▸ List.mem_append_right _ List.mem_cons_self) ?_
        intro above member below
        rw [whole] at member rising
        exact done above (rising.mem_before member below)
      refine ih (front ++ [next]) (by rw [whole, List.append_assoc, List.singleton_append]) ?_
      intro entry member
      rcases List.mem_append.mp member with before | last
      · exact done entry before
      · rw [List.mem_singleton.mp last]
        exact nextHolds

end Rising

/-! ## Changed options -/

/-- An entry without its options. -/
def bare (entry : Entry) : Entry := { entry with options := none }

@[simp] theorem place_bare (entry : Entry) : (bare entry).place = entry.place := rfl

@[simp] theorem kind_bare (entry : Entry) : (bare entry).kind = entry.kind := rfl

theorem exists_mem_map_bare {holds : Entry → Prop} :
    (∃ entry ∈ entries.map bare, holds entry) ↔ ∃ entry ∈ entries, holds (bare entry) := by
  simp only [List.mem_map, exists_exists_and_eq_and]

/-- Whatever options an entry is given, its place and its kind are as before. -/
theorem map_bare_setOptions (condition : Entry → Bool) (options : Option Bytes)
    (entries : List Entry) :
    (Entry.setOptions condition options entries).map bare = entries.map bare := by
  cases options with
  | none => rfl
  | some data =>
      unfold Entry.setOptions
      generalize entries.findIdx condition = position
      refine List.ext_getElem? fun index => ?_
      rw [List.getElem?_map, List.getElem?_map, List.getElem?_modify]
      split
      · cases entries[index]? with
        | none => rfl
        | some entry => rfl
      · rw [Option.map_eq_map, Option.map_id']

/-- An entry that has been given options, if there are any. -/
def withOptions (options : Option Bytes) (entry : Entry) : Entry :=
  { entry with options := options.or entry.options }

theorem setOptions_append {condition : Entry → Bool} {front back : List Entry}
    (others : ∀ other ∈ front, ¬ condition other = true) (chosen : condition entry = true)
    (options : Option Bytes) :
    Entry.setOptions condition options (front ++ entry :: back) =
      front ++ withOptions options entry :: back := by
  cases options with
  | none => rfl
  | some data =>
      unfold Entry.setOptions
      dsimp only
      induction front with
      | nil =>
          rw [List.nil_append, List.findIdx_cons, chosen]
          rfl
      | cons first front ih =>
          have passed := Bool.eq_false_iff.mpr (others first List.mem_cons_self)
          rw [List.cons_append, List.findIdx_cons, passed, cond_false, List.modify_succ_cons,
            ih fun other member => others other (List.mem_cons_of_mem _ member)]
          rfl

/-- The first entry that satisfies the condition is the only one that may differ afterwards. -/
theorem exists_setOptions_eq {condition : Entry → Bool} (found : entries.find? condition = some entry)
    (options : Option Bytes) :
    ∃ front back, entries = front ++ entry :: back ∧
      (∀ other ∈ front, ¬ condition other = true) ∧
      Entry.setOptions condition options entries = front ++ withOptions options entry :: back := by
  obtain ⟨chosen, front, back, rfl, others⟩ := List.find?_eq_some_iff_append.mp found
  have passed : ∀ other ∈ front, ¬ condition other = true := fun other member => by
    simpa using others other member
  exact ⟨front, back, rfl, passed, setOptions_append passed chosen options⟩

/-- Nothing changes when the entry has the options already. -/
theorem setOptions_eq_self {condition : Entry → Bool} {options : Option Bytes}
    (found : entries.find? condition = some entry) (same : withOptions options entry = entry) :
    Entry.setOptions condition options entries = entries := by
  obtain ⟨front, back, whole, _, set⟩ := exists_setOptions_eq found options
  rw [set, same, whole]

end TrafficShaping.Kernel
