import TrafficShaping.Proofs.Kernel.Tree

/-!
The handlers keep the tables a tree.

An accepted request changes options, on which the tree does not depend (`sound_bareTables`), or
leaves out what is below something (`Sound.restrict`), or puts a new leaf at the end of a table
(`Sound.withQdisc`, `Sound.withClass`), or does two of these. Only a qdisc that replaces another one
needs an argument: the class it is attached to must outlive the removal of the old one with all below
it, and does so since its qdisc stands earlier in the table than anything that is removed
(`Sound.not_below_of_mem_front`).
-/

namespace TrafficShaping.Kernel

/-! ## Options -/

section

variable {kernel after : Kernel}

/-- The tables of a kernel without the options of the objects. -/
def bareTables (kernel : Kernel) : Kernel :=
  { empty with qdiscs := kernel.qdiscs.map bare, classes := kernel.classes.map bare }

theorem sound_bareTables : kernel.bareTables.Sound ↔ kernel.Sound := by
  simp only [sound_iff, consistent_iff, rising_iff, owns_iff, hangs_iff, isChild_iff, Distinct,
    HasParent, bareTables, List.pairwise_map, List.forall_mem_map, exists_mem_map_bare, place_bare, kind_bare]

theorem Sound.of_bareTables_eq (sound : kernel.Sound)
    (same : after.bareTables = kernel.bareTables) : after.Sound := by
  rw [← sound_bareTables] at sound ⊢
  rw [same]
  exact sound

theorem Sound.setQdiscOptions (sound : kernel.Sound) (condition : Entry → Bool)
    (options : Option Bytes) :
    Sound { kernel with qdiscs := Entry.setOptions condition options kernel.qdiscs } := by
  refine sound.of_bareTables_eq ?_
  unfold bareTables
  dsimp only
  rw [map_bare_setOptions]

theorem Sound.setClassOptions (sound : kernel.Sound) (condition : Entry → Bool)
    (options : Option Bytes) :
    Sound { kernel with classes := Entry.setOptions condition options kernel.classes } := by
  refine sound.of_bareTables_eq ?_
  unfold bareTables
  dsimp only
  rw [map_bare_setOptions]

end

/-! ## Fewer entries -/

section

variable {kernel : Kernel} {link : UInt32} {keepsQdisc keepsClass : Entry → Bool}

/-- Whether all that something left is below is left too. -/
structure Closed (kernel : Kernel) (keepsQdisc keepsClass : Entry → Bool) : Prop where
  owner : ∀ tclass ∈ kernel.classes, keepsClass tclass = true → ∀ qdisc ∈ kernel.qdiscs,
    Owns qdisc tclass → keepsQdisc qdisc = true
  classParent : ∀ tclass ∈ kernel.classes, keepsClass tclass = true → ∀ parent ∈ kernel.classes,
    IsChild tclass parent → keepsClass parent = true
  qdiscParent : ∀ qdisc ∈ kernel.qdiscs, keepsQdisc qdisc = true →
    qdisc.place.parent.namesClass = true → ∀ tclass ∈ kernel.classes, IsChild qdisc tclass →
      keepsClass tclass = true

theorem Sound.restrict (sound : kernel.Sound) (closed : kernel.Closed keepsQdisc keepsClass) :
    Sound { kernel with
      qdiscs := kernel.qdiscs.filter keepsQdisc, classes := kernel.classes.filter keepsClass } where
  qdiscHandles := sound.qdiscHandles.filter keepsQdisc
  qdiscParents := sound.qdiscParents.filter keepsQdisc
  classHandles := sound.classHandles.filter keepsClass
  classMinor tclass left := sound.classMinor tclass (List.mem_filter.mp left).1
  owned := by
    intro tclass left
    obtain ⟨member, keeps⟩ := List.mem_filter.mp left
    obtain ⟨qdisc, present, owns⟩ := sound.owned tclass member
    have stays := closed.owner tclass member keeps qdisc present owns
    exact ⟨qdisc, List.mem_filter.mpr ⟨present, stays⟩, owns⟩
  classParent := by
    intro tclass left
    obtain ⟨member, keeps⟩ := List.mem_filter.mp left
    rcases sound.classParent tclass member with direct | ⟨parent, present, link, handle, major⟩
    · exact .inl direct
    · have stays := closed.classParent tclass member keeps parent present
        ⟨link.symm, handle.symm⟩
      exact .inr ⟨parent, List.mem_filter.mpr ⟨present, stays⟩, link, handle, major⟩
  qdiscParent := by
    intro qdisc left named
    obtain ⟨member, keeps⟩ := List.mem_filter.mp left
    obtain ⟨tclass, present, link, handle⟩ := sound.qdiscParent qdisc member named
    have stays := closed.qdiscParent qdisc member keeps named tclass present
      ⟨link.symm, handle.symm⟩
    exact ⟨tclass, List.mem_filter.mpr ⟨present, stays⟩, link, handle⟩
  plain qdisc left := sound.plain qdisc (List.mem_filter.mp left).1
  unnamed qdisc left := sound.unnamed qdisc (List.mem_filter.mp left).1
  risingQdiscs := sound.risingQdiscs.filter keepsQdisc
  risingClasses := sound.risingClasses.filter keepsClass

variable {removed pending : List Handle}

/-- What is not below the pending handles is not below anything that is. -/
theorem Sound.closed_leaves (sound : kernel.Sound)
    (exactly : ∀ handle, handle ∈ removed ↔ Below link kernel.qdiscs pending handle) :
    kernel.Closed (leavesQdisc link removed) (leavesClass link removed) where
  owner := by
    intro tclass member leaves qdisc present owns
    refine leavesQdisc_iff.mpr fun onLink among => ?_
    have major : qdisc.place.handle.major = tclass.place.handle.major := by
      rw [owns.handle, Handle.major_qdisc]
    have positive : qdisc.place.handle.major ≠ 0 := major ▸ sound.class_major member
    exact leavesClass_iff.mp leaves (owns.link ▸ onLink) _ among positive major.symm
  classParent := by
    intro tclass member leaves parent memberP child
    refine leavesClass_iff.mpr fun onLink handle among positive => ?_
    rw [sound.major_of_isChild member memberP child]
    exact leavesClass_iff.mp leaves (child.link.trans onLink) handle among positive
  qdiscParent := by
    intro qdisc member leaves named tclass present child
    refine leavesClass_iff.mpr fun onLink handle among positive major => ?_
    have qdiscOnLink := child.link.trans onLink
    have attached : qdisc ∈ attachedBelow link handle.major kernel.qdiscs :=
      mem_attachedBelow.mpr ⟨member, qdiscOnLink, named, child.parent ▸ major⟩
    have below := Below.attached ((exactly handle).mp among) positive attached
    exact leavesQdisc_iff.mp leaves qdiscOnLink ((exactly _).mpr below)

theorem Sound.remove (sound : kernel.Sound) (link : UInt32) (handles : List Handle) :
    (kernel.remove link handles).Sound := by
  obtain ⟨removed, exactly, same⟩ := exists_remove_eq kernel link handles
  rw [same]
  exact sound.restrict (sound.closed_leaves exactly)

/-- When no two entries have one handle, the first of a handle is all there is to leave out. -/
theorem Distinct.eraseP_isNamed {entries : List Entry}
    (distinct : Distinct Placement.handle entries) (link : UInt32) (handle : Handle) :
    entries.eraseP (·.isNamed link handle) = entries.filter (!·.isNamed link handle) := by
  induction entries with
  | nil => rfl
  | cons first rest ih =>
      obtain ⟨others, restDistinct⟩ := List.pairwise_cons.mp distinct
      cases named : first.isNamed link handle with
      | false =>
          rw [List.eraseP_cons_of_neg (by simp [named]), List.filter_cons_of_pos (by simp [named]),
            ih restDistinct]
      | true =>
          rw [List.eraseP_cons_of_pos named, List.filter_cons_of_neg (by simp [named])]
          refine (List.filter_eq_self.mpr fun other member => ?_).symm
          obtain ⟨onLink, same⟩ := isNamed_iff.mp named
          rw [Bool.not_eq_true', Bool.eq_false_iff, ne_eq, isNamed_iff]
          rintro ⟨otherLink, otherSame⟩
          exact others other member (onLink.trans otherLink.symm) (same.trans otherSame.symm)

/-- A class may go when no class is attached to it, with all that is below its qdiscs. -/
theorem Sound.removeClass (sound : kernel.Sound) (link : UInt32) (handle : Handle)
    (childless : ∀ tclass ∈ kernel.classes, tclass.place.link = link →
      tclass.place.parent ≠ handle) :
    Sound ((kernel.withoutClass link handle).remove link (kernel.attachedHandles link handle)) := by
  obtain ⟨removed, exactly, same⟩ := exists_remove_eq (kernel.withoutClass link handle) link
    (kernel.attachedHandles link handle)
  have rest : kernel.Closed (leavesQdisc link removed) (leavesClass link removed) :=
    sound.closed_leaves exactly
  have classes : (kernel.withoutClass link handle).classes.filter (leavesClass link removed) =
      kernel.classes.filter fun tclass =>
        leavesClass link removed tclass && !tclass.isNamed link handle := by
    unfold withoutClass
    rw [sound.classHandles.eraseP_isNamed, List.filter_filter]
  rw [same, classes]
  refine sound.restrict ⟨?_, ?_, ?_⟩
  · intro tclass member leaves
    exact rest.owner tclass member (Bool.and_eq_true_iff.mp leaves).1
  · intro tclass member leaves parent memberP child
    have stays := rest.classParent tclass member (Bool.and_eq_true_iff.mp leaves).1 parent memberP
      child
    refine Bool.and_eq_true_iff.mpr ⟨stays, ?_⟩
    rw [Bool.not_eq_true', Bool.eq_false_iff, ne_eq, isNamed_iff]
    rintro ⟨onLink, named⟩
    exact childless tclass member (child.link.trans onLink) (child.parent.trans named)
  · intro qdisc member leaves named tclass present child
    refine Bool.and_eq_true_iff.mpr
      ⟨rest.qdiscParent qdisc member leaves named tclass present child, ?_⟩
    rw [Bool.not_eq_true', Bool.eq_false_iff, ne_eq, isNamed_iff]
    rintro ⟨onLink, same⟩
    have qdiscOnLink := child.link.trans onLink
    have pending : qdisc.place.handle ∈ kernel.attachedHandles link handle := by
      refine List.mem_map.mpr ⟨qdisc, List.mem_filter.mpr ⟨member, ?_⟩, rfl⟩
      exact isAttached_iff.mpr ⟨qdiscOnLink, child.parent.trans same⟩
    have below : Below link kernel.qdiscs (kernel.attachedHandles link handle)
        qdisc.place.handle := .pending member qdiscOnLink pending
    exact leavesQdisc_iff.mp leaves qdiscOnLink ((exactly _).mpr below)

end

/-! ## More entries -/

section

variable {kernel : Kernel} {qdisc tclass : Entry}

/-- A qdisc can be attached to a free place under a free handle. -/
theorem Sound.withQdisc (sound : kernel.Sound) (plain : qdisc.place.handle.minor = 0)
    (unnamed : qdisc.place.handle.isNone = true →
      qdisc.place.parent.isRoot = true ∧ qdisc.kind ∉ classfulKinds)
    (freeHandle : ∀ other ∈ kernel.qdiscs, other.place.link = qdisc.place.link →
      other.place.handle ≠ qdisc.place.handle)
    (freeParent : ∀ other ∈ kernel.qdiscs, other.place.link = qdisc.place.link →
      other.place.parent ≠ qdisc.place.parent)
    (placed : qdisc.place.parent.namesClass = true → ∃ tclass ∈ kernel.classes,
      tclass.place.link = qdisc.place.link ∧ tclass.place.handle = qdisc.place.parent) :
    (kernel.withQdisc qdisc).Sound := by
  have notOwner : ∀ owner ∈ kernel.qdiscs, ∀ hanging : Entry,
      hanging.place.parent.major = owner.place.handle.major →
      qdisc.place.link = owner.place.link → ¬ Hangs hanging qdisc := by
    intro owner member hanging major link hangs
    refine freeHandle owner member link.symm ?_
    exact Handle.eq_of_major (sound.plain owner member) plain (major.symm.trans hangs.major)
  exact {
    qdiscHandles := sound.qdiscHandles.concat freeHandle
    qdiscParents := sound.qdiscParents.concat freeParent
    classHandles := sound.classHandles
    classMinor := sound.classMinor
    classParent := sound.classParent
    risingClasses := sound.risingClasses
    owned := by
      intro tclass member
      obtain ⟨owner, present, owns⟩ := sound.owned tclass member
      exact ⟨owner, List.mem_append_left _ present, owns⟩
    qdiscParent := List.forall_mem_append.mpr
      ⟨sound.qdiscParent, List.forall_mem_singleton.mpr placed⟩
    plain := List.forall_mem_append.mpr ⟨sound.plain, List.forall_mem_singleton.mpr plain⟩
    unnamed := List.forall_mem_append.mpr ⟨sound.unnamed, List.forall_mem_singleton.mpr unnamed⟩
    risingQdiscs := by
      refine sound.risingQdiscs.concat (fun other member hangs => ?_) fun hangs => ?_
      · obtain ⟨_, _, _, _, owner, present, _, above⟩ := sound.exists_hangs member hangs.namesClass
        exact notOwner owner present other above.major (hangs.link.symm.trans above.link) hangs
      · obtain ⟨tclass, present, link, handle⟩ := placed hangs.namesClass
        obtain ⟨owner, memberO, owns⟩ := sound.owned tclass present
        have major : qdisc.place.parent.major = owner.place.handle.major := by
          rw [owns.handle, Handle.major_qdisc, handle]
        exact notOwner owner memberO qdisc major (link.symm.trans owns.link.symm) hangs }

/-- The kernel can attach a qdisc by itself to a link that has none. -/
theorem Sound.withDefaultRoot (sound : kernel.Sound) {link : UInt32}
    (free : ∀ other ∈ kernel.qdiscs, other.place.link = link → other.place.parent ≠ .root) :
    (kernel.withQdisc (.defaultRoot link)).Sound := by
  have plain : Handle.none.minor = 0 := by decide
  have classless : QdiscKind.pfifoFast.name ∉ classfulKinds := by decide
  have onLink : ¬ Handle.root.namesClass = true := by decide
  refine sound.withQdisc plain (fun _ => ⟨rfl, classless⟩) ?_ free (fun named => absurd named onLink)
  intro other member onLink nameless
  have unnamed := sound.unnamed other member (Handle.isNone_iff.mpr nameless)
  exact free other member onLink (Handle.isRoot_iff.mp unnamed.1)

/-- A class can be attached to its qdisc or to another class of it under a free handle. -/
theorem Sound.withClass (sound : kernel.Sound) (minor : tclass.place.handle.minor ≠ 0)
    (owned : ∃ qdisc ∈ kernel.qdiscs, Owns qdisc tclass)
    (free : ∀ other ∈ kernel.classes, other.place.link = tclass.place.link →
      other.place.handle ≠ tclass.place.handle)
    (placed : HasParent kernel.classes tclass) : (kernel.withClass tclass).Sound := by
  have notParent : ∀ child : Entry, child.place.link = tclass.place.link →
      HasParent kernel.classes child → ¬ IsChild child tclass := by
    rintro child link (direct | ⟨parent, member, parentLink, handle, _⟩) isChild
    · refine minor ?_
      rw [← isChild.parent, direct]
      exact Handle.minor_qdisc _
    · exact free parent member (parentLink.trans link) (handle.trans isChild.parent)
  exact {
    qdiscHandles := sound.qdiscHandles
    qdiscParents := sound.qdiscParents
    plain := sound.plain
    unnamed := sound.unnamed
    risingQdiscs := sound.risingQdiscs
    classHandles := sound.classHandles.concat free
    classMinor := List.forall_mem_append.mpr
      ⟨sound.classMinor, List.forall_mem_singleton.mpr minor⟩
    owned := List.forall_mem_append.mpr ⟨sound.owned, List.forall_mem_singleton.mpr owned⟩
    classParent := by
      have widen : ∀ other : Entry, HasParent kernel.classes other →
          HasParent (kernel.classes ++ [tclass]) other := fun other =>
        Or.imp_right fun ⟨parent, present, rest⟩ =>
          ⟨parent, List.mem_append_left _ present, rest⟩
      refine List.forall_mem_append.mpr ⟨fun other member => ?_, ?_⟩
      · exact widen other (sound.classParent other member)
      · exact List.forall_mem_singleton.mpr (widen tclass placed)
    qdiscParent := by
      intro qdisc member named
      obtain ⟨parent, present, rest⟩ := sound.qdiscParent qdisc member named
      exact ⟨parent, List.mem_append_left _ present, rest⟩
    risingClasses := by
      refine sound.risingClasses.concat (fun other member isChild => ?_) ?_
      · exact notParent other isChild.link (sound.classParent other member) isChild
      · exact notParent tclass rfl placed }

end

/-! ## The start -/

/-- Links of different indexes each start with a qdisc of their own. -/
theorem sound_foldl_withLink (links : List Link) :
    ∀ kernel : Kernel, kernel.Sound → (links.map Link.index).Nodup →
      (∀ link ∈ links, ∀ qdisc ∈ kernel.qdiscs, qdisc.place.link ≠ link.index) →
      (links.foldl withLink kernel).Sound := by
  induction links with
  | nil => exact fun kernel sound _ _ => sound
  | cons link links ih =>
      intro kernel sound distinct fresh
      obtain ⟨others, rest⟩ := List.nodup_cons.mp distinct
      have noneYet := fresh link List.mem_cons_self
      have attached : (kernel.withQdisc (.defaultRoot link.index)).Sound :=
        sound.withDefaultRoot fun other member onLink => absurd onLink (noneYet other member)
      refine ih (kernel.withLink link) (attached.of_bareTables_eq rfl) rest ?_
      intro later member qdisc present
      rcases List.mem_append.mp present with old | new
      · exact fresh later (List.mem_cons_of_mem _ member) qdisc old
      · rw [List.mem_singleton.mp new]
        intro same
        exact others (List.mem_map.mpr ⟨later, member, same.symm⟩)

theorem sound_ofLinks {links : List Link} (distinct : (links.map Link.index).Nodup) :
    (ofLinks links).Sound := by
  have sound : empty.Sound := by
    constructor
    · constructor
      · exact List.Pairwise.nil
      · exact List.Pairwise.nil
      · exact List.Pairwise.nil
      · exact fun _ member => nomatch member
      · exact fun _ member => nomatch member
      · exact fun _ member => nomatch member
      · exact fun _ member => nomatch member
    · exact fun _ member => nomatch member
    · exact fun _ member => nomatch member
    · exact ⟨List.Pairwise.nil, fun _ member => nomatch member⟩
    · exact ⟨List.Pairwise.nil, fun _ member => nomatch member⟩
  exact sound_foldl_withLink links empty sound distinct fun _ _ _ member => nomatch member

/-! ## A place that is cleared -/

section

variable {kernel : Kernel} {link : UInt32} {qdisc owner tclass : Entry} {handle : Handle}

/-- Where a qdisc is attached to a class with the major number of a handle, it hangs from the qdisc of
that handle. -/
theorem Sound.handle_eq_of_hangs (sound : kernel.Sound) (memberO : owner ∈ kernel.qdiscs)
    (hangs : Hangs qdisc owner) {pending : List Handle}
    (below : Below link kernel.qdiscs pending handle)
    (major : qdisc.place.parent.major = handle.major) : owner.place.handle = handle := by
  obtain ⟨holder, memberH, _, holds⟩ := below.exists_mem
  rw [← holds]
  refine Handle.eq_of_major (sound.plain owner memberO) (sound.plain holder memberH) ?_
  rw [← hangs.major, major, holds]

/-- All that is below a qdisc stands behind it. -/
theorem Sound.not_below_of_mem_front (sound : kernel.Sound) {front back : List Entry}
    (whole : kernel.qdiscs = front ++ qdisc :: back) (onLink : qdisc.place.link = link)
    (below : Below link kernel.qdiscs [qdisc.place.handle] handle) :
    ∀ other ∈ front, other.place.link = link → other.place.handle ≠ handle := by
  have inTable : ∀ other ∈ front, other ∈ kernel.qdiscs := fun other member =>
    whole ▸ List.mem_append_left _ member
  induction below with
  | pending _ _ among =>
      intro other member otherLink same
      have distinct : Distinct Placement.handle (front ++ qdisc :: back) :=
        whole ▸ sound.qdiscHandles
      have differ := (List.pairwise_append.mp distinct).2.2 other member qdisc List.mem_cons_self
      exact differ (otherLink.trans onLink.symm) (same.trans (List.mem_singleton.mp among))
  | @attached above hanging aboveBelow _ member ih =>
      intro other front otherLink same
      obtain ⟨present, hangingLink, named, major⟩ := mem_attachedBelow.mp member
      have isHanging : other = hanging := sound.qdiscHandles.eq_of_same (inTable other front) present
        (otherLink.trans hangingLink.symm) same
      subst isHanging
      -- The qdisc that it hangs from is in front too, and is the one of the handle above.
      obtain ⟨_, _, _, _, owner, memberO, _, hangs⟩ := sound.exists_hangs present named
      have ownerFront : owner ∈ _ := Rising.mem_front (whole ▸ sound.risingQdiscs) front
        (whole ▸ memberO) hangs
      exact ih owner ownerFront (hangs.link.symm.trans otherLink)
        (sound.handle_eq_of_hangs memberO hangs aboveBelow major)

/-- A qdisc that hangs from another one is not above it. -/
theorem Sound.not_below_of_hangs (sound : kernel.Sound) (memberQ : qdisc ∈ kernel.qdiscs)
    (memberO : owner ∈ kernel.qdiscs) (hangs : Hangs qdisc owner) :
    ¬ Below qdisc.place.link kernel.qdiscs [qdisc.place.handle] owner.place.handle := by
  intro below
  obtain ⟨front, back, whole⟩ := List.append_of_mem memberQ
  have ownerFront : owner ∈ front := Rising.mem_before (whole ▸ sound.risingQdiscs)
    (whole ▸ memberO) hangs
  exact sound.not_below_of_mem_front whole rfl below owner ownerFront hangs.link.symm rfl

/-- The class that a qdisc is attached to does not belong to what is below the qdisc. -/
theorem Sound.class_outlives (sound : kernel.Sound) (memberQ : qdisc ∈ kernel.qdiscs)
    (named : qdisc.place.parent.namesClass = true)
    (below : Below qdisc.place.link kernel.qdiscs [qdisc.place.handle] handle) :
    qdisc.place.parent.major ≠ handle.major := by
  intro major
  obtain ⟨_, _, _, _, owner, memberO, _, hangs⟩ := sound.exists_hangs memberQ named
  have same := sound.handle_eq_of_hangs memberO hangs below major
  exact sound.not_below_of_hangs memberQ memberO hangs (same ▸ below)

variable {parent : Handle} {attached : Option Entry}

theorem mem_qdiscs_of_child? (found : kernel.child? link parent = some qdisc) :
    qdisc ∈ kernel.qdiscs ∧ qdisc.place.link = link ∧ qdisc.place.parent = parent :=
  ⟨List.mem_of_find?_eq_some found, isAttached_iff.mp (List.find?_some found)⟩

/-- Once what was attached to a place is removed, the place is free. -/
theorem Distinct.free_of_remove (parents : Distinct Placement.parent kernel.qdiscs)
    (found : kernel.child? link parent = attached) :
    ∀ other ∈ (kernel.remove link (attached.toList.map (·.place.handle))).qdiscs,
      other.place.link = link → other.place.parent ≠ parent := by
  intro other left onLink atPlace
  have member := (mem_qdiscs_remove.mp left).1
  cases attached with
  | none => exact List.find?_eq_none.mp found other member (isAttached_iff.mpr ⟨onLink, atPlace⟩)
  | some qdisc =>
      obtain ⟨present, qdiscLink, qdiscPlace⟩ := mem_qdiscs_of_child? found
      have isQdisc : other = qdisc := parents.eq_of_same member present
        (onLink.trans qdiscLink.symm) (atPlace.trans qdiscPlace.symm)
      refine handle_notMem_of_mem_remove left onLink ?_
      exact List.mem_singleton.mpr (congrArg (·.place.handle) isQdisc)

/-- Once what was attached to a class is removed, the class is still there. -/
theorem Sound.class_of_remove (sound : kernel.Sound)
    (found : kernel.child? link parent = attached) (named : parent.namesClass = true)
    (classed : ∃ tclass, kernel.class? link parent = some tclass) :
    ∃ tclass ∈ (kernel.remove link (attached.toList.map (·.place.handle))).classes,
      tclass.place.link = link ∧ tclass.place.handle = parent := by
  obtain ⟨tclass, looked⟩ := classed
  obtain ⟨onLink, handle⟩ := isNamed_iff.mp (List.find?_some looked)
  obtain ⟨removed, exactly, same⟩ :=
    exists_remove_eq kernel link (attached.toList.map (·.place.handle))
  rw [same]
  refine ⟨tclass, List.mem_filter.mpr ⟨List.mem_of_find?_eq_some looked, ?_⟩, onLink, handle⟩
  refine leavesClass_iff.mpr fun _ gone among _ => ?_
  have below := (exactly gone).mp among
  cases attached with
  | none => exact absurd below (not_below_nil gone)
  | some qdisc =>
      obtain ⟨present, rfl, rfl⟩ := mem_qdiscs_of_child? found
      rw [handle]
      exact sound.class_outlives present named below

end

/-! ## Handlers -/

section

variable {kernel after : Kernel} {flags : UInt16} {request : TrafficRequest}

/-- A qdisc may be created under a handle that no other one has. -/
theorem Sound.createsQdisc_of_free (sound : kernel.Sound) {kind : String} {attached : Option Entry}
    {handle : Handle} {between : Kernel}
    (creates : CreatesQdisc kernel flags request kind attached handle between after)
    (plain : handle.minor = 0) (given : handle.isNone = false)
    (unused : kernel.qdisc? request.record.place.link handle = none) : after.Sound := by
  obtain ⟨nextMajor, rfl⟩ := exists_nextMajor_of_takeHandle creates.taken
  have start : Sound { kernel with nextMajor } := sound.of_bareTables_eq rfl
  rw [creates.after_eq]
  have left := start.remove request.record.place.link (attached.toList.map (·.place.handle))
  refine left.withQdisc plain (fun nameless => Bool.noConfusion (given.symm.trans nameless)) ?_ ?_ ?_
  · intro other member onLink same
    have present := (mem_qdiscs_remove.mp member).1
    exact List.find?_eq_none.mp unused other present (isNamed_iff.mpr ⟨onLink, same⟩)
  · exact start.qdiscParents.free_of_remove creates.found
  · exact fun named => start.class_of_remove creates.found named (creates.parent named).tclass

theorem Sound.createsQdisc (sound : kernel.Sound) {kind : String} {attached : Option Entry}
    {handle : Handle} {between : Kernel}
    (creates : CreatesQdisc kernel flags request kind attached handle between after)
    (given : ¬ request.record.place.handle.isNone = true) : after.Sound := by
  obtain ⟨plain, unused, _⟩ := creates.given given
  obtain ⟨rfl, rfl⟩ := creates.taken_of_given given
  exact sound.createsQdisc_of_free creates plain (Bool.eq_false_iff.mpr given) unused

/-- A new qdisc needs a handle of its own. -/
theorem Sound.newQdisc (sound : kernel.Sound)
    (done : Kernel.newQdisc flags request kernel = .ok () after)
    (given : MessageFlag.isSet flags MessageFlag.create = true →
      ¬ request.record.place.handle.isNone = true) : after.Sound := by
  rcases newQdisc_eq_ok done with ⟨qdisc, changes⟩ | ⟨kind, attached, handle, between, creates⟩
  · rw [changes.after_eq]
    exact sound.setQdiscOptions _ _
  · exact sound.createsQdisc creates (given creates.creates)

theorem Sound.deleteQdisc (sound : kernel.Sound)
    (done : Kernel.deleteQdisc request kernel = .ok () after) : after.Sound := by
  obtain ⟨qdisc, deletes⟩ := deleteQdisc_eq_ok done
  have left := sound.remove request.record.place.link [qdisc.place.handle]
  have free := sound.qdiscParents.free_of_remove deletes.found
  rw [deletes.after_eq]
  dsimp only
  split
  · next root =>
      rw [Handle.isRoot_iff.mp root] at free
      exact left.withDefaultRoot free
  · exact left

theorem Sound.createsClass (sound : kernel.Sound) {qdisc : Entry} {handle parent : Handle}
    (creates : CreatesClass kernel flags request qdisc handle parent after) : after.Sound := by
  have target := creates.target
  have major : handle.major = qdisc.place.handle.major := by
    rw [target.handle_eq, Handle.major_ofParts]
  have own : qdisc.place.handle = handle.qdisc :=
    Handle.eq_of_major (sound.plain qdisc target.member) (Handle.minor_qdisc _)
      (major.symm.trans (Handle.major_qdisc _).symm)
  rw [creates.after_eq]
  refine sound.withClass ?_ ⟨qdisc, target.member, target.link, own, target.kind, rfl⟩ ?_ ?_
  · rw [target.handle_eq, Handle.minor_ofParts]
    exact target.minor
  · intro other member onLink same
    exact List.find?_eq_none.mp creates.free other member (isNamed_iff.mpr ⟨onLink, same⟩)
  · rcases creates.placed with direct | ⟨tclass, looked⟩
    · exact .inl (direct.trans own)
    · cases root : request.record.place.parent.isRoot with
      | true =>
          have direct := creates.parent_eq
          rw [root] at direct
          exact .inl (direct.trans own)
      | false =>
          have below := creates.parent_eq
          rw [root] at below
          have member := List.mem_of_find?_eq_some looked
          obtain ⟨onLink, named⟩ := isNamed_iff.mp (List.find?_some looked)
          have parentMajor := sound.class_major member
          rw [named, below] at parentMajor
          refine .inr ⟨tclass, member, onLink, named, ?_⟩
          rw [major, target.above root parentMajor, Handle.major_qdisc, named, below]
          rfl

theorem Sound.newClass (sound : kernel.Sound)
    (done : Kernel.newClass flags request kernel = .ok () after) : after.Sound := by
  obtain ⟨qdisc, handle, changes | ⟨parent, creates⟩⟩ := newClass_eq_ok done
  · rw [changes.after_eq]
    exact sound.setClassOptions _ _
  · exact sound.createsClass creates

theorem Sound.deleteClass (sound : kernel.Sound)
    (done : Kernel.deleteClass request kernel = .ok () after) : after.Sound := by
  obtain ⟨qdisc, handle, deletes⟩ := deleteClass_eq_ok done
  rw [deletes.after_eq]
  exact sound.removeClass _ _ deletes.childless

end

end TrafficShaping.Kernel
