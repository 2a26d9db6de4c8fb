import TrafficShaping.Proofs.Kernel.Accepted
import TrafficShaping.Proofs.Kernel.Removal

/-!
Qdiscs and classes form a tree on each link.

`Kernel.WellFormed` says what the tables of the kernel always are: handles and places are taken at
most once, a class belongs to a qdisc and is attached to it or to another of its classes, a qdisc is
attached to the link or to a class, and the way up from anywhere comes to an end. What the handlers
preserve is `Kernel.Sound`, which has instead of the last part that what is above stands earlier in
the tables. `Kernel.Sound.wellFormed` gets the one from the other.
-/

namespace TrafficShaping.Kernel

/-! ## Well-formed tables -/

/-- Whether a class belongs to a qdisc. -/
@[mk_iff]
structure Owns (qdisc tclass : Entry) : Prop where
  link : qdisc.place.link = tclass.place.link
  handle : qdisc.place.handle = tclass.place.handle.qdisc
  classful : qdisc.kind ∈ classfulKinds
  kind : qdisc.kind = tclass.kind

/-- Whether a class is attached to its qdisc or to another class of it. -/
def HasParent (classes : List Entry) (tclass : Entry) : Prop :=
  tclass.place.parent = tclass.place.handle.qdisc ∨
    ∃ parent ∈ classes, parent.place.link = tclass.place.link ∧
      parent.place.handle = tclass.place.parent ∧
      parent.place.handle.major = tclass.place.handle.major

/-- Whether qdiscs and classes fit together. -/
@[mk_iff]
structure Consistent (kernel : Kernel) : Prop where
  qdiscHandles : Distinct Placement.handle kernel.qdiscs
  qdiscParents : Distinct Placement.parent kernel.qdiscs
  classHandles : Distinct Placement.handle kernel.classes
  classMinor : ∀ tclass ∈ kernel.classes, tclass.place.handle.minor ≠ 0
  owned : ∀ tclass ∈ kernel.classes, ∃ qdisc ∈ kernel.qdiscs, Owns qdisc tclass
  classParent : ∀ tclass ∈ kernel.classes, HasParent kernel.classes tclass
  /-- A qdisc is attached to the link itself or to a class. -/
  qdiscParent : ∀ qdisc ∈ kernel.qdiscs, qdisc.place.parent.namesClass = true →
    ∃ tclass ∈ kernel.classes, tclass.place.link = qdisc.place.link ∧
      tclass.place.handle = qdisc.place.parent

/-- A qdisc or a class. -/
inductive Node where
  | qdisc (entry : Entry)
  | tclass (entry : Entry)

/-- What an object is attached to, where the link itself does not count. -/
def above? (kernel : Kernel) : Node → Option Node
  | .qdisc entry =>
    if entry.place.parent.namesClass then
      (kernel.class? entry.place.link entry.place.parent).map .tclass
    else none
  | .tclass entry =>
    match kernel.class? entry.place.link entry.place.parent with
    | some parent => some (.tclass parent)
    | none => (kernel.qdisc? entry.place.link entry.place.parent).map .qdisc

/-- Whether the way up from an object ends, namely at a qdisc that is attached to the link itself. -/
inductive Grounded (kernel : Kernel) : Node → Prop
  | top {qdisc : Entry} (onLink : qdisc.place.parent.namesClass = false) :
      Grounded kernel (.qdisc qdisc)
  | up {node above : Node} (attached : kernel.above? node = some above)
      (grounded : Grounded kernel above) : Grounded kernel node

/-- Whether the tables are a tree on each link. -/
structure WellFormed (kernel : Kernel) : Prop extends Consistent kernel where
  groundedQdisc : ∀ qdisc ∈ kernel.qdiscs, Grounded kernel (.qdisc qdisc)
  groundedClass : ∀ tclass ∈ kernel.classes, Grounded kernel (.tclass tclass)

/-! ## The invariant -/

/-- Whether a qdisc is attached to a class with the major number of another one. -/
@[mk_iff]
structure Hangs (qdisc owner : Entry) : Prop where
  link : qdisc.place.link = owner.place.link
  namesClass : qdisc.place.parent.namesClass = true
  major : qdisc.place.parent.major = owner.place.handle.major

/-- Whether an entry is attached to another one of its own table. -/
@[mk_iff]
structure IsChild (entry parent : Entry) : Prop where
  link : entry.place.link = parent.place.link
  parent : entry.place.parent = parent.place.handle

/-- What holds of the tables when every handler is done. -/
@[mk_iff]
structure Sound (kernel : Kernel) : Prop extends Consistent kernel where
  /-- A qdisc has no minor number. -/
  plain : ∀ qdisc ∈ kernel.qdiscs, qdisc.place.handle.minor = 0
  /-- A qdisc without handle is one that the kernel has attached to a link by itself. -/
  unnamed : ∀ qdisc ∈ kernel.qdiscs, qdisc.place.handle.isNone = true →
    qdisc.place.parent.isRoot = true ∧ qdisc.kind ∉ classfulKinds
  risingQdiscs : Rising Hangs kernel.qdiscs
  risingClasses : Rising IsChild kernel.classes

namespace Sound

variable {kernel : Kernel} {qdisc tclass : Entry}

/-- The qdisc of a class has a handle. -/
theorem class_major (sound : kernel.Sound) (member : tclass ∈ kernel.classes) :
    tclass.place.handle.major ≠ 0 := by
  obtain ⟨qdisc, present, owns⟩ := sound.owned tclass member
  intro zero
  have nameless : qdisc.place.handle.isNone = true := by
    rw [owns.handle, Handle.isNone_iff]
    exact Handle.eq_of_major (Handle.minor_qdisc _) rfl ((Handle.major_qdisc _).trans zero)
  exact (sound.unnamed qdisc present nameless).2 owns.classful

/-- The qdisc of a class is the one with its major number. -/
theorem owns_of_major (sound : kernel.Sound) (memberQ : qdisc ∈ kernel.qdiscs)
    (memberC : tclass ∈ kernel.classes) (link : qdisc.place.link = tclass.place.link)
    (major : qdisc.place.handle.major = tclass.place.handle.major) : Owns qdisc tclass := by
  obtain ⟨owner, present, owns⟩ := sound.owned tclass memberC
  have sameHandle : qdisc.place.handle = owner.place.handle := by
    rw [owns.handle]
    exact Handle.eq_of_major (sound.plain qdisc memberQ) (Handle.minor_qdisc _)
      (major.trans (Handle.major_qdisc _).symm)
  have same := sound.qdiscHandles.eq_of_same memberQ present (link.trans owns.link.symm) sameHandle
  rw [same]
  exact owns

/-- A class that is attached to another one has the same qdisc. -/
theorem major_of_isChild (sound : kernel.Sound) (member : tclass ∈ kernel.classes) {parent : Entry}
    (memberP : parent ∈ kernel.classes) (child : IsChild tclass parent) :
    parent.place.handle.major = tclass.place.handle.major := by
  rcases sound.classParent tclass member with direct | ⟨other, _, _, handle, major⟩
  · have plain : parent.place.handle.minor = 0 := by
      rw [← child.parent, direct]
      exact Handle.minor_qdisc _
    exact absurd plain (sound.classMinor parent memberP)
  · rw [← child.parent, ← handle]
    exact major

/-- A qdisc that is attached to a class hangs from the qdisc of the class. -/
theorem exists_hangs (sound : kernel.Sound) (member : qdisc ∈ kernel.qdiscs)
    (named : qdisc.place.parent.namesClass = true) :
    ∃ tclass ∈ kernel.classes, tclass.place.link = qdisc.place.link ∧
      tclass.place.handle = qdisc.place.parent ∧
      ∃ owner ∈ kernel.qdiscs, Owns owner tclass ∧ Hangs qdisc owner := by
  obtain ⟨tclass, present, link, handle⟩ := sound.qdiscParent qdisc member named
  obtain ⟨owner, memberO, owns⟩ := sound.owned tclass present
  refine ⟨tclass, present, link, handle, owner, memberO, owns, ?_⟩
  refine ⟨link.symm.trans owns.link.symm, named, ?_⟩
  rw [owns.handle, ← handle, Handle.major_qdisc]

/-! ## The way up -/

/-- Below a qdisc from which the way up ends, it does so from its classes. -/
theorem grounded_class (sound : kernel.Sound) (memberQ : qdisc ∈ kernel.qdiscs)
    (grounded : Grounded kernel (.qdisc qdisc)) :
    ∀ tclass ∈ kernel.classes, Owns qdisc tclass → Grounded kernel (.tclass tclass) := by
  refine sound.risingClasses.induction fun tclass member ih owns => ?_
  rcases sound.classParent tclass member with direct | ⟨parent, memberP, link, handle, major⟩
  · have noClass : kernel.class? tclass.place.link tclass.place.parent = none := by
      refine List.find?_eq_none.mpr fun other memberO named => sound.classMinor other memberO ?_
      rw [(isNamed_iff.mp named).2, direct]
      exact Handle.minor_qdisc _
    have owner : kernel.qdisc? tclass.place.link tclass.place.parent = some qdisc := by
      rw [direct, ← owns.handle, ← owns.link]
      exact sound.qdiscHandles.find?_isNamed memberQ
    refine .up ?_ grounded
    rw [above?, noClass, owner]
    rfl
  · have found : kernel.class? tclass.place.link tclass.place.parent = some parent := by
      rw [← handle, ← link]
      exact sound.classHandles.find?_isNamed memberP
    have ownsParent : Owns qdisc parent := by
      refine sound.owns_of_major memberQ memberP (owns.link.trans link.symm) ?_
      rw [owns.handle, Handle.major_qdisc, major]
    refine .up ?_ (ih parent memberP ⟨link.symm, handle.symm⟩ ownsParent)
    rw [above?, found]

theorem grounded_qdisc (sound : kernel.Sound) :
    ∀ qdisc ∈ kernel.qdiscs, Grounded kernel (.qdisc qdisc) := by
  refine sound.risingQdiscs.induction fun qdisc member ih => ?_
  cases named : qdisc.place.parent.namesClass with
  | false => exact .top named
  | true =>
      obtain ⟨tclass, present, link, handle, owner, memberO, owns, hangs⟩ :=
        sound.exists_hangs member named
      have found : kernel.class? qdisc.place.link qdisc.place.parent = some tclass := by
        rw [← handle, ← link]
        exact sound.classHandles.find?_isNamed present
      refine .up ?_ (sound.grounded_class memberO (ih owner memberO hangs) tclass present owns)
      rw [above?, if_pos named, found]
      rfl

theorem wellFormed (sound : kernel.Sound) : kernel.WellFormed where
  toConsistent := sound.toConsistent
  groundedQdisc := sound.grounded_qdisc
  groundedClass := by
    intro tclass member
    obtain ⟨qdisc, present, owns⟩ := sound.owned tclass member
    exact sound.grounded_class present (sound.grounded_qdisc qdisc present) tclass member owns

end Sound

end TrafficShaping.Kernel
