import TrafficShaping.Proofs.Kernel.TreeSteps

/-!
Requests for objects that are there.

In tables that are a tree each qdisc is found at its place (`Kernel.Sound.qdiscAt_of_mem`). A request
about that place with the handle of the qdisc passes all checks: one to set up the qdisc changes its
options (`Kernel.newQdisc_of_attached`) and one to remove it does so
(`Kernel.deleteQdisc_of_attached`). A request to set up a class that exists changes the options of
the class (`Kernel.newClass_of_found`).
-/

namespace TrafficShaping.Kernel

variable {kernel after : Kernel} {flags : UInt16} {request : TrafficRequest} {link : UInt32}
  {qdisc : Entry} {handle : Handle}

/-! ## Places -/

theorem requireLink_congr (same : after.links = kernel.links) (link : UInt32) :
    after.requireLink link = kernel.requireLink link := by
  unfold requireLink
  rw [same]

theorem HasClass.qdiscAt_eq {parent : Handle} (named : parent.namesClass = true)
    (hasClass : kernel.HasClass link parent) :
    kernel.qdiscAt link parent = .ok (kernel.child? link parent) := by
  obtain ⟨owner, owned⟩ := hasClass.owner
  obtain ⟨tclass, found⟩ := hasClass.tclass
  unfold qdiscAt
  rw [named, owned, found]
  simp [hasClass.major]

namespace Sound

/-- A class has its qdisc, and both are found. -/
theorem hasClass (sound : kernel.Sound) {tclass : Entry} (member : tclass ∈ kernel.classes) :
    kernel.HasClass tclass.place.link tclass.place.handle := by
  obtain ⟨owner, present, owns⟩ := sound.owned tclass member
  refine ⟨sound.class_major member, ⟨owner, ?_⟩, tclass, ?_⟩
  · rw [← owns.link, ← owns.handle]
    exact sound.qdiscHandles.find?_isNamed present
  · exact sound.classHandles.find?_isNamed member

/-- A qdisc is found where it is attached. -/
theorem qdiscAt_of_mem (sound : kernel.Sound) (member : qdisc ∈ kernel.qdiscs) :
    kernel.qdiscAt qdisc.place.link qdisc.place.parent = .ok (some qdisc) := by
  have found : kernel.child? qdisc.place.link qdisc.place.parent = some qdisc :=
    sound.qdiscParents.find?_isAttached member
  cases named : qdisc.place.parent.namesClass with
  | false =>
      unfold qdiscAt
      rw [named, found]
      rfl
  | true =>
      obtain ⟨tclass, present, onLink, handle⟩ := sound.qdiscParent qdisc member named
      have hasClass := sound.hasClass present
      rw [onLink, handle] at hasClass
      rw [hasClass.qdiscAt_eq named, found]

end Sound

/-! ## Requests -/

theorem plan_of_attached {place : Placement} (given : place.handle.isNone = false)
    (handle : qdisc.place.handle = place.handle)
    (shared : MessageFlag.isSet flags MessageFlag.exclusive = false) :
    kernel.plan flags place qdisc.kind (some qdisc) = .ok .change := by
  have chosen : (some qdisc).filter
      (fun qdisc => place.handle.isNone || qdisc.place.handle == place.handle) = some qdisc := by
    rw [Option.filter_some, handle, beq_self_eq_true, Bool.or_true, if_pos rfl]
  unfold plan
  dsimp only
  rw [chosen, given, shared]
  simp

/-- A request for a qdisc that is attached at the place under the handle changes its options. -/
theorem newQdisc_of_attached (linked : kernel.requireLink request.record.place.link = .ok ())
    (placed : kernel.qdiscAt request.record.place.link request.record.place.parent =
      .ok (some qdisc))
    (named : request.kind = some qdisc.kind)
    (given : request.record.place.handle.isNone = false)
    (handle : qdisc.place.handle = request.record.place.handle)
    (shared : MessageFlag.isSet flags MessageFlag.exclusive = false) :
    newQdisc flags request kernel = .ok () { kernel with
      qdiscs := Entry.setOptions
        (·.isAttached request.record.place.link request.record.place.parent) request.options
        kernel.qdiscs } := by
  have visible : (some qdisc).filter (!·.place.handle.isNone) = some qdisc := by
    rw [Option.filter_some, handle, given]
    rfl
  unfold newQdisc
  rw [Handler.check_bind, linked, named]
  dsimp only
  rw [Handler.check_bind, placed]
  dsimp only
  rw [visible, Handler.check_bind, plan_of_attached given handle shared]
  rfl

/-- A qdisc that is attached at the place under the handle can be removed. -/
theorem deleteQdisc_of_attached (linked : kernel.requireLink request.record.place.link = .ok ())
    (parent : request.record.place.parent.isNone = false)
    (placed : kernel.qdiscAt request.record.place.link request.record.place.parent =
      .ok (some qdisc))
    (given : request.record.place.handle.isNone = false)
    (handle : qdisc.place.handle = request.record.place.handle) :
    deleteQdisc request kernel = .ok ()
      (let removed := kernel.remove request.record.place.link [request.record.place.handle]
      if request.record.place.parent.isRoot then
        removed.withQdisc (.defaultRoot request.record.place.link)
      else removed) := by
  unfold deleteQdisc
  rw [Handler.check_bind, linked]
  dsimp only
  rw [parent, if_neg Bool.false_ne_true, Handler.check_bind, placed]
  dsimp only
  rw [handle, given, bne_self_eq_false, Bool.and_false, if_neg Bool.false_ne_true,
    if_neg Bool.false_ne_true]
  cases request.record.place.parent.isRoot with
  | true => rfl
  | false => rfl

/-- A request for a class that exists changes its options. -/
theorem newClass_of_found {tclass : Entry}
    (targeted : kernel.classTarget request.record.place = .ok (qdisc, handle))
    (found : kernel.class? request.record.place.link handle = some tclass)
    (shared : MessageFlag.isSet flags MessageFlag.exclusive = false) :
    newClass flags request kernel = .ok () { kernel with
      classes := Entry.setOptions (·.isNamed request.record.place.link handle) request.options
        kernel.classes } := by
  unfold newClass
  rw [Handler.check_bind, targeted]
  dsimp only
  rw [Handler.check_bind, found]
  dsimp only
  rw [Option.isSome_some, if_pos rfl, shared]
  rfl

end TrafficShaping.Kernel
