import TrafficShaping.Proofs.Deletion
import TrafficShaping.Proofs.Dump.Locality
import TrafficShaping.Proofs.Kernel.Accepting
import TrafficShaping.Proofs.Session.Defaults

/-!
A deletion undoes an addition.

A qdisc that has just been added is a leaf: in tables that are a tree there are no classes of its
major number yet, and so nothing hangs from it (`Kernel.Sound.remove_concat`). When it is deleted
again, the kernel is as before, with one exception. A qdisc that is added to a link itself takes the
place of the one that the kernel has attached, and when it goes, the kernel attaches the same one
again, but at the end of the table. No report depends on that: the dump sorts by link and place, and
no other qdisc has the place (`Kernel.reportsAlike_of_moved`). Hence `Mutation.restores_of_delete`.
-/

namespace TrafficShaping

namespace Kernel

variable {kernel other after between : Kernel} {link : UInt32} {qdisc : Entry} {flags : UInt16}
  {request undo : TrafficRequest} {handle : Handle}

/-- Whether all dumps of two kernels are the same. -/
structure ReportsAlike (kernel other : Kernel) : Prop where
  qdiscs : kernel.dumpQdiscs = other.dumpQdiscs
  classes : ∀ link parent, kernel.dumpClasses link parent = other.dumpClasses link parent

/-! ## A qdisc that stands elsewhere in the table -/

/-- Where no two qdiscs have one parent, the order of the table does not matter to a look for the
qdisc at a parent. -/
theorem Distinct.child?_congr (distinct : Distinct Placement.parent kernel.qdiscs)
    (same : kernel.qdiscs.Perm other.qdiscs) (link : UInt32) (parent : Handle) :
    other.child? link parent = kernel.child? link parent := by
  cases found : other.child? link parent with
  | none =>
      refine (List.find?_eq_none.mpr fun entry member => ?_).symm
      exact List.find?_eq_none.mp found entry (same.mem_iff.mp member)
  | some entry =>
      obtain ⟨rfl, rfl⟩ := isAttached_iff.mp (List.find?_some found)
      have member := same.mem_iff.mpr (List.mem_of_find?_eq_some found)
      exact (distinct.find?_isAttached member).symm

theorem dumpClasses_congr (classes : other.classes = kernel.classes)
    (children : ∀ link parent, other.child? link parent = kernel.child? link parent)
    (link : UInt32) (parent : Handle) :
    other.dumpClasses link parent = kernel.dumpClasses link parent := by
  have leaf : other.shownLeaf link = kernel.shownLeaf link := by
    funext tclass
    rw [shownLeaf, shownLeaf, children]
  rw [dumpClasses_eq, dumpClasses_eq, classes, leaf]

theorem dumpRank_eq_zero {qdisc : Entry} : dumpRank qdisc = 0 ↔ qdisc.place.parent = .root := by
  unfold dumpRank
  rw [← Handle.isRoot_iff]
  split
  · next root => exact iff_of_true rfl root
  · next apart =>
      refine iff_of_false ?_ apart
      split <;> decide

/-- It makes no difference to the reports when the qdisc of a link moves to the end of the table. -/
theorem reportsAlike_of_moved {front back : List Entry}
    (parents : Distinct Placement.parent kernel.qdiscs)
    (whole : kernel.qdiscs = front ++ qdisc :: back) (root : qdisc.place.parent = .root) :
    ReportsAlike { kernel with qdiscs := front ++ back ++ [qdisc] } kernel := by
  have same : kernel.qdiscs.Perm (front ++ back ++ [qdisc]) := by
    rw [whole]
    exact List.perm_middle.trans (List.perm_append_singleton _ _).symm
  have apart : ∀ other ∈ back, other.place.link = qdisc.place.link → dumpRank other ≠ 0 := by
    intro other member onLink first
    rw [whole] at parents
    have differ := (List.pairwise_cons.mp (List.pairwise_append.mp parents).2.1).1 other member
    exact differ onLink.symm (root.trans (dumpRank_eq_zero.mp first).symm)
  refine ⟨dumpQdiscs_congr fun link rank => ?_, ?_⟩
  · dsimp only
    rw [whole, List.append_assoc, List.filter_append, List.filter_append, List.filter_append,
      List.filter_cons]
    split
    · next chosen =>
        -- Among the qdiscs of its link and of its rank it is alone.
        obtain ⟨rfl, rfl⟩ := isRanked_iff.mp chosen
        have none : back.filter (isRanked qdisc.place.link (dumpRank qdisc)) = [] := by
          refine List.filter_eq_nil_iff.mpr fun other member also => ?_
          obtain ⟨onLink, first⟩ := isRanked_iff.mp also
          exact apart other member onLink (first.trans (dumpRank_eq_zero.mpr root))
        rw [none, List.nil_append, List.filter_nil, List.filter_cons_of_pos chosen, none]
    · next skipped => rw [List.filter_cons_of_neg skipped, List.filter_nil, List.append_nil]
  · exact dumpClasses_congr rfl (parents.child?_congr same)

/-! ## A qdisc that comes and goes -/

/-- A qdisc at the end of the table goes alone when there were no classes of its number before. -/
theorem Sound.remove_concat (sound : kernel.Sound) (added : (kernel.withQdisc qdisc).Sound) :
    (kernel.withQdisc qdisc).remove qdisc.place.link [qdisc.place.handle] = kernel := by
  have last : qdisc ∈ (kernel.withQdisc qdisc).qdiscs :=
    List.mem_append_right _ List.mem_cons_self
  have free : ∀ other ∈ kernel.qdiscs, other.place.link = qdisc.place.link →
      other.place.handle ≠ qdisc.place.handle := fun other member =>
    (List.pairwise_append.mp added.qdiscHandles).2.2 other member qdisc List.mem_cons_self
  have noClass : ∀ tclass ∈ kernel.classes, tclass.place.link = qdisc.place.link →
      tclass.place.handle.major ≠ qdisc.place.handle.major := by
    intro tclass member onLink major
    obtain ⟨owner, present, owns⟩ := sound.owned tclass member
    refine free owner present (owns.link.trans onLink) ?_
    refine Handle.eq_of_major (sound.plain owner present) (added.plain qdisc last) ?_
    rw [owns.handle, Handle.major_qdisc, major]
  obtain ⟨removed, exactly, same⟩ :=
    exists_remove_eq (kernel.withQdisc qdisc) qdisc.place.link [qdisc.place.handle]
  have alone : ∀ handle ∈ removed, handle = qdisc.place.handle := by
    intro handle among
    have below := (exactly handle).mp among
    clear among
    induction below with
    | pending _ _ among => exact List.mem_singleton.mp among
    | attached _ _ member ih =>
        -- What hangs from the qdisc would do so from a class of its number.
        obtain ⟨present, onLink, named, major⟩ := mem_attachedBelow.mp member
        obtain ⟨tclass, classed, classLink, parent⟩ := added.qdiscParent _ present named
        rw [← parent, ih] at major
        exact absurd major (noClass tclass classed (classLink.trans onLink))
  have gone : qdisc.place.handle ∈ removed :=
    (exactly _).mpr (.pending last rfl List.mem_cons_self)
  have qdiscs : (kernel.qdiscs ++ [qdisc]).filter (leavesQdisc qdisc.place.link removed) =
      kernel.qdiscs := by
    have goes : ¬ leavesQdisc qdisc.place.link removed qdisc = true := fun leaves =>
      leavesQdisc_iff.mp leaves rfl gone
    rw [List.filter_append, List.filter_cons_of_neg goes, List.filter_nil, List.append_nil]
    refine List.filter_eq_self.mpr fun other member => leavesQdisc_iff.mpr fun onLink among => ?_
    exact free other member onLink (alone _ among)
  have classes : kernel.classes.filter (leavesClass qdisc.place.link removed) = kernel.classes := by
    refine List.filter_eq_self.mpr fun tclass member => leavesClass_iff.mpr ?_
    intro onLink handle among _
    rw [alone handle among]
    exact noClass tclass member onLink
  rw [same, Kernel.withQdisc]
  dsimp only
  rw [qdiscs, classes]

/-- A qdisc without handle goes alone. -/
theorem Distinct.exists_remove_eq (handles : Distinct Placement.handle kernel.qdiscs)
    (member : qdisc ∈ kernel.qdiscs) (nameless : qdisc.place.handle = .none) :
    ∃ front back, kernel.qdiscs = front ++ qdisc :: back ∧
      kernel.remove qdisc.place.link [qdisc.place.handle] =
        { kernel with qdiscs := front ++ back } := by
  obtain ⟨front, back, whole⟩ := List.append_of_mem member
  have named : qdisc.isNamed qdisc.place.link qdisc.place.handle = true := isNamed_iff.mpr ⟨rfl, rfl⟩
  have present : kernel.qdiscs.any (·.isNamed qdisc.place.link qdisc.place.handle) = true :=
    List.any_eq_true.mpr ⟨qdisc, member, named⟩
  have major : qdisc.place.handle.major = 0 := by
    rw [nameless]
    decide
  have others : without qdisc.place.link qdisc.place.handle kernel.qdiscs = front ++ back := by
    rw [whole] at handles
    obtain ⟨_, behind, across⟩ := List.pairwise_append.mp handles
    rw [whole, without, List.filter_append, List.filter_cons_of_neg (by simp [named]),
      List.filter_eq_self.mpr fun other among => ?_, List.filter_eq_self.mpr fun other among => ?_]
    · rw [Bool.not_eq_true', Bool.eq_false_iff, ne_eq, isNamed_iff]
      rintro ⟨onLink, same⟩
      exact (List.pairwise_cons.mp behind).1 other among onLink.symm same.symm
    · rw [Bool.not_eq_true', Bool.eq_false_iff, ne_eq, isNamed_iff]
      rintro ⟨onLink, same⟩
      exact across other among qdisc List.mem_cons_self onLink same
  refine ⟨front, back, whole, ?_⟩
  unfold Kernel.remove
  rw [prune, if_pos present, if_pos major, prune_nil, others]

/-! ## Addition and deletion -/

/-- The kernel without some qdiscs. When they were attached to the link itself, the kernel attaches
another one. -/
def vacate (kernel : Kernel) (place : Placement) (handles : List Handle) : Kernel :=
  if place.parent.isRoot then (kernel.remove place.link handles).withQdisc (.defaultRoot place.link)
  else kernel.remove place.link handles

/-- What an addition has created can be deleted. -/
theorem CreatesQdisc.deleteQdisc_eq {kind : String} {attached : Option Entry}
    (creates : CreatesQdisc kernel flags request kind attached handle between after)
    (sound : kernel.Sound) (given : ¬ request.record.place.handle.isNone = true)
    (parent : request.record.place.parent.isNone = false)
    (same : undo.record.place = request.record.place) :
    deleteQdisc undo after =
      .ok () (kernel.vacate request.record.place (attached.toList.map (·.place.handle))) := by
  have added := sound.createsQdisc creates given
  obtain ⟨rfl, rfl⟩ := creates.taken_of_given given
  rw [creates.after_eq] at added ⊢
  have left := sound.remove request.record.place.link (attached.toList.map (·.place.handle))
  have located := added.qdiscAt_of_mem (List.mem_append_right _ List.mem_cons_self)
  have linked : kernel.requireLink request.record.place.link = .ok () := if_pos creates.link
  rw [deleteQdisc_of_attached (by rw [same]; exact linked) (by rw [same]; exact parent)
    (by rw [same]; exact located) (by rw [same]; exact Bool.eq_false_iff.mpr given)
    (by rw [same]), same]
  have gone := left.remove_concat added
  dsimp only at gone
  rw [gone]
  rfl

/-- Once a qdisc that has been added is deleted, all dumps are as before. -/
theorem Provided.reportsAlike {kind : String} {attached : Option Entry}
    (provided : kernel.Provided)
    (creates : CreatesQdisc kernel flags request kind attached handle between after)
    (given : ¬ request.record.place.handle.isNone = true)
    (keeps : MessageFlag.isSet flags MessageFlag.replace = false) :
    (kernel.vacate request.record.place (attached.toList.map (·.place.handle))).ReportsAlike
      kernel := by
  have nameless := (creates.given given).2.2 keeps
  have sound := provided.sound
  unfold vacate
  split
  · next isRoot =>
      -- The link had a qdisc of its own, which was without handle.
      have atRoot := Handle.isRoot_iff.mp isRoot
      obtain ⟨link, known, sameLink⟩ := List.any_eq_true.mp creates.link
      obtain ⟨root, member, onLink, place⟩ := provided.rooted.root link known
      rw [beq_iff_eq.mp sameLink] at onLink
      have found : kernel.child? root.place.link root.place.parent = some root :=
        sound.qdiscParents.find?_isAttached member
      have present := creates.found
      rw [atRoot, ← onLink, ← place, found] at present
      have none := nameless root present.symm
      have default := provided.untouched root member none
      obtain ⟨front, back, whole, removed⟩ :=
        sound.qdiscHandles.exists_remove_eq member (Handle.isNone_iff.mp none)
      have moved := reportsAlike_of_moved sound.qdiscParents whole place
      rw [← present, ← onLink, ← default]
      change ReportsAlike ((kernel.remove root.place.link [root.place.handle]).withQdisc root) kernel
      rw [removed]
      exact moved
  · next apart =>
      have vacant : attached = none := by
        refine Option.eq_none_iff_forall_ne_some.mpr fun old present => apart ?_
        obtain ⟨member, _, place⟩ := mem_qdiscs_of_child? (creates.found.trans present)
        rw [← place]
        exact (sound.unnamed old member (nameless old present)).1
      rw [vacant]
      change ReportsAlike (kernel.remove _ []) kernel
      unfold Kernel.remove
      rw [prune_nil]
      exact ⟨rfl, fun _ _ => rfl⟩

end Kernel

namespace Mutation

/-- After every session in which all qdiscs come with handles and no class has the minor number of
the place that stands for the link, a qdisc that has been added can be deleted, and all dumps are
then as they were. -/
theorem restores_of_delete {links : List Link} {operations : List Operation}
    (distinct : (links.map Link.index).Nodup)
    (handles : ∀ operation ∈ operations, operation.GivesHandle)
    (avoids : ∀ operation ∈ operations, operation.AvoidsRoot) {qdisc : Qdisc} {clock : Clock}
    {added : Endpoint} (given : qdisc.place.handle.isNone = false)
    (parent : qdisc.place.parent.isNone = false)
    (done : (add.ofQdisc qdisc clock).run Endpoint.transport
      ((Endpoint.ofKernel (.ofLinks links)).session operations) = (.ok (), added)) :
    ∃ deleted, (delete.ofQdisc qdisc clock).run Endpoint.transport added = (.ok (), deleted) ∧
      deleted.kernel.ReportsAlike
        ((Endpoint.ofKernel (.ofLinks links)).session operations).kernel := by
  have provided := Endpoint.provided_session distinct handles avoids
  have runs := runs_ofQdisc add qdisc clock
    ((Endpoint.ofKernel (.ofLinks links)).session operations)
  rw [done] at runs
  cases runs with
  | @accepted _ traffic after _ _ placed handled =>
      rw [← placed] at given parent
      have asked := Bool.eq_false_iff.mp given
      obtain ⟨kind, attached, handle, between, creates⟩ :
          ∃ kind attached handle between, Kernel.CreatesQdisc
            ((Endpoint.ofKernel (.ofLinks links)).session operations).kernel add.flags traffic kind
            attached handle between after :=
        (Kernel.newQdisc_eq_ok handled).resolve_left fun ⟨_, changes⟩ =>
          absurd changes.shared (by decide)
      obtain ⟨request, made, payload, _⟩ := exists_request_delete delete.qdiscType qdisc.place
        qdisc.kindName (qdisc.settings.encode clock)
      have read := TrafficRequest.read_toBytes (TrafficRecord.ofPlace qdisc.place 0)
      rw [← payload] at read
      have same : (⟨TrafficRecord.ofPlace qdisc.place 0, none, none⟩ :
          TrafficRequest).record.place = traffic.record.place :=
        (TrafficRecord.place_ofPlace _ _).trans placed.symm
      have undone := creates.deleteQdisc_eq provided.sound asked parent same
      refine ⟨_, (runs_ofQdisc delete qdisc clock _).eq_of_handled made read undone, ?_⟩
      exact provided.reportsAlike creates asked (by decide)

/-- A qdisc for received packets. -/
def receiving : Qdisc := .ofSettings ⟨2, .ofParts 0xFFFF 0, .ingress⟩ (.generic "ingress" none)

theorem restores_of_delete_receiving :
    ([⟨2, "eth0"⟩].map Link.index).Nodup ∧ (∀ operation ∈ twoLevels, operation.GivesHandle) ∧
      (∀ operation ∈ twoLevels, operation.AvoidsRoot) ∧
      receiving.place.handle.isNone = false ∧ receiving.place.parent.isNone = false ∧
      ∃ added deleted,
        (add.ofQdisc receiving .highResolution).run Endpoint.transport
          ((Endpoint.ofKernel (.ofLinks [⟨2, "eth0"⟩])).session twoLevels) = (.ok (), added) ∧
        (delete.ofQdisc receiving .highResolution).run Endpoint.transport added =
          (.ok (), deleted) ∧
        deleted.kernel.ReportsAlike
          ((Endpoint.ofKernel (.ofLinks [⟨2, "eth0"⟩])).session twoLevels).kernel := by
  have distinct : ([⟨2, "eth0"⟩].map Link.index).Nodup := by decide
  have avoids : ∀ operation ∈ twoLevels, operation.AvoidsRoot := by
    intro operation member
    simp only [twoLevels, List.mem_cons, List.not_mem_nil, or_false] at member
    rcases member with rfl | rfl | rfl
    · trivial
    · exact (by decide : belowOwnRoot.place.handle.minor ≠ 0xFFFF)
    · trivial
  have given : receiving.place.handle.isNone = false := by decide
  have parent : receiving.place.parent.isNone = false := by decide
  obtain ⟨options, kernel_eq⟩ := exists_kernel_session_twoLevels
  obtain ⟨request, made⟩ : ∃ request, add.qdiscRequest receiving .highResolution = .ok request :=
    ⟨_, rfl⟩
  obtain ⟨after, handled⟩ : ∃ after, add.qdiscHandler
      ⟨TrafficRecord.ofPlace receiving.place 0, some "ingress", none⟩
      ((Endpoint.ofKernel (.ofLinks [⟨2, "eth0"⟩])).session twoLevels).kernel = .ok () after := by
    rw [kernel_eq]
    exact ⟨_, rfl⟩
  have done := (runs_ofQdisc add receiving .highResolution _).eq_of_conveys
    (conveys_qdiscRequest (by decide) receiving .highResolution) (by decide) made rfl handled
  obtain ⟨deleted, undone, alike⟩ :=
    restores_of_delete distinct givesHandle_twoLevels avoids given parent done
  exact ⟨distinct, givesHandle_twoLevels, avoids, given, parent, _, deleted, done, undone, alike⟩

end Mutation

end TrafficShaping
