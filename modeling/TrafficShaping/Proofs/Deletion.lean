import TrafficShaping.Proofs.Kernel.Cascade
import TrafficShaping.Proofs.ReadBack.Class

/-!
What goes with a qdisc that is deleted.

A qdisc is deleted with its subtree: the qdiscs that hang from its classes, those that hang from the
classes of these, and so on (`Kernel.Subtree`). In general the kernel would spare what hangs from
classes without major number. When all qdiscs come with handles there are no such classes to hang
from, and the subtree is exactly what is removed: `Mutation.removesSubtree_of_delete`.
-/

namespace TrafficShaping

namespace Kernel

variable {link : UInt32} {qdiscs : List Entry} {handle top : Handle}

/-- The handles of a subtree: that of its top and, with each, those of the qdiscs whose parents are
classes of the same major number. -/
inductive Subtree (link : UInt32) (qdiscs : List Entry) (top : Handle) : Handle → Prop
  | top : Subtree link qdiscs top top
  | attached {handle : Handle} {qdisc : Entry} (above : Subtree link qdiscs top handle)
      (member : qdisc ∈ attachedBelow link handle.major qdiscs) :
      Subtree link qdiscs top qdisc.place.handle

theorem Numbered.major {place : Placement} (numbered : Numbered place)
    (given : place.handle.isNone = false) : place.handle.major ≠ 0 := by
  intro none
  have whole := Handle.ofParts_major_minor place.handle
  rw [none, numbered.minor] at whole
  rw [← whole] at given
  cases given

/-- A subtree below a qdisc with a handle has major numbers throughout. -/
theorem Subtree.major (subtree : Subtree link qdiscs top handle) (major : top.major ≠ 0)
    (numbered : ∀ qdisc ∈ qdiscs, Numbered qdisc.place) : handle.major ≠ 0 := by
  cases subtree with
  | top => exact major
  | @attached _ qdisc _ member =>
      obtain ⟨present, _, named, _⟩ := mem_attachedBelow.mp member
      refine (numbered qdisc present).major (Bool.eq_false_iff.mpr fun none => ?_)
      have root := (numbered qdisc present).root none
      unfold Handle.namesClass at named
      rw [root] at named
      cases named

theorem below_iff_subtree (present : ∃ qdisc ∈ qdiscs, qdisc.place.link = link ∧
      qdisc.place.handle = top) (major : top.major ≠ 0)
    (numbered : ∀ qdisc ∈ qdiscs, Numbered qdisc.place) :
    Below link qdiscs [top] handle ↔ Subtree link qdiscs top handle := by
  constructor
  · intro below
    induction below with
    | pending _ _ among => exact List.mem_singleton.mp among ▸ .top
    | attached _ _ member ih => exact .attached ih member
  · intro subtree
    induction subtree with
    | top =>
        obtain ⟨qdisc, member, onLink, rfl⟩ := present
        exact .pending member onLink List.mem_cons_self
    | attached above member ih => exact .attached ih (above.major major numbered) member

/-- A kernel after the subtree of the qdisc at a place has been removed. -/
structure RemovesSubtree (before : Kernel) (place : Placement) (top : Entry)
    (removed : List Handle) (after : Kernel) : Prop where
  attached : before.child? place.link place.parent = some top
  /-- The handles that are gone are those of the subtree. -/
  exactly : ∀ handle,
    handle ∈ removed ↔ Subtree place.link before.qdiscs top.place.handle handle
  /-- The recursion over the subtree ends, and leaves what belongs to none of these handles. -/
  ends : ∀ tables,
    Cascades place.link [top.place.handle] before.qdiscs before.classes tables ↔
      tables = (before.qdiscs.filter fun qdisc =>
          !(qdisc.place.link == place.link && removed.contains qdisc.place.handle),
        before.classes.filter fun tclass =>
          !(removed.any fun handle => tclass.isOwned place.link handle.major))
  /-- All else is as before, but that the link gets another qdisc in the place of its own. -/
  after_eq : after =
    { before with
      qdiscs := (before.qdiscs.filter fun qdisc =>
        !(qdisc.place.link == place.link && removed.contains qdisc.place.handle)) ++
          if place.parent.isRoot then [.defaultRoot place.link] else []
      classes := before.classes.filter fun tclass =>
        !(removed.any fun handle => tclass.isOwned place.link handle.major) }

/-- When all handles that are removed have major numbers, all their classes go. -/
theorem leavesClass_eq {removed : List Handle} (majors : ∀ handle ∈ removed, handle.major ≠ 0) :
    leavesClass link removed =
      fun tclass => !(removed.any fun handle => tclass.isOwned link handle.major) := by
  funext tclass
  rw [Bool.eq_iff_iff, leavesClass_iff, Bool.not_eq_true', List.any_eq_false]
  constructor
  · intro left handle member owned
    obtain ⟨onLink, major⟩ := Bool.and_eq_true_iff.mp owned
    exact left (beq_iff_eq.mp onLink) handle member (majors handle member) (beq_iff_eq.mp major)
  · intro left onLink handle member _ major
    refine left handle member (Bool.and_eq_true_iff.mpr ⟨?_, ?_⟩)
    · exact beq_iff_eq.mpr onLink
    · exact beq_iff_eq.mpr major

theorem DeletesQdisc.removesSubtree {kernel after : Kernel} {request : TrafficRequest}
    {qdisc : Entry} (deletes : DeletesQdisc kernel request qdisc after)
    (numbered : ∀ qdisc ∈ kernel.qdiscs, Numbered qdisc.place) :
    ∃ removed, RemovesSubtree kernel request.record.place qdisc removed after := by
  have member := List.mem_of_find?_eq_some deletes.found
  have onLink := (isAttached_iff.mp (List.find?_some deletes.found)).1
  have major := (numbered qdisc member).major deletes.visible
  obtain ⟨removed, exactly, same⟩ := exists_prune_eq request.record.place.link
    [qdisc.place.handle] kernel.qdiscs kernel.classes
  have subtree : ∀ handle, handle ∈ removed ↔
      Subtree request.record.place.link kernel.qdiscs qdisc.place.handle handle := fun handle =>
    (exactly handle).trans (below_iff_subtree ⟨qdisc, member, onLink, rfl⟩ major numbered)
  have majors : ∀ handle ∈ removed, handle.major ≠ 0 := fun handle among =>
    ((subtree handle).mp among).major major numbered
  rw [leavesClass_eq majors] at same
  have present : kernel.qdiscs.any (·.isNamed request.record.place.link qdisc.place.handle) =
      true := List.any_eq_true.mpr ⟨qdisc, member, isNamed_iff.mpr ⟨onLink, rfl⟩⟩
  refine ⟨removed, deletes.found, subtree, fun tables => ?_, ?_⟩
  · rw [cascades_iff present, same]
    rfl
  · rw [deletes.after_eq]
    unfold remove
    rw [same]
    cases request.record.place.parent.isRoot with
    | true => rfl
    | false =>
        rw [if_neg Bool.false_ne_true, if_neg Bool.false_ne_true, List.append_nil]
        rfl

end Kernel

namespace Mutation

/-- After every session in which all qdiscs come with handles, a deletion that succeeds has removed
the subtree of the qdisc at the place and nothing besides. -/
theorem removesSubtree_of_delete (links : List Link) {operations : List Operation}
    (handles : ∀ operation ∈ operations, operation.GivesHandle) {qdisc : Qdisc} {clock : Clock}
    {deleted : Endpoint}
    (done : (delete.ofQdisc qdisc clock).run Endpoint.transport
      ((Endpoint.ofKernel (.ofLinks links)).session operations) = (.ok (), deleted)) :
    ∃ top removed,
      Kernel.RemovesSubtree ((Endpoint.ofKernel (.ofLinks links)).session operations).kernel
        qdisc.place top removed deleted.kernel := by
  have numbered := Endpoint.numbered_session links handles
  have runs := runs_ofQdisc delete qdisc clock
    ((Endpoint.ofKernel (.ofLinks links)).session operations)
  rw [done] at runs
  cases runs with
  | accepted _ _ placed handled =>
      obtain ⟨top, deletes⟩ := Kernel.deleteQdisc_eq_ok handled
      obtain ⟨removed, removes⟩ := deletes.removesSubtree numbered
      exact ⟨top, removed, placed ▸ removes⟩

/-- A qdisc on the class `belowOwnRoot`. -/
def leaf : Qdisc := .ofSettings ⟨2, .ofParts 10 0, .ofParts 1 0x10⟩ (.generic "sfq" none)

/-- A qdisc, a class of it and a qdisc on the class. -/
def twoLevels : List Operation :=
  [.mutateQdisc .add ownRoot .highResolution, .mutateClass .add belowOwnRoot .highResolution,
    .mutateQdisc .add leaf .highResolution]

theorem givesHandle_twoLevels : ∀ operation ∈ twoLevels, operation.GivesHandle := by
  intro operation member
  simp only [twoLevels, List.mem_cons, List.not_mem_nil, or_false] at member
  rcases member with rfl | rfl | rfl
  · exact fun _ => rfl
  · trivial
  · exact fun _ => rfl

theorem exists_kernel_session_twoLevels :
    ∃ options, ((Endpoint.ofKernel (.ofLinks [⟨2, "eth0"⟩])).session twoLevels).kernel =
      (rooted.withClass ⟨belowOwnRoot.place, "hfsc", options⟩).withQdisc
        ⟨leaf.place, "sfq", none⟩ := by
  obtain ⟨first, rooting⟩ := exists_run_ownRoot
  obtain ⟨added, options, done, kernel_eq⟩ := exists_run_belowOwnRoot
    ((Endpoint.ofKernel (.ofLinks [⟨2, "eth0"⟩])).received first rooted) rfl
  have one : (Operation.mutateQdisc .add ownRoot .highResolution).after
      (.ofKernel (.ofLinks [⟨2, "eth0"⟩])) =
        (Endpoint.ofKernel (.ofLinks [⟨2, "eth0"⟩])).received first rooted :=
    congrArg Prod.snd rooting
  have two : (Operation.mutateClass .add belowOwnRoot .highResolution).after
      ((Endpoint.ofKernel (.ofLinks [⟨2, "eth0"⟩])).received first rooted) = added :=
    congrArg Prod.snd done
  obtain ⟨request, made⟩ : ∃ request, add.qdiscRequest leaf .highResolution = .ok request :=
    ⟨_, rfl⟩
  obtain ⟨_, written, read⟩ :=
    (conveys_qdiscRequest (by decide) leaf .highResolution).exists_traffic (by decide) made
  cases written
  have handled : add.qdiscHandler ⟨TrafficRecord.ofPlace leaf.place 0, some "sfq", none⟩
      added.kernel =
        .ok () ((rooted.withClass ⟨belowOwnRoot.place, "hfsc", options⟩).withQdisc
          ⟨leaf.place, "sfq", none⟩) := by
    have free : (rooted.withClass ⟨belowOwnRoot.place, "hfsc", options⟩).remove 2 [] =
        rooted.withClass ⟨belowOwnRoot.place, "hfsc", options⟩ := by
      unfold Kernel.remove
      rw [Kernel.prune_nil]
    rw [kernel_eq]
    unfold qdiscHandler Kernel.newQdisc
    dsimp only
    rw [TrafficRecord.place_ofPlace]
    nth_rewrite 2 [← free]
    rfl
  have three : ((Operation.mutateQdisc .add leaf .highResolution).after added).kernel = _ :=
    congrArg (·.2.kernel) ((runs_ofQdisc add leaf .highResolution added).eq_of_handled made read
      handled)
  refine ⟨options, ?_⟩
  unfold Endpoint.session twoLevels
  rw [List.foldl_cons, one, List.foldl_cons, two]
  exact three

theorem removesSubtree_of_delete_twoLevels :
    (∀ operation ∈ twoLevels, operation.GivesHandle) ∧
      ∃ deleted top removed,
        (delete.ofQdisc ownRoot .highResolution).run Endpoint.transport
          ((Endpoint.ofKernel (.ofLinks [⟨2, "eth0"⟩])).session twoLevels) = (.ok (), deleted) ∧
        Kernel.RemovesSubtree
          ((Endpoint.ofKernel (.ofLinks [⟨2, "eth0"⟩])).session twoLevels).kernel ownRoot.place top
          removed deleted.kernel := by
  have handles : ∀ operation ∈ twoLevels, operation.GivesHandle := by
    intro operation member
    simp only [twoLevels, List.mem_cons, List.not_mem_nil, or_false] at member
    rcases member with rfl | rfl | rfl
    · exact fun _ => rfl
    · trivial
    · exact fun _ => rfl
  obtain ⟨options, kernel_eq⟩ := exists_kernel_session_twoLevels
  obtain ⟨request, made, payload, _⟩ := exists_request_delete delete.qdiscType ownRoot.place
    ownRoot.kindName (ownRoot.settings.encode .highResolution)
  have read := TrafficRequest.read_toBytes (TrafficRecord.ofPlace ownRoot.place 0)
  rw [← payload] at read
  have handled : ∃ after, delete.qdiscHandler ⟨TrafficRecord.ofPlace ownRoot.place 0, none, none⟩
      ((Endpoint.ofKernel (.ofLinks [⟨2, "eth0"⟩])).session twoLevels).kernel = .ok () after := by
    rw [kernel_eq]
    unfold qdiscHandler Kernel.deleteQdisc
    dsimp only
    rw [TrafficRecord.place_ofPlace]
    exact ⟨_, rfl⟩
  obtain ⟨after, handled⟩ := handled
  have done := (runs_ofQdisc delete ownRoot .highResolution _).eq_of_handled made read handled
  obtain ⟨top, removed, removes⟩ := removesSubtree_of_delete [⟨2, "eth0"⟩] handles done
  exact ⟨handles, _, top, removed, done, removes⟩

end Mutation

end TrafficShaping
