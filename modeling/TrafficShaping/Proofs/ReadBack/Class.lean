import TrafficShaping.Proofs.ClassOptions
import TrafficShaping.Proofs.ReadBack
import TrafficShaping.Proofs.Session.Places

/-!
A class that has been added is listed.

An accepted addition has put one entry at the end of the table of classes, under a handle that no
class had (`Kernel.CreatesClass`). The list of the classes of the qdisc is the one from before with
that class behind it: `Mutation.listsLast_of_add`. The kernel reports a class directly below its
qdisc as attached to the link. It knows such a class by the minor number of the parent, which is
zero for qdiscs only, as `Endpoint.minor_session` has it.
-/

namespace TrafficShaping

namespace Kernel

variable {kernel after : Kernel} {flags : UInt16} {request : TrafficRequest} {qdisc : Entry}
  {handle parent : Handle}

/-- An addition that is accepted does not change a class, so it has created one. -/
theorem creates_of_newClass (done : newClass Mutation.add.flags request kernel = .ok () after) :
    ∃ qdisc handle parent,
      CreatesClass kernel Mutation.add.flags request qdisc handle parent after := by
  obtain ⟨qdisc, handle, changes | ⟨parent, creates⟩⟩ := newClass_eq_ok done
  · have exclusive : MessageFlag.isSet Mutation.add.flags MessageFlag.exclusive = true := by decide
    exact Bool.noConfusion (exclusive.symm.trans changes.shared)
  · exact ⟨qdisc, handle, parent, creates⟩

namespace CreatesClass

/-- A handle with a major number is taken as it is. -/
theorem handle_eq (creates : CreatesClass kernel flags request qdisc handle parent after)
    (major : request.record.place.handle.major ≠ 0) :
    qdisc.place.handle = request.record.place.handle.qdisc ∧
      handle = request.record.place.handle := by
  have owner := creates.target.own major
  refine ⟨owner, ?_⟩
  rw [creates.target.handle_eq, owner, Handle.major_qdisc, Handle.ofParts_major_minor]

/-- The parent that is reported of the new class, if all classes have minor numbers. -/
theorem shownParent_eq (creates : CreatesClass kernel flags request qdisc handle parent after)
    (major : request.record.place.handle.major ≠ 0)
    (minor : ∀ tclass ∈ kernel.classes, tclass.place.handle.minor ≠ 0) (link : UInt32)
    (kind : String) (options : Option Bytes) :
    shownParent ⟨⟨link, handle, parent⟩, kind, options⟩ =
      if request.record.place.parent.isRoot ||
          request.record.place.parent == request.record.place.handle.qdisc then .root
      else request.record.place.parent := by
  obtain ⟨owner, _⟩ := creates.handle_eq major
  have plain : qdisc.place.handle.minor = 0 := by rw [owner, Handle.minor_qdisc]
  unfold shownParent
  rw [creates.parent_eq, ← owner]
  cases root : request.record.place.parent.isRoot with
  | true =>
      rw [if_pos rfl, Bool.true_or, if_pos rfl]
      exact if_pos plain
  | false =>
      rw [if_neg Bool.false_ne_true, Bool.false_or]
      have parent_eq : parent = request.record.place.parent := by
        rw [creates.parent_eq, root]
        rfl
      rcases creates.placed with direct | ⟨tclass, found⟩
      · have same := parent_eq.symm.trans direct
        rw [if_pos (beq_iff_eq.mpr same), same]
        exact if_pos plain
      · have named := (isNamed_iff.mp (List.find?_some found)).2
        have numbered := minor tclass (List.mem_of_find?_eq_some found)
        rw [named, parent_eq] at numbered
        have other : request.record.place.parent ≠ qdisc.place.handle := fun same =>
          numbered (same ▸ plain)
        rw [if_neg (mt beq_iff_eq.mp other)]
        exact if_neg numbered

end CreatesClass

end Kernel

/-! ## The list after an addition -/

/-- What matches two lists in a row is two lists in a row. -/
theorem exists_append_of_forall₂ {α β : Type} {R : α → β → Prop} {front back : List α}
    {all : List β} (matched : List.Forall₂ R (front ++ back) all) :
    ∃ others last, all = others ++ last ∧ List.Forall₂ R front others ∧
      List.Forall₂ R back last :=
  ⟨all.take front.length, all.drop front.length, List.take_append_drop _ _ |>.symm,
    (List.forall₂_take_append _ _ _ matched.flip).flip,
    (List.forall₂_drop_append _ _ _ matched.flip).flip⟩

namespace Class

/-- A class as it is listed after it has been added. -/
def asListed (tclass : Class) : Class :=
  { tclass with
    place.parent :=
      if tclass.place.parent.isRoot || tclass.place.parent == tclass.place.handle.qdisc then .root
      else tclass.place.parent
    statistics := .zero }

end Class

namespace Mutation

/-- A class has been added to the kernel as the last one. -/
structure AddsClass (tclass : Class) (clock : Clock) (before : Kernel) (entry : Entry)
    (after : Kernel) : Prop where
  written : tclass.settings.encode clock = .ok entry.options
  kind : entry.kind = tclass.kindName
  free : '\x00' ∉ entry.kind.toList
  link : entry.place.link = tclass.place.link
  handle : entry.place.handle = tclass.place.handle
  parent : Kernel.shownParent entry = tclass.asListed.place.parent
  unused : before.class? tclass.place.link tclass.place.handle = none
  kernel_eq : after = before.withClass entry

/-- An accepted addition under a handle with a major number, if all classes have minor numbers. -/
theorem addsClass_of_run {tclass : Class} {clock : Clock} {endpoint added : Endpoint}
    {owner : Entry} (major : tclass.place.handle.major ≠ 0)
    (owned : endpoint.kernel.qdisc? tclass.place.link tclass.place.handle.qdisc = some owner)
    (kind : owner.kind = tclass.kindName)
    (minor : ∀ other ∈ endpoint.kernel.classes, other.place.handle.minor ≠ 0)
    (done : (add.ofClass tclass clock).run Endpoint.transport endpoint = (.ok (), added)) :
    ∃ entry, AddsClass tclass clock endpoint.kernel entry added.kernel := by
  have runs := runs_ofClass add tclass clock endpoint
  rw [done] at runs
  cases runs with
  | @accepted request traffic after made read placed handled =>
      obtain ⟨qdisc, handle, parent, creates⟩ := Kernel.creates_of_newClass handled
      have shown := creates.shownParent_eq (placed ▸ major) minor
      obtain ⟨owns, rfl⟩ := creates.handle_eq (placed ▸ major)
      have found := creates.target.found
      have free := creates.free
      have after_eq := creates.after_eq
      rw [owns] at found
      rw [placed] at found shown free after_eq
      cases found.symm.trans owned
      have classful : '\x00' ∉ owner.kind.toList :=
        (by decide : ∀ kind ∈ Kernel.classfulKinds, '\x00' ∉ kind.toList) _ creates.target.kind
      obtain ⟨options, written, told⟩ :=
        (conveys_classRequest (by decide) tclass clock).exists_traffic (kind ▸ classful) made
      cases told.symm.trans read
      exact ⟨⟨⟨tclass.place.link, tclass.place.handle, parent⟩, owner.kind, options⟩, written, kind,
        classful, rfl, rfl, shown _ _ _, free, after_eq⟩

namespace AddsClass

variable {tclass : Class} {clock : Clock} {before after : Kernel} {entry : Entry}

theorem reported (adds : AddsClass tclass clock before entry after) :
    Kernel.reportsClass tclass.place.link tclass.place.handle.qdisc entry = true := by
  rw [Kernel.reportsClass, adds.link, adds.handle, Handle.major_qdisc, beq_self_eq_true,
    beq_self_eq_true, Bool.or_true, Bool.true_and]

theorem decode_eq_ok (adds : AddsClass tclass clock before entry after)
    (own : tclass.settings.HasOwnKind) :
    Class.decode entry.kind { entry.place with parent := Kernel.shownParent entry } .zero
      entry.options = .ok tclass.asListed := by
  have place : { entry.place with parent := Kernel.shownParent entry } = tclass.asListed.place := by
    dsimp only
    rw [adds.link, adds.handle, adds.parent]
    rfl
  obtain ⟨options, written, decodes⟩ :=
    Class.exists_encode_decode own clock tclass.asListed.place .zero
  cases adds.written.symm.trans written
  rw [adds.kind, place]
  exact decodes

/-- What is read of the new entry is the class that was added. -/
theorem eq_asListed (adds : AddsClass tclass clock before entry after)
    (own : tclass.settings.HasOwnKind) {result : Class}
    (reads : Dump.ClassReadsAs after tclass.place.link entry result) : result = tclass.asListed :=
  Except.ok.inj ((Class.decode_of_read_report adds.free reads).symm.trans (adds.decode_eq_ok own))

end AddsClass

/-- Whatever the kernel has been through, the list of the classes of a qdisc after a class has been
added is the list from before and then the class. -/
theorem listsLast_of_add (links : List Link) (operations : List Operation) {tclass : Class}
    {clock : Clock} {owner : Entry} {added listed : Endpoint} {all : List Class}
    (own : tclass.settings.HasOwnKind) (major : tclass.place.handle.major ≠ 0)
    (owned : ((Endpoint.ofKernel (.ofLinks links)).session operations).kernel.qdisc?
      tclass.place.link tclass.place.handle.qdisc = some owner)
    (kind : owner.kind = tclass.kindName)
    (done : (add.ofClass tclass clock).run Endpoint.transport
      ((Endpoint.ofKernel (.ofLinks links)).session operations) = (.ok (), added))
    (got : (Dump.classes tclass.place.link tclass.place.handle.qdisc).run Endpoint.transport
      added = (.ok all, listed)) :
    ∃ others, all = others ++ [tclass.asListed] ∧
      (∀ other ∈ others, other.place.handle ≠ tclass.place.handle) ∧
      ((Dump.classes tclass.place.link tclass.place.handle.qdisc).run Endpoint.transport
        ((Endpoint.ofKernel (.ofLinks links)).session operations)).1 = .ok others := by
  have minor := Endpoint.minor_session links operations
  generalize (Endpoint.ofKernel (.ofLinks links)).session operations = endpoint at *
  obtain ⟨entry, adds⟩ := addsClass_of_run major owned kind minor done
  have matched := (Dump.classes_eq_ok added).mp (congrArg Prod.fst got)
  have table : added.kernel.classes = endpoint.kernel.classes ++ [entry] :=
    congrArg Kernel.classes adds.kernel_eq
  rw [table, List.filter_append, List.filter_cons_of_pos adds.reported, List.filter_nil] at matched
  obtain ⟨others, last, rfl, before, new⟩ := exists_append_of_forall₂ matched
  obtain ⟨result, nothing, reads, ends, rfl⟩ := List.forall₂_cons_left_iff.mp new
  rw [List.forall₂_nil_left_iff.mp ends, adds.eq_asListed own reads]
  -- The reports on the classes from before have not changed, since the qdiscs have not.
  have same : Dump.ClassReadsAs added.kernel tclass.place.link =
      Dump.ClassReadsAs endpoint.kernel tclass.place.link := by
    rw [adds.kernel_eq]
    rfl
  rw [same] at before
  refine ⟨others, rfl, fun other member named => ?_, (Dump.classes_eq_ok endpoint).mpr before⟩
  obtain ⟨index, inList, rfl⟩ := List.getElem_of_mem member
  have reads := before.get (before.length_eq ▸ inList) inList
  obtain ⟨present, reported⟩ := List.mem_filter.mp (List.getElem_mem (before.length_eq ▸ inList))
  have onLink := beq_iff_eq.mp (Bool.and_eq_true_iff.mp reported).1
  have handle := congrArg Placement.handle reads.place
  exact List.find?_eq_none.mp adds.unused _ present
    (Kernel.isNamed_iff.mpr ⟨onLink, handle.symm.trans named⟩)

/-- A class directly below `ownRoot`, which it names as its parent. -/
def belowOwnRoot : Class :=
  .ofSettings ⟨2, .ofParts 1 0x10, .ofParts 1 0⟩
    (.hfsc (HfscClass.empty.withService ⟨125000, 0, 125000⟩))

/-- The addition of `belowOwnRoot` under `ownRoot` is accepted. -/
theorem exists_run_belowOwnRoot (endpoint : Endpoint) (start : endpoint.kernel = rooted) :
    ∃ added options, (add.ofClass belowOwnRoot .highResolution).run Endpoint.transport endpoint =
        (.ok (), added) ∧
      added.kernel = rooted.withClass ⟨belowOwnRoot.place, "hfsc", options⟩ := by
  obtain ⟨request, made⟩ : ∃ request, add.classRequest belowOwnRoot .highResolution = .ok request :=
    ⟨_, rfl⟩
  obtain ⟨options, _, read⟩ := (conveys_classRequest (by decide) belowOwnRoot
    .highResolution).exists_traffic (by decide) made
  have handled : add.classHandler
      ⟨TrafficRecord.ofPlace belowOwnRoot.place 0, some "hfsc", options⟩ endpoint.kernel =
        .ok () (rooted.withClass ⟨belowOwnRoot.place, "hfsc", options⟩) := by
    rw [start]
    unfold classHandler Kernel.newClass
    dsimp only
    rw [TrafficRecord.place_ofPlace]
    rfl
  have runs := runs_ofClass add belowOwnRoot .highResolution endpoint
  exact ⟨_, options, runs.eq_of_handled made read handled, rfl⟩

theorem listsLast_of_add_belowOwnRoot :
    ∃ endpoint added all listed,
      (Endpoint.ofKernel (.ofLinks [⟨2, "eth0"⟩])).session
        [.mutateQdisc .add ownRoot .highResolution] = endpoint ∧
      belowOwnRoot.settings.HasOwnKind ∧ belowOwnRoot.place.handle.major ≠ 0 ∧
      endpoint.kernel.qdisc? belowOwnRoot.place.link belowOwnRoot.place.handle.qdisc =
        some ⟨ownRoot.place, "hfsc", some [5, 0]⟩ ∧
      "hfsc" = belowOwnRoot.kindName ∧
      (add.ofClass belowOwnRoot .highResolution).run Endpoint.transport endpoint =
        (.ok (), added) ∧
      (Dump.classes belowOwnRoot.place.link belowOwnRoot.place.handle.qdisc).run
        Endpoint.transport added = (.ok all, listed) ∧
      ∃ others, all = others ++ [belowOwnRoot.asListed] ∧
        (∀ other ∈ others, other.place.handle ≠ belowOwnRoot.place.handle) ∧
        ((Dump.classes belowOwnRoot.place.link belowOwnRoot.place.handle.qdisc).run
          Endpoint.transport endpoint).1 = .ok others := by
  obtain ⟨first, rooting⟩ := exists_run_ownRoot
  have start : ((Endpoint.ofKernel (.ofLinks [⟨2, "eth0"⟩])).session
      [.mutateQdisc .add ownRoot .highResolution]).kernel = rooted :=
    congrArg (·.2.kernel) rooting
  have owned : ((Endpoint.ofKernel (.ofLinks [⟨2, "eth0"⟩])).session
      [.mutateQdisc .add ownRoot .highResolution]).kernel.qdisc? 2
        belowOwnRoot.place.handle.qdisc = some ⟨ownRoot.place, "hfsc", some [5, 0]⟩ := by
    rw [start]
    rfl
  have own : belowOwnRoot.settings.HasOwnKind := trivial
  have major : belowOwnRoot.place.handle.major ≠ 0 := by decide
  obtain ⟨added, _, done, _⟩ := exists_run_belowOwnRoot _ start
  obtain ⟨entry, adds⟩ := addsClass_of_run major owned rfl
    (Endpoint.minor_session [⟨2, "eth0"⟩] [.mutateQdisc .add ownRoot .highResolution]) done
  obtain ⟨data, reported⟩ : ∃ data, Attribute.writeAll entry.attributes = .ok data := by
    have written := adds.written
    unfold Entry.attributes
    rw [adds.kind]
    generalize entry.options = options at written
    cases written
    exact ⟨_, rfl⟩
  have list : ((Dump.classes belowOwnRoot.place.link belowOwnRoot.place.handle.qdisc).run
      Endpoint.transport added).1 = .ok [belowOwnRoot.asListed] := by
    refine (Dump.classes_eq_ok added).mpr ?_
    have table : added.kernel.classes = [entry] := by
      rw [adds.kernel_eq, start]
      rfl
    rw [table, List.filter_cons_of_pos adds.reported]
    exact .cons ((Class.read_report adds.free reported _ _).trans (adds.decode_eq_ok own)) .nil
  exact ⟨_, added, _, _, rfl, own, major, owned, rfl, done, Prod.ext list rfl,
    listsLast_of_add [⟨2, "eth0"⟩] [.mutateQdisc .add ownRoot .highResolution] own major owned rfl
      done (Prod.ext list rfl)⟩

end Mutation

end TrafficShaping
