import TrafficShaping.Proofs.Session.WellFormed

/-!
What is true of every place in the tables, whatever the session.

Some facts about a place do not depend on the other entries of its table, so that they survive a
call as soon as the object that the call creates has them: `Kernel.Occupies`. Links may share an
index here, which the tree of `Kernel.WellFormed` excludes. All classes have a minor number,
whatever the calls (`Endpoint.minor_session`). When every qdisc comes with a handle, a qdisc without
one is attached to its link (`Endpoint.numbered_session`).
-/

namespace TrafficShaping

namespace Kernel

variable {qdiscs classes : Placement → Prop} {kernel after : Kernel} {flags : UInt16}
  {request : TrafficRequest}

/-- Whether the places of all qdiscs are of one sort and those of all classes of another. -/
structure Occupies (qdiscs classes : Placement → Prop) (kernel : Kernel) : Prop where
  qdisc : ∀ entry ∈ kernel.qdiscs, qdiscs entry.place
  tclass : ∀ entry ∈ kernel.classes, classes entry.place

/-- Options have no influence on places. -/
theorem forall_place_setOptions {holds : Placement → Prop} {entries : List Entry}
    (all : ∀ entry ∈ entries, holds entry.place) (condition : Entry → Bool)
    (options : Option Bytes) :
    ∀ entry ∈ Entry.setOptions condition options entries, holds entry.place := by
  intro entry member
  have among := List.mem_map_of_mem (f := bare) member
  rw [map_bare_setOptions] at among
  obtain ⟨old, present, same⟩ := List.mem_map.mp among
  have place : (bare old).place = (bare entry).place := congrArg Entry.place same
  rw [place_bare, place_bare] at place
  exact place ▸ all old present

namespace Occupies

theorem remove (occupies : Occupies qdiscs classes kernel) (link : UInt32)
    (handles : List Handle) : Occupies qdiscs classes (kernel.remove link handles) := by
  obtain ⟨removed, _, same⟩ := exists_remove_eq kernel link handles
  rw [same]
  exact ⟨fun entry left => occupies.qdisc entry (List.mem_filter.mp left).1,
    fun entry left => occupies.tclass entry (List.mem_filter.mp left).1⟩

theorem withQdisc (occupies : Occupies qdiscs classes kernel) {entry : Entry}
    (new : qdiscs entry.place) : Occupies qdiscs classes (kernel.withQdisc entry) where
  qdisc := List.forall_mem_append.mpr ⟨occupies.qdisc, List.forall_mem_singleton.mpr new⟩
  tclass := occupies.tclass

theorem withClass (occupies : Occupies qdiscs classes kernel) {entry : Entry}
    (new : classes entry.place) : Occupies qdiscs classes (kernel.withClass entry) where
  qdisc := occupies.qdisc
  tclass := List.forall_mem_append.mpr ⟨occupies.tclass, List.forall_mem_singleton.mpr new⟩

theorem takeHandle (occupies : Occupies qdiscs classes kernel) {asked handle : Handle}
    (taken : Kernel.takeHandle asked kernel = .ok handle after) :
    Occupies qdiscs classes after := by
  unfold Kernel.takeHandle at taken
  split at taken
  · obtain ⟨_, rfl⟩ := EStateM.Result.ok.inj taken
    exact ⟨occupies.qdisc, occupies.tclass⟩
  · cases taken
    exact occupies

/-- A request for a qdisc adds one place at most, which has the handle that the request gives. -/
theorem newQdisc (occupies : Occupies qdiscs classes kernel)
    (done : Kernel.newQdisc flags request kernel = .ok () after)
    (new : MessageFlag.isSet flags MessageFlag.create = true → ∀ handle : Handle,
      (¬ request.record.place.handle.isNone = true →
        handle = request.record.place.handle ∧ handle.minor = 0) →
      qdiscs { request.record.place with handle }) : Occupies qdiscs classes after := by
  rcases newQdisc_eq_ok done with ⟨qdisc, changes⟩ | ⟨kind, attached, handle, between, creates⟩
  · rw [changes.after_eq]
    exact ⟨forall_place_setOptions occupies.qdisc _ _, occupies.tclass⟩
  · rw [creates.after_eq]
    refine ((occupies.takeHandle creates.taken).remove _ _).withQdisc ?_
    refine new creates.creates handle fun given => ?_
    obtain ⟨rfl, _⟩ := creates.taken_of_given given
    exact ⟨rfl, (creates.given given).1⟩

theorem deleteQdisc (occupies : Occupies qdiscs classes kernel)
    (root : ∀ link, qdiscs ⟨link, .none, .root⟩)
    (done : Kernel.deleteQdisc request kernel = .ok () after) : Occupies qdiscs classes after := by
  obtain ⟨qdisc, deletes⟩ := deleteQdisc_eq_ok done
  have left := occupies.remove request.record.place.link [qdisc.place.handle]
  rw [deletes.after_eq]
  dsimp only
  split
  · exact left.withQdisc (root _)
  · exact left

/-- A request for a class adds one place at most, which has a minor number. -/
theorem newClass (occupies : Occupies qdiscs classes kernel)
    (done : Kernel.newClass flags request kernel = .ok () after)
    (new : ∀ place : Placement, place.handle.minor ≠ 0 → classes place) :
    Occupies qdiscs classes after := by
  obtain ⟨qdisc, handle, changes | ⟨parent, creates⟩⟩ := newClass_eq_ok done
  · rw [changes.after_eq]
    exact ⟨occupies.qdisc, forall_place_setOptions occupies.tclass _ _⟩
  · rw [creates.after_eq]
    refine occupies.withClass (new _ ?_)
    rw [creates.target.handle_eq, Handle.minor_ofParts]
    exact creates.target.minor

theorem deleteClass (occupies : Occupies qdiscs classes kernel)
    (done : Kernel.deleteClass request kernel = .ok () after) : Occupies qdiscs classes after := by
  obtain ⟨qdisc, handle, deletes⟩ := deleteClass_eq_ok done
  have fewer : Occupies qdiscs classes
      (kernel.withoutClass request.record.place.link handle) :=
    ⟨occupies.qdisc, fun entry left => occupies.tclass entry (List.mem_of_mem_eraseP left)⟩
  rw [deletes.after_eq]
  exact fewer.remove _ _

theorem ofLinks (root : ∀ link, qdiscs ⟨link, .none, .root⟩) (links : List Link) :
    Occupies qdiscs classes (Kernel.ofLinks links) := by
  suffices grown : ∀ kernel : Kernel, Occupies qdiscs classes kernel →
      Occupies qdiscs classes (links.foldl withLink kernel) from
    grown .empty ⟨fun _ member => (nomatch member), fun _ member => (nomatch member)⟩
  induction links with
  | nil => exact fun kernel occupies => occupies
  | cons link links ih =>
      intro kernel occupies
      have added : Occupies qdiscs classes (kernel.withQdisc (.defaultRoot link.index)) :=
        occupies.withQdisc (root link.index)
      exact ih (kernel.withLink link) ⟨added.qdisc, added.tclass⟩

end Occupies

/-- A qdisc has no minor number, and one without handle is attached to the link itself. -/
structure Numbered (place : Placement) : Prop where
  minor : place.handle.minor = 0
  root : place.handle.isNone = true → place.parent.isRoot = true

theorem numbered_root (link : UInt32) : Numbered ⟨link, .none, .root⟩ where
  minor := (by decide : Handle.none.minor = 0)
  root _ := rfl

end Kernel

/-! ## Sessions -/

namespace Operation

variable {qdiscs classes : Placement → Prop} {operation : Operation} {kernel after : Kernel}

/-- A call keeps the sort of all places when it has it of those that it adds. -/
theorem Step.occupies (step : operation.Step kernel after)
    (occupies : kernel.Occupies qdiscs classes) (root : ∀ link, qdiscs ⟨link, .none, .root⟩)
    (newClass : ∀ place : Placement, place.handle.minor ≠ 0 → classes place)
    (newQdisc : ∀ {mutation qdisc clock}, operation = mutateQdisc mutation qdisc clock →
      MessageFlag.isSet mutation.flags MessageFlag.create = true → ∀ handle : Handle,
        (¬ qdisc.place.handle.isNone = true →
          handle = qdisc.place.handle ∧ handle.minor = 0) →
        qdiscs { qdisc.place with handle }) : after.Occupies qdiscs classes := by
  cases step with
  | idle => exact occupies
  | @qdisc mutation qdisc clock _ _ traffic placed handled =>
      have new := @newQdisc mutation qdisc clock rfl
      rw [← placed] at new
      cases mutation with
      | delete => exact occupies.deleteQdisc root handled
      | add => exact occupies.newQdisc handled new
      | change => exact occupies.newQdisc handled new
      | replace => exact occupies.newQdisc handled new
  | @tclass mutation _ _ _ _ _ _ handled =>
      cases mutation with
      | delete => exact occupies.deleteClass handled
      | add => exact occupies.newClass handled newClass
      | change => exact occupies.newClass handled newClass
      | replace => exact occupies.newClass handled newClass

theorem GivesHandle.given {mutation : Mutation} {qdisc : Qdisc} {clock : Clock}
    (gives : (mutateQdisc mutation qdisc clock).GivesHandle)
    (creates : MessageFlag.isSet mutation.flags MessageFlag.create = true) :
    ¬ qdisc.place.handle.isNone = true := by
  refine Bool.eq_false_iff.mp (gives ?_)
  cases mutation with
  | add => exact .inl rfl
  | replace => exact .inr rfl
  | change => exact absurd creates (by decide)
  | delete => exact absurd creates (by decide)

end Operation

namespace Endpoint

/-- After every session all classes have a minor number. -/
theorem minor_session (links : List Link) (operations : List Operation) :
    ∀ tclass ∈ ((ofKernel (.ofLinks links)).session operations).kernel.classes,
      tclass.place.handle.minor ≠ 0 := by
  have start : (Kernel.ofLinks links).Occupies (fun _ => True) (·.handle.minor ≠ 0) :=
    .ofLinks (fun _ => trivial) links
  suffices occupies : Kernel.Occupies (fun _ => True) (·.handle.minor ≠ 0) _ from occupies.tclass
  have step : ∀ operation kernel after, True → Operation.Step operation kernel after →
      kernel.Occupies (fun _ => True) (·.handle.minor ≠ 0) →
        after.Occupies (fun _ => True) (·.handle.minor ≠ 0) :=
    fun operation kernel after _ step occupies =>
      step.occupies occupies (fun _ => trivial) (fun _ minor => minor) fun _ _ _ _ => trivial
  exact holds_session step operations _ start fun _ _ => trivial

/-- When all qdiscs come with handles, those that the kernel has attached by itself are the only
ones without. -/
theorem numbered_session (links : List Link) {operations : List Operation}
    (handles : ∀ operation ∈ operations, operation.GivesHandle) :
    ∀ qdisc ∈ ((ofKernel (.ofLinks links)).session operations).kernel.qdiscs,
      Kernel.Numbered qdisc.place := by
  have start : (Kernel.ofLinks links).Occupies Kernel.Numbered fun _ => True :=
    .ofLinks Kernel.numbered_root links
  suffices occupies : Kernel.Occupies Kernel.Numbered (fun _ => True) _ from occupies.qdisc
  refine holds_session (fun operation kernel after allowed step occupies => ?_) operations _ start
    handles
  refine step.occupies occupies Kernel.numbered_root (fun _ _ => trivial) ?_
  rintro mutation qdisc clock rfl creates handle own
  obtain ⟨rfl, minor⟩ := own (Operation.GivesHandle.given allowed creates)
  exact ⟨minor, fun none => absurd none (Operation.GivesHandle.given allowed creates)⟩

end Endpoint

end TrafficShaping
