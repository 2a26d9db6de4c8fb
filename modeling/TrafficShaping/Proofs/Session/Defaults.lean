import TrafficShaping.Proofs.Session.Places
import TrafficShaping.Proofs.Session.Root

/-!
The qdiscs that the kernel has attached by itself.

When the client gives a handle to every qdisc that it adds or replaces, the qdiscs without handle are
those of the kernel, and since a qdisc without handle cannot be changed, they are as the kernel makes
them. When no class has the minor number of the place that stands for a link either, each link has
exactly one qdisc that is attached to it. All of this is `Kernel.Provided`, and holds after every
session of such calls (`Endpoint.provided_session`).
-/

namespace TrafficShaping

namespace Kernel

variable {kernel after : Kernel} {flags : UInt16} {request : TrafficRequest}

/-! ## What is written -/

theorem links_newQdisc (done : newQdisc flags request kernel = .ok () after) :
    after.links = kernel.links := by
  rcases newQdisc_eq_ok done with ⟨qdisc, changes⟩ | ⟨kind, attached, handle, between, creates⟩
  · rw [changes.after_eq]
  · obtain ⟨nextMajor, rfl⟩ := exists_nextMajor_of_takeHandle creates.taken
    rw [creates.after_eq]
    rfl

/-- To delete a qdisc the kernel writes to the tables only. -/
theorem exists_tables_of_deleteQdisc (done : deleteQdisc request kernel = .ok () after) :
    ∃ qdiscs classes, after = { kernel with qdiscs, classes } := by
  obtain ⟨qdisc, deletes⟩ := deleteQdisc_eq_ok done
  rw [deletes.after_eq]
  dsimp only
  split
  · exact ⟨_, _, rfl⟩
  · exact ⟨_, _, rfl⟩

theorem exists_classes_of_newClass (done : newClass flags request kernel = .ok () after) :
    ∃ classes, after = { kernel with classes } := by
  obtain ⟨qdisc, handle, changes | ⟨parent, creates⟩⟩ := newClass_eq_ok done
  · exact ⟨_, changes.after_eq⟩
  · exact ⟨_, creates.after_eq⟩

theorem exists_tables_of_deleteClass (done : deleteClass request kernel = .ok () after) :
    ∃ qdiscs classes, after = { kernel with qdiscs, classes } := by
  obtain ⟨qdisc, handle, _, rfl⟩ := exists_classTarget_of_deleteClass done
  exact ⟨_, _, rfl⟩

/-! ## Qdiscs without handle -/

/-- Whether every qdisc without handle is as the kernel attaches it to a link. -/
def Untouched (qdiscs : List Entry) : Prop :=
  ∀ qdisc ∈ qdiscs, qdisc.place.handle.isNone = true → qdisc = .defaultRoot qdisc.place.link

namespace Untouched

theorem remove (untouched : Untouched kernel.qdiscs) (link : UInt32) (handles : List Handle) :
    Untouched (kernel.remove link handles).qdiscs := fun qdisc left =>
  untouched qdisc (mem_qdiscs_remove.mp left).1

theorem concat {qdiscs : List Entry} (untouched : Untouched qdiscs) {qdisc : Entry}
    (new : qdisc.place.handle.isNone = true → qdisc = .defaultRoot qdisc.place.link) :
    Untouched (qdiscs ++ [qdisc]) :=
  List.forall_mem_append.mpr ⟨untouched, List.forall_mem_singleton.mpr new⟩

theorem newQdisc (untouched : Untouched kernel.qdiscs)
    (done : Kernel.newQdisc flags request kernel = .ok () after)
    (given : MessageFlag.isSet flags MessageFlag.create = true →
      ¬ request.record.place.handle.isNone = true) : Untouched after.qdiscs := by
  rcases newQdisc_eq_ok done with ⟨qdisc, changes⟩ | ⟨kind, attached, handle, between, creates⟩
  · obtain ⟨front, back, whole, _, set⟩ := exists_setOptions_eq changes.found request.options
    rw [changes.after_eq]
    intro other member nameless
    rw [whole] at untouched
    rw [set] at member
    rcases List.mem_append.mp member with before | behind
    · exact untouched other (List.mem_append_left _ before) nameless
    rcases List.mem_cons.mp behind with rfl | later
    · exact Bool.noConfusion (changes.visible.symm.trans nameless)
    · exact untouched other (List.mem_append_right _ (List.mem_cons_of_mem _ later)) nameless
  · have asked := given creates.creates
    obtain ⟨rfl, rfl⟩ := creates.taken_of_given asked
    rw [creates.after_eq]
    exact (untouched.remove _ _).concat fun nameless => absurd nameless asked

theorem deleteQdisc (untouched : Untouched kernel.qdiscs)
    (done : Kernel.deleteQdisc request kernel = .ok () after) : Untouched after.qdiscs := by
  obtain ⟨qdisc, deletes⟩ := deleteQdisc_eq_ok done
  rw [deletes.after_eq]
  dsimp only
  split
  · exact (untouched.remove _ _).concat fun _ => rfl
  · exact untouched.remove _ _

theorem deleteClass (untouched : Untouched kernel.qdiscs)
    (done : Kernel.deleteClass request kernel = .ok () after) : Untouched after.qdiscs := by
  obtain ⟨qdisc, handle, _, rfl⟩ := exists_classTarget_of_deleteClass done
  have start : Untouched (kernel.withoutClass request.record.place.link handle).qdiscs := untouched
  exact start.remove _ _

end Untouched

theorem untouched_ofLinks (links : List Link) : Untouched (ofLinks links).qdiscs := by
  rw [qdiscs_ofLinks]
  intro qdisc member _
  obtain ⟨link, _, rfl⟩ := List.mem_map.mp member
  rfl

theorem links_ofLinks (links : List Link) : (ofLinks links).links = links := by
  suffices grown : ∀ kernel : Kernel, (links.foldl withLink kernel).links = kernel.links ++ links from
    grown .empty
  induction links with
  | nil => exact fun kernel => (List.append_nil _).symm
  | cons link links ih =>
      intro kernel
      rw [List.foldl_cons, ih]
      exact List.append_assoc _ _ _

/-- Whether the tables are a tree in which each link has a qdisc of its own, and what has no handle
is as the kernel makes it. -/
structure Provided (kernel : Kernel) : Prop where
  sound : kernel.Sound
  rooted : Rooted kernel.links kernel.qdiscs
  untouched : Untouched kernel.qdiscs

end Kernel

/-! ## Sessions -/

namespace Operation

/-- Whether a class that the call is about has another minor number than the place that stands for
the link. -/
def AvoidsRoot : Operation → Prop
  | mutateClass _ tclass _ => tclass.place.handle.minor ≠ 0xFFFF
  | _ => True

variable {operation : Operation} {kernel after : Kernel}

theorem Step.links_eq (step : operation.Step kernel after) : after.links = kernel.links := by
  cases step with
  | idle => rfl
  | qdisc _ handled =>
      rcases Mutation.qdiscHandler_eq_ok handled with ⟨_, deleted⟩ | ⟨_, done⟩
      · obtain ⟨_, _, rfl⟩ := Kernel.exists_tables_of_deleteQdisc deleted
        rfl
      · exact Kernel.links_newQdisc done
  | tclass _ handled =>
      rcases Mutation.classHandler_eq_ok handled with ⟨_, deleted⟩ | ⟨_, done⟩
      · obtain ⟨_, _, rfl⟩ := Kernel.exists_tables_of_deleteClass deleted
        rfl
      · obtain ⟨_, rfl⟩ := Kernel.exists_classes_of_newClass done
        rfl

theorem Step.untouched (step : operation.Step kernel after) (gives : operation.GivesHandle)
    (untouched : Kernel.Untouched kernel.qdiscs) : Kernel.Untouched after.qdiscs := by
  cases step with
  | idle => exact untouched
  | qdisc placed handled =>
      rcases Mutation.qdiscHandler_eq_ok handled with ⟨_, deleted⟩ | ⟨_, done⟩
      · exact untouched.deleteQdisc deleted
      · refine untouched.newQdisc done fun creates => ?_
        rw [placed]
        exact GivesHandle.given gives creates
  | tclass _ handled =>
      rcases Mutation.classHandler_eq_ok handled with ⟨_, deleted⟩ | ⟨_, done⟩
      · exact untouched.deleteClass deleted
      · exact (Kernel.qdiscs_newClass done).symm ▸ untouched

/-- Such a call spares the qdiscs of the links whatever the state of the kernel. -/
theorem spares_of_avoidsRoot (gives : operation.GivesHandle) (avoids : operation.AvoidsRoot)
    (step : operation.Step kernel after) : operation.Spares kernel after := by
  cases operation with
  | mutateQdisc mutation qdisc clock =>
      exact spares_of_free step fun creates nameless =>
        absurd nameless (GivesHandle.given gives creates)
  | mutateClass mutation tclass clock => exact fun _ _ => Kernel.classTarget_ne_root avoids
  | listQdiscs link clock => trivial
  | findQdisc link clock condition => trivial
  | listClasses link parent => trivial
  | resolveLink link => trivial

theorem provided_of_step (operation : Operation) (kernel after : Kernel)
    (allowed : operation.GivesHandle ∧ operation.AvoidsRoot) (step : operation.Step kernel after)
    (provided : kernel.Provided) : after.Provided where
  sound := sound_of_step operation kernel after allowed.1 step provided.sound
  rooted := by
    rw [step.links_eq]
    exact rooted_of_step (spares_of_avoidsRoot allowed.1 allowed.2 step) step provided.rooted
  untouched := step.untouched allowed.1 provided.untouched

end Operation

namespace Endpoint

variable {links : List Link} {operations : List Operation}

theorem provided_session (distinct : (links.map Link.index).Nodup)
    (handles : ∀ operation ∈ operations, operation.GivesHandle)
    (avoids : ∀ operation ∈ operations, operation.AvoidsRoot) :
    ((ofKernel (Kernel.ofLinks links)).session operations).kernel.Provided := by
  have start : (Kernel.ofLinks links).Provided := by
    refine ⟨Kernel.sound_ofLinks distinct, ?_, Kernel.untouched_ofLinks links⟩
    rw [Kernel.links_ofLinks]
    exact Kernel.rooted_ofLinks distinct
  exact holds_session Operation.provided_of_step operations _ start fun operation member =>
    ⟨handles operation member, avoids operation member⟩

end Endpoint

end TrafficShaping
