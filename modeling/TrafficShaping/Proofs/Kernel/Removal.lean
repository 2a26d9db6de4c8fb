import TrafficShaping.Kernel.Qdiscs
import TrafficShaping.Proofs.Kernel.Tables

/-!
What is gone after a removal.

`Kernel.Below` is the least set of handles that contains those of the qdiscs to be removed and, with
a handle, those of the qdiscs that are attached to classes of its major number. The worklist of
`Kernel.prune` goes through exactly this set, in whatever state the tables are: what is left of
either table is the old one, in its order, without what belongs to a handle of the set
(`Kernel.exists_remove_eq`).
-/

namespace TrafficShaping.Kernel

variable {link : UInt32} {qdiscs classes : List Entry} {pending : List Handle}

/-- The handles of the qdiscs of a link that are removed with the pending ones. -/
inductive Below (link : UInt32) (qdiscs : List Entry) (pending : List Handle) : Handle → Prop
  | pending {qdisc : Entry} (member : qdisc ∈ qdiscs) (onLink : qdisc.place.link = link)
      (among : qdisc.place.handle ∈ pending) : Below link qdiscs pending qdisc.place.handle
  | attached {handle : Handle} {qdisc : Entry} (above : Below link qdiscs pending handle)
      (owner : handle.major ≠ 0) (member : qdisc ∈ attachedBelow link handle.major qdiscs) :
      Below link qdiscs pending qdisc.place.handle

/-- Whether a qdisc is left when those of some handles on a link are removed. -/
def leavesQdisc (link : UInt32) (removed : List Handle) (qdisc : Entry) : Bool :=
  !(qdisc.place.link == link && removed.contains qdisc.place.handle)

/-- Whether a class is left when the qdiscs of some handles on a link are removed. -/
def leavesClass (link : UInt32) (removed : List Handle) (tclass : Entry) : Bool :=
  !removed.any fun handle => handle.major != 0 && tclass.isOwned link handle.major

theorem mem_attachedBelow {major : UInt16} {qdisc : Entry} :
    qdisc ∈ attachedBelow link major qdiscs ↔
      qdisc ∈ qdiscs ∧ qdisc.place.link = link ∧ qdisc.place.parent.namesClass = true ∧
        qdisc.place.parent.major = major := by
  simp only [attachedBelow, List.mem_filter, Bool.and_eq_true, beq_iff_eq, and_assoc]

theorem mem_without {handle : Handle} {entry : Entry} {entries : List Entry} :
    entry ∈ without link handle entries ↔
      entry ∈ entries ∧ ¬ (entry.place.link = link ∧ entry.place.handle = handle) := by
  simp only [without, List.mem_filter, ← isNamed_iff, Bool.not_eq_true', Bool.not_eq_true]

theorem leavesQdisc_iff {removed : List Handle} {qdisc : Entry} :
    leavesQdisc link removed qdisc = true ↔
      (qdisc.place.link = link → qdisc.place.handle ∉ removed) := by
  simp only [leavesQdisc, Bool.not_eq_true', Bool.and_eq_false_iff, beq_eq_false_iff_ne,
    List.contains_eq_mem, decide_eq_false_iff_not, Decidable.imp_iff_not_or, ne_eq]

theorem leavesClass_iff {removed : List Handle} {tclass : Entry} :
    leavesClass link removed tclass = true ↔
      (tclass.place.link = link → ∀ handle ∈ removed, handle.major ≠ 0 →
        tclass.place.handle.major ≠ handle.major) := by
  simp only [leavesClass, Bool.not_eq_true', List.any_eq_false, Bool.and_eq_true, bne_iff_ne, ne_eq,
    Entry.isOwned, beq_iff_eq, not_and]
  exact ⟨fun h onLink handle member owner => h handle member owner onLink,
    fun h handle member owner onLink => h onLink handle member owner⟩

/-! ## One step of the worklist -/

theorem not_below_nil (handle : Handle) : ¬ Below link qdiscs [] handle := by
  intro below
  induction below with
  | pending _ _ among => cases among
  | attached _ _ _ ih => exact ih

theorem Below.exists_mem {handle : Handle} (below : Below link qdiscs pending handle) :
    ∃ qdisc ∈ qdiscs, qdisc.place.link = link ∧ qdisc.place.handle = handle := by
  cases below with
  | @pending qdisc member onLink => exact ⟨qdisc, member, onLink, rfl⟩
  | @attached _ qdisc _ _ member =>
      obtain ⟨among, onLink, _⟩ := mem_attachedBelow.mp member
      exact ⟨qdisc, among, onLink, rfl⟩

/-- A handle that no qdisc has adds nothing. -/
theorem below_cons_of_absent {first : Handle}
    (absent : ¬ qdiscs.any (·.isNamed link first) = true) (handle : Handle) :
    Below link qdiscs (first :: pending) handle ↔ Below link qdiscs pending handle := by
  constructor
  · intro below
    induction below with
    | @pending qdisc member onLink among =>
        rcases List.mem_cons.mp among with same | later
        · exact absurd (List.any_eq_true.mpr ⟨qdisc, member, isNamed_iff.mpr ⟨onLink, same⟩⟩) absent
        · exact .pending member onLink later
    | attached _ owner member ih => exact .attached ih owner member
  · intro below
    induction below with
    | pending member onLink among => exact .pending member onLink (List.mem_cons_of_mem _ among)
    | attached _ owner member ih => exact .attached ih owner member

/-- When the first qdisc is taken away, the qdiscs attached to its classes become pending. -/
theorem below_cons_of_present {first : Handle} {children : List Handle}
    (present : qdiscs.any (·.isNamed link first) = true)
    (attached : ∀ handle, handle ∈ children ↔ first.major ≠ 0 ∧
      ∃ qdisc ∈ attachedBelow link first.major (without link first qdiscs),
        qdisc.place.handle = handle) (handle : Handle) :
    Below link qdiscs (first :: pending) handle ↔
      handle = first ∨ Below link (without link first qdiscs) (children ++ pending) handle := by
  constructor
  · intro below
    induction below with
    | @pending qdisc member onLink among =>
        by_cases same : qdisc.place.handle = first
        · exact .inl same
        · have left : qdisc ∈ without link first qdiscs :=
            mem_without.mpr ⟨member, fun named => same named.2⟩
          have later := (List.mem_cons.mp among).resolve_left same
          exact .inr (.pending left onLink (List.mem_append_right _ later))
    | @attached above qdisc _ owner member ih =>
        by_cases same : qdisc.place.handle = first
        · exact .inl same
        · obtain ⟨among, onLink, namesClass, major⟩ := mem_attachedBelow.mp member
          have left : qdisc ∈ without link first qdiscs :=
            mem_without.mpr ⟨among, fun named => same named.2⟩
          have below := mem_attachedBelow.mpr ⟨left, onLink, namesClass, major⟩
          rcases ih with rfl | later
          · have child := (attached _).mpr ⟨owner, qdisc, below, rfl⟩
            exact .inr (.pending left onLink (List.mem_append_left _ child))
          · exact .inr (.attached later owner below)
  · have top : Below link qdiscs (first :: pending) first := by
      obtain ⟨qdisc, member, named⟩ := List.any_eq_true.mp present
      obtain ⟨onLink, rfl⟩ := isNamed_iff.mp named
      exact .pending member onLink List.mem_cons_self
    have widen : ∀ {major qdisc}, qdisc ∈ attachedBelow link major (without link first qdiscs) →
        qdisc ∈ attachedBelow link major qdiscs := by
      intro major qdisc member
      obtain ⟨left, rest⟩ := mem_attachedBelow.mp member
      exact mem_attachedBelow.mpr ⟨(mem_without.mp left).1, rest⟩
    rintro (rfl | below)
    · exact top
    · induction below with
      | @pending qdisc member onLink among =>
          rcases List.mem_append.mp among with child | later
          · obtain ⟨owner, other, below, same⟩ := (attached _).mp child
            rw [← same]
            exact .attached top owner (widen below)
          · exact .pending (mem_without.mp member).1 onLink (List.mem_cons_of_mem _ later)
      | attached _ owner member ih => exact .attached ih owner (widen member)

theorem filter_leavesQdisc_cons (first : Handle) (removed : List Handle) :
    (without link first qdiscs).filter (leavesQdisc link removed) =
      qdiscs.filter (leavesQdisc link (first :: removed)) := by
  rw [without, List.filter_filter]
  refine List.filter_congr fun qdisc _ => ?_
  rw [Bool.eq_iff_iff, Bool.and_eq_true, leavesQdisc_iff, leavesQdisc_iff, Bool.not_eq_true',
    ← Bool.not_eq_true, isNamed_iff, List.mem_cons, not_or]
  constructor
  · rintro ⟨kept, other⟩ onLink
    exact ⟨fun same => other ⟨onLink, same⟩, kept onLink⟩
  · intro kept
    exact ⟨fun onLink => (kept onLink).2, fun named => (kept named.1).1 named.2⟩

theorem filter_leavesClass_cons {first : Handle} (owner : first.major ≠ 0)
    (removed : List Handle) :
    (classes.filter (!·.isOwned link first.major)).filter (leavesClass link removed) =
      classes.filter (leavesClass link (first :: removed)) := by
  rw [List.filter_filter]
  refine List.filter_congr fun tclass _ => ?_
  have owns : (first.major != 0) = true := bne_iff_ne.mpr owner
  simp only [leavesClass, List.any_cons, owns, Bool.true_and, Bool.not_or]
  exact Bool.and_comm _ _

theorem leavesClass_cons_of_plain {first : Handle} (plain : first.major = 0)
    (removed : List Handle) : leavesClass link (first :: removed) = leavesClass link removed := by
  funext tclass
  simp only [leavesClass, List.any_cons, plain, bne_self_eq_false, Bool.false_and, Bool.false_or]

/-! ## The whole worklist -/

/-- The worklist removes exactly what is below the pending handles. -/
theorem exists_prune_eq (link : UInt32) (pending : List Handle) (qdiscs classes : List Entry) :
    ∃ removed, (∀ handle, handle ∈ removed ↔ Below link qdiscs pending handle) ∧
      prune link pending qdiscs classes =
        (qdiscs.filter (leavesQdisc link removed), classes.filter (leavesClass link removed)) := by
  fun_induction prune link pending qdiscs classes with
  | case1 qdiscs classes =>
      refine ⟨[], fun handle => ?_, ?_⟩
      · exact ⟨fun member => (nomatch member), fun below => absurd below (not_below_nil handle)⟩
      · have all : ∀ entries : List Entry, entries.filter (fun _ => true) = entries := fun entries =>
          List.filter_eq_self.mpr fun _ _ => rfl
        have qdiscsLeft : leavesQdisc link [] = fun _ => true := by
          funext qdisc
          rw [leavesQdisc, List.contains_nil, Bool.and_false]
          rfl
        rw [qdiscsLeft, all]
        exact congrArg _ (all classes).symm
  | case2 qdiscs classes first pending present others plain ih =>
      obtain ⟨removed, exactly, same⟩ := ih
      refine ⟨first :: removed, fun handle => ?_, ?_⟩
      · have step := @below_cons_of_present link qdiscs pending first [] present (fun _ =>
          ⟨fun member => (nomatch member), fun ⟨owner, _⟩ => absurd plain owner⟩) handle
        rw [List.mem_cons, exactly, step]
        rfl
      · rw [same, filter_leavesQdisc_cons, leavesClass_cons_of_plain plain]
  | case3 qdiscs classes first pending present others owner below ih =>
      obtain ⟨removed, exactly, same⟩ := ih
      refine ⟨first :: removed, fun handle => ?_, ?_⟩
      · have step := @below_cons_of_present link qdiscs pending first below present
          (fun _ => by
            rw [List.mem_map]
            exact ⟨fun child => ⟨owner, child⟩, fun child => child.2⟩) handle
        rw [List.mem_cons, exactly, step]
      · simp only [List.unattach_filter, List.unattach_attach] at same
        rw [same, filter_leavesQdisc_cons, filter_leavesClass_cons owner]
  | case4 qdiscs classes first pending absent ih =>
      obtain ⟨removed, exactly, same⟩ := ih
      refine ⟨removed, fun handle => ?_, same⟩
      rw [exactly, below_cons_of_absent absent]

/-- A kernel after a removal: all that is below the handles is gone, and all else is as before. -/
theorem exists_remove_eq (kernel : Kernel) (link : UInt32) (handles : List Handle) :
    ∃ removed, (∀ handle, handle ∈ removed ↔ Below link kernel.qdiscs handles handle) ∧
      kernel.remove link handles =
        { kernel with
          qdiscs := kernel.qdiscs.filter (leavesQdisc link removed)
          classes := kernel.classes.filter (leavesClass link removed) } := by
  obtain ⟨removed, exactly, same⟩ := exists_prune_eq link handles kernel.qdiscs kernel.classes
  refine ⟨removed, exactly, ?_⟩
  unfold remove
  rw [same]

theorem mem_qdiscs_remove {kernel : Kernel} {qdisc : Entry} :
    qdisc ∈ (kernel.remove link pending).qdiscs ↔
      qdisc ∈ kernel.qdiscs ∧
        (qdisc.place.link = link → ¬ Below link kernel.qdiscs pending qdisc.place.handle) := by
  obtain ⟨removed, exactly, same⟩ := exists_remove_eq kernel link pending
  rw [same, List.mem_filter, leavesQdisc_iff, exactly]

/-- No qdisc of the link with one of the handles is left. -/
theorem handle_notMem_of_mem_remove {kernel : Kernel} {qdisc : Entry}
    (left : qdisc ∈ (kernel.remove link pending).qdiscs) (onLink : qdisc.place.link = link) :
    qdisc.place.handle ∉ pending := fun among =>
  (mem_qdiscs_remove.mp left).2 onLink (.pending (mem_qdiscs_remove.mp left).1 onLink among)

end TrafficShaping.Kernel
