import TrafficShaping.Proofs.Kernel.Removal

/-!
Removal as a recursion.

The plain way to remove a qdisc is to take it away with its classes and then to do the same to each
qdisc that is now attached to one of these classes (`Kernel.Cascades`). The recursion walks over a
list of handles that it has taken from a table which it then changes, and nothing in its shape says
that it ends. It does, on all tables (`Kernel.exists_cascades`), and for a qdisc that is there it
leaves what the worklist of `Kernel.prune` leaves (`Kernel.cascades_iff`).
-/

namespace TrafficShaping.Kernel

variable {link : UInt32} {first handle : Handle} {pending : List Handle}
  {qdiscs classes : List Entry} {after : List Entry × List Entry}

/-- The handles of the qdiscs that are attached to a class of the major number of a handle. -/
def childHandles (link : UInt32) (handle : Handle) (qdiscs : List Entry) : List Handle :=
  (attachedBelow link handle.major qdiscs).map (·.place.handle)

/-- The recursion removes the qdiscs of some handles, one after the other, and ends with tables. -/
inductive Cascades (link : UInt32) : List Handle → List Entry → List Entry →
    List Entry × List Entry → Prop
  | nil {qdiscs classes : List Entry} : Cascades link [] qdiscs classes (qdiscs, classes)
  /-- Without a major number there is nothing below. -/
  | plain {handle : Handle} {pending : List Handle} {qdiscs classes : List Entry}
      {after : List Entry × List Entry} (plain : handle.major = 0)
      (rest : Cascades link pending (without link handle qdiscs) classes after) :
      Cascades link (handle :: pending) qdiscs classes after
  | owner {handle : Handle} {pending : List Handle} {qdiscs classes : List Entry}
      {between after : List Entry × List Entry} (owner : handle.major ≠ 0)
      (below : Cascades link (childHandles link handle (without link handle qdiscs))
        (without link handle qdiscs) (classes.filter (!·.isOwned link handle.major)) between)
      (rest : Cascades link pending between.1 between.2 after) :
      Cascades link (handle :: pending) qdiscs classes after

/-! ## The recursion ends -/

theorem without_of_absent (absent : ¬ qdiscs.any (·.isNamed link handle) = true) :
    without link handle qdiscs = qdiscs := by
  refine List.filter_eq_self.mpr fun qdisc member => Bool.not_eq_true' _ ▸ ?_
  exact Bool.eq_false_iff.mpr fun named => absent (List.any_eq_true.mpr ⟨qdisc, member, named⟩)

theorem Cascades.length_le (cascades : Cascades link pending qdiscs classes after) :
    after.1.length ≤ qdiscs.length := by
  induction cascades with
  | nil => exact Nat.le_refl _
  | plain _ _ ih => exact Nat.le_trans ih (List.length_filter_le _ _)
  | owner _ _ _ below rest =>
      exact Nat.le_trans rest (Nat.le_trans below (List.length_filter_le _ _))

/-- After a handle that is there, all that remains is done on a shorter table. -/
theorem exists_cascades_cons_of_present (present : qdiscs.any (·.isNamed link first) = true)
    (shorter : ∀ pending less classes, less.length < qdiscs.length →
      ∃ after, Cascades link pending less classes after) (pending : List Handle)
    (classes : List Entry) :
    ∃ after, Cascades link (first :: pending) qdiscs classes after ∧
      after.1.length < qdiscs.length := by
  have less := length_without_lt present
  by_cases plain : first.major = 0
  · obtain ⟨after, rest⟩ := shorter pending _ classes less
    exact ⟨after, .plain plain rest, Nat.lt_of_le_of_lt rest.length_le less⟩
  · obtain ⟨between, below⟩ := shorter (childHandles link first (without link first qdiscs)) _
      (classes.filter (!·.isOwned link first.major)) less
    have least := Nat.lt_of_le_of_lt below.length_le less
    obtain ⟨after, rest⟩ := shorter pending _ between.2 least
    exact ⟨after, .owner plain below rest, Nat.lt_of_le_of_lt rest.length_le least⟩

/-- A handle that is not there leaves the table as it is, unless a qdisc is below it, and the first
one below it is there. -/
theorem exists_cascades_of_shorter
    (shorter : ∀ pending less classes, less.length < qdiscs.length →
      ∃ after, Cascades link pending less classes after) (pending : List Handle) :
    ∀ classes, ∃ after, Cascades link pending qdiscs classes after := by
  induction pending with
  | nil => exact fun classes => ⟨_, .nil⟩
  | cons first pending ih =>
      intro classes
      by_cases present : qdiscs.any (·.isNamed link first) = true
      · obtain ⟨after, cascades, _⟩ :=
          exists_cascades_cons_of_present present shorter pending classes
        exact ⟨after, cascades⟩
      · have same := without_of_absent present
        by_cases plain : first.major = 0
        · obtain ⟨after, rest⟩ := ih classes
          exact ⟨after, .plain plain (same.symm ▸ rest)⟩
        · cases children : attachedBelow link first.major qdiscs with
          | nil =>
              have below : Cascades link (childHandles link first (without link first qdiscs))
                  (without link first qdiscs) (classes.filter (!·.isOwned link first.major))
                  (qdiscs, classes.filter (!·.isOwned link first.major)) := by
                rw [same, childHandles, children]
                exact .nil
              obtain ⟨after, rest⟩ := ih (classes.filter (!·.isOwned link first.major))
              exact ⟨after, .owner plain below rest⟩
          | cons child others =>
              have among : child ∈ attachedBelow link first.major qdiscs :=
                children ▸ List.mem_cons_self
              obtain ⟨member, onLink, _⟩ := mem_attachedBelow.mp among
              have there : qdiscs.any (·.isNamed link child.place.handle) = true :=
                List.any_eq_true.mpr ⟨child, member, isNamed_iff.mpr ⟨onLink, rfl⟩⟩
              obtain ⟨between, below, less⟩ := exists_cascades_cons_of_present there shorter
                (others.map (·.place.handle)) (classes.filter (!·.isOwned link first.major))
              obtain ⟨after, rest⟩ := shorter pending _ between.2 less
              refine ⟨after, .owner plain ?_ rest⟩
              rw [same, childHandles, children]
              exact below

/-- The recursion ends, whatever the tables. -/
theorem exists_cascades (link : UInt32) (pending : List Handle) (qdiscs classes : List Entry) :
    ∃ after, Cascades link pending qdiscs classes after := by
  induction length : qdiscs.length using Nat.strongRecOn generalizing pending qdiscs classes with
  | ind size ih =>
      refine exists_cascades_of_shorter (fun pending less classes short => ?_) pending classes
      exact ih less.length (length ▸ short) pending less classes rfl

/-! ## The worklist, step by step -/

theorem prune_nil (qdiscs classes : List Entry) :
    prune link [] qdiscs classes = (qdiscs, classes) := by
  rw [prune]

theorem prune_cons_of_absent (absent : ¬ qdiscs.any (·.isNamed link first) = true) :
    prune link (first :: pending) qdiscs classes = prune link pending qdiscs classes := by
  rw [prune, if_neg absent]

theorem prune_cons_of_plain (present : qdiscs.any (·.isNamed link first) = true)
    (plain : first.major = 0) :
    prune link (first :: pending) qdiscs classes =
      prune link pending (without link first qdiscs) classes := by
  rw [prune, if_pos present, if_pos plain]

theorem prune_cons_of_owner (present : qdiscs.any (·.isNamed link first) = true)
    (owner : first.major ≠ 0) :
    prune link (first :: pending) qdiscs classes =
      prune link (childHandles link first (without link first qdiscs) ++ pending)
        (without link first qdiscs) (classes.filter (!·.isOwned link first.major)) := by
  rw [prune, if_pos present, if_neg owner]
  rfl

/-- The worklist may be worked off in two parts. -/
theorem prune_append (front back : List Handle) (qdiscs classes : List Entry) :
    prune link (front ++ back) qdiscs classes =
      prune link back (prune link front qdiscs classes).1 (prune link front qdiscs classes).2 := by
  fun_induction prune link front qdiscs classes with
  | case1 qdiscs classes => rfl
  | case2 qdiscs classes first pending present others plain ih =>
      rw [List.cons_append, prune_cons_of_plain present plain]
      exact ih
  | case3 qdiscs classes first pending present others owner below ih =>
      simp only [List.unattach_filter, List.unattach_attach] at ih
      rw [List.cons_append, prune_cons_of_owner present owner, ← List.append_assoc]
      exact ih
  | case4 qdiscs classes first pending absent ih =>
      rw [List.cons_append, prune_cons_of_absent absent]
      exact ih

/-! ## Where the recursion ends -/

/-- Whether nothing is left of a handle: no qdisc has it, and nothing is below it. -/
structure Spent (link : UInt32) (qdiscs classes : List Entry) (handle : Handle) : Prop where
  absent : ¬ qdiscs.any (·.isNamed link handle) = true
  qdiscs : handle.major ≠ 0 → ∀ qdisc, qdisc ∉ attachedBelow link handle.major qdiscs
  classes : handle.major ≠ 0 → ∀ tclass ∈ classes, ¬ tclass.isOwned link handle.major = true

/-- Whether a handle that the recursion comes to is there, or has been dealt with. -/
def Ready (link : UInt32) (qdiscs classes : List Entry) (handle : Handle) : Prop :=
  qdiscs.any (·.isNamed link handle) = true ∨ Spent link qdiscs classes handle

/-- What the worklist has taken away has been dealt with. -/
theorem spent_of_mem {removed : List Handle} (member : handle ∈ removed)
    (closed : handle.major ≠ 0 → ∀ qdisc ∈ attachedBelow link handle.major qdiscs,
      qdisc.place.handle ∈ removed) :
    Spent link (qdiscs.filter (leavesQdisc link removed))
      (classes.filter (leavesClass link removed)) handle where
  absent := by
    intro present
    obtain ⟨qdisc, left, named⟩ := List.any_eq_true.mp present
    obtain ⟨onLink, rfl⟩ := isNamed_iff.mp named
    exact leavesQdisc_iff.mp (List.mem_filter.mp left).2 onLink member
  qdiscs := by
    intro owner qdisc below
    obtain ⟨left, onLink, attached⟩ := mem_attachedBelow.mp below
    obtain ⟨old, leaves⟩ := List.mem_filter.mp left
    exact leavesQdisc_iff.mp leaves onLink
      (closed owner qdisc (mem_attachedBelow.mpr ⟨old, onLink, attached⟩))
  classes := by
    intro owner tclass left owned
    obtain ⟨onLink, major⟩ := Bool.and_eq_true_iff.mp owned
    exact leavesClass_iff.mp (List.mem_filter.mp left).2 (beq_iff_eq.mp onLink) handle member owner
      (beq_iff_eq.mp major)

theorem Spent.filter (spent : Spent link qdiscs classes handle)
    (keepsQdisc keepsClass : Entry → Bool) :
    Spent link (qdiscs.filter keepsQdisc) (classes.filter keepsClass) handle where
  absent := by
    intro present
    obtain ⟨qdisc, left, named⟩ := List.any_eq_true.mp present
    exact spent.absent (List.any_eq_true.mpr ⟨qdisc, (List.mem_filter.mp left).1, named⟩)
  qdiscs := by
    intro owner qdisc below
    obtain ⟨left, attached⟩ := mem_attachedBelow.mp below
    exact spent.qdiscs owner qdisc (mem_attachedBelow.mpr ⟨(List.mem_filter.mp left).1, attached⟩)
  classes := fun owner tclass left => spent.classes owner tclass (List.mem_filter.mp left).1

/-- Whatever the worklist takes away, a handle is then there or has been dealt with. -/
theorem Ready.prune (ready : Ready link qdiscs classes handle) (pending : List Handle) :
    Ready link (prune link pending qdiscs classes).1 (prune link pending qdiscs classes).2
      handle := by
  obtain ⟨removed, exactly, same⟩ := exists_prune_eq link pending qdiscs classes
  rw [same]
  rcases ready with present | spent
  · by_cases member : handle ∈ removed
    · exact .inr (spent_of_mem member fun owner qdisc below =>
        (exactly _).mpr (.attached ((exactly _).mp member) owner below))
    · obtain ⟨qdisc, old, named⟩ := List.any_eq_true.mp present
      have leaves : leavesQdisc link removed qdisc = true :=
        leavesQdisc_iff.mpr fun _ gone => member ((isNamed_iff.mp named).2 ▸ gone)
      exact .inl (List.any_eq_true.mpr ⟨qdisc, List.mem_filter.mpr ⟨old, leaves⟩, named⟩)
  · exact .inr (spent.filter _ _)

/-- The recursion ends where the worklist does, if it starts with handles that are there. -/
theorem Cascades.eq_prune (cascades : Cascades link pending qdiscs classes after)
    (ready : ∀ handle ∈ pending, Ready link qdiscs classes handle) :
    after = prune link pending qdiscs classes := by
  induction cascades with
  | nil => exact (prune_nil _ _).symm
  | @plain first pending qdiscs classes after plain _ ih =>
      have step : prune link [first] qdiscs classes = (without link first qdiscs, classes) := by
        rcases ready first List.mem_cons_self with present | spent
        · rw [prune_cons_of_plain present plain, prune_nil]
        · rw [prune_cons_of_absent spent.absent, prune_nil, without_of_absent spent.absent]
      rw [← List.singleton_append, prune_append, step]
      refine ih fun handle member => ?_
      have later := (ready handle (List.mem_cons_of_mem _ member)).prune [first]
      rwa [step] at later
  | @owner first pending qdiscs classes between after owner below _ ihBelow ihRest =>
      have step : prune link [first] qdiscs classes = between := by
        rcases ready first List.mem_cons_self with present | spent
        · rw [prune_cons_of_owner present owner, List.append_nil]
          refine (ihBelow fun handle member => .inl ?_).symm
          obtain ⟨qdisc, among, rfl⟩ := List.mem_map.mp member
          obtain ⟨left, onLink, _⟩ := mem_attachedBelow.mp among
          exact List.any_eq_true.mpr ⟨qdisc, left, isNamed_iff.mpr ⟨onLink, rfl⟩⟩
        · rw [prune_cons_of_absent spent.absent, prune_nil]
          have children := List.eq_nil_iff_forall_not_mem.mpr (spent.qdiscs owner)
          have kept : classes.filter (!·.isOwned link first.major) = classes :=
            List.filter_eq_self.mpr fun tclass member => by
              simpa using spent.classes owner tclass member
          rw [without_of_absent spent.absent, childHandles, children, kept] at below
          cases below
          rfl
      rw [← List.singleton_append, prune_append, step]
      refine ihRest fun handle member => ?_
      have later := (ready handle (List.mem_cons_of_mem _ member)).prune [first]
      rwa [step] at later

/-- For a qdisc that is there, the recursion ends, and it does so where the worklist does. -/
theorem cascades_iff (present : qdiscs.any (·.isNamed link handle) = true) :
    Cascades link [handle] qdiscs classes after ↔ after = prune link [handle] qdiscs classes := by
  have ready : ∀ other ∈ [handle], Ready link qdiscs classes other := fun other member =>
    List.mem_singleton.mp member ▸ .inl present
  constructor
  · exact fun cascades => cascades.eq_prune ready
  · rintro rfl
    obtain ⟨after, cascades⟩ := exists_cascades link [handle] qdiscs classes
    exact cascades.eq_prune ready ▸ cascades

end TrafficShaping.Kernel
