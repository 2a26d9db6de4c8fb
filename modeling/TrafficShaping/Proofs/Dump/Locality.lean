import TrafficShaping.Proofs.Dump
import TrafficShaping.Proofs.Kernel.Locality

/-!
What a dump tells of one link.

The classes of a link are asked for and reported without the others (`Kernel.dumpClasses_onLink`).
Qdiscs are reported all together, sorted by link. Sorting is stable, so the reports on one link come
in an order that does not depend on what there is on the other links (`Kernel.dumpQdiscs_onLink`).
-/

namespace TrafficShaping

/-! ## Stable sorting -/

section Sorting

variable {α : Type} {before : α → α → Bool} {condition : α → Bool}

theorem takeWhile_append_of_neg {front back : List α}
    (frontHolds : ∀ value ∈ front, condition value = true)
    (backFails : ∀ value ∈ back, ¬ condition value = true) :
    (front ++ back).takeWhile condition = front := by
  rw [List.takeWhile_append_of_pos frontHolds]
  cases back with
  | nil => exact List.append_nil _
  | cons first rest =>
      rw [List.takeWhile_cons_of_neg (backFails first List.mem_cons_self), List.append_nil]

/-- Values that come after one value in a sorted list may not come before it. -/
theorem before_of_pairwise {value : α} {front back : List α}
    (sorted : (front ++ value :: back).Pairwise fun a b => before a b = true) :
    ∀ later ∈ back, before value later = true :=
  (List.pairwise_cons.mp (List.pairwise_append.mp sorted).2.1).1

/-- Sorting leaves the order among the values that are kept to themselves. -/
theorem filter_mergeSort (trans : ∀ a b c, before a b = true → before b c = true → before a c = true)
    (total : ∀ a b, (before a b || before b a) = true) (keeps : α → Bool) (values : List α) :
    (values.mergeSort before).filter keeps = (values.filter keeps).mergeSort before := by
  induction values with
  | nil => rw [List.mergeSort_nil, List.filter_nil, List.mergeSort_nil]
  | cons value values ih =>
      obtain ⟨front, back, whole, others, earlier⟩ := List.mergeSort_cons trans total value values
      by_cases kept : keeps value = true
      · obtain ⟨frontKept, backKept, wholeKept, othersKept, earlierKept⟩ :=
          List.mergeSort_cons trans total value (values.filter keeps)
        have later := before_of_pairwise (whole ▸ List.pairwise_mergeSort trans total (value :: values))
        have laterKept := before_of_pairwise
          (wholeKept ▸ List.pairwise_mergeSort trans total (value :: values.filter keeps))
        have same : front.filter keeps ++ back.filter keeps = frontKept ++ backKept := by
          rw [← List.filter_append, ← others, ih, othersKept]
        -- Both cuts are where the values stop that must come before the new one.
        have cut := @takeWhile_append_of_neg α (fun other => !before value other)
          (front.filter keeps) (back.filter keeps)
          (fun other among => earlier other (List.mem_filter.mp among).1)
          (fun other among => by simp [later other (List.mem_filter.mp among).1])
        have cutKept := @takeWhile_append_of_neg α (fun other => !before value other)
          frontKept backKept earlierKept (fun other among => by simp [laterKept other among])
        have fronts : front.filter keeps = frontKept := by
          rw [← cut, same, cutKept]
        rw [fronts] at same
        rw [whole, List.filter_append, List.filter_cons_of_pos kept, List.filter_cons_of_pos kept,
          wholeKept, fronts, List.append_cancel_left same]
      · rw [List.filter_cons_of_neg kept, ← ih, whole, others, List.filter_append,
          List.filter_append, List.filter_cons_of_neg kept]

/-- Whether two values may stand on either side of each other. -/
def ties (before : α → α → Bool) (value other : α) : Bool :=
  before value other && before other value

/-- Sorted lists are the same when they have the same values, in the same order, among those that may
stand on either side of each other. -/
theorem eq_of_ties (total : ∀ a b, (before a b || before b a) = true) {first second : List α}
    (sorted : first.Pairwise fun a b => before a b = true)
    (otherSorted : second.Pairwise fun a b => before a b = true)
    (agree : ∀ value, first.filter (ties before value) = second.filter (ties before value)) :
    first = second := by
  have self : ∀ value, ties before value value = true := fun value => by
    simpa [ties] using total value value
  have among : ∀ {value : α} {values others : List α},
      (value :: values).filter (ties before value) = others.filter (ties before value) →
      value ∈ others := by
    intro value values others same
    rw [List.filter_cons_of_pos (self value)] at same
    exact (List.mem_filter.mp (same ▸ List.mem_cons_self)).1
  induction first generalizing second with
  | nil =>
      cases second with
      | nil => rfl
      | cons head tail => exact absurd (among (agree head).symm) List.not_mem_nil
  | cons value values ih =>
      cases second with
      | nil => exact absurd (among (agree value)) List.not_mem_nil
      | cons head tail =>
          obtain ⟨later, rest⟩ := List.pairwise_cons.mp sorted
          obtain ⟨otherLater, otherRest⟩ := List.pairwise_cons.mp otherSorted
          -- Each list has the head of the other, so the heads may stand on either side.
          have tied : ties before value head = true := by
            rcases List.mem_cons.mp (among (agree value)) with rfl | behind
            · exact self _
            rcases List.mem_cons.mp (among (agree head).symm) with rfl | ahead
            · exact self _
            · exact Bool.and_eq_true_iff.mpr ⟨later head ahead, otherLater value behind⟩
          have heads := agree value
          rw [List.filter_cons_of_pos (self value), List.filter_cons_of_pos tied] at heads
          obtain ⟨rfl, _⟩ := List.cons.inj heads
          refine congrArg (value :: ·) (ih rest otherRest fun other => ?_)
          have same := agree other
          rw [List.filter_cons, List.filter_cons] at same
          split at same
          · exact (List.cons.inj same).2
          · exact same

end Sorting

namespace Kernel

theorem dumpsBefore_iff {a b : Entry} :
    dumpsBefore a b = true ↔ a.place.link.toNat < b.place.link.toNat ∨
      (a.place.link.toNat = b.place.link.toNat ∧ dumpRank a ≤ dumpRank b) := by
  rw [dumpsBefore, Bool.or_eq_true, Bool.and_eq_true, decide_eq_true_eq, decide_eq_true_eq,
    beq_iff_eq, UInt32.lt_iff_toNat_lt, UInt32.toNat_inj]

theorem dumpsBefore_trans (a b c : Entry) (first : dumpsBefore a b = true)
    (second : dumpsBefore b c = true) : dumpsBefore a c = true := by
  rw [dumpsBefore_iff] at first second ⊢
  omega

theorem dumpsBefore_total (a b : Entry) : (dumpsBefore a b || dumpsBefore b a) = true := by
  rw [Bool.or_eq_true, dumpsBefore_iff, dumpsBefore_iff]
  omega

/-- Whether a qdisc is of a link and of a rank in the dump. -/
def isRanked (link : UInt32) (rank : Nat) (qdisc : Entry) : Bool :=
  qdisc.place.link == link && dumpRank qdisc == rank

theorem isRanked_iff {link : UInt32} {rank : Nat} {qdisc : Entry} :
    isRanked link rank qdisc = true ↔ qdisc.place.link = link ∧ dumpRank qdisc = rank := by
  rw [isRanked, Bool.and_eq_true, beq_iff_eq, beq_iff_eq]

theorem ties_dumpsBefore (qdisc : Entry) :
    ties dumpsBefore qdisc = isRanked qdisc.place.link (dumpRank qdisc) := by
  funext other
  rw [ties, Bool.eq_iff_iff, Bool.and_eq_true, isRanked_iff, dumpsBefore_iff, dumpsBefore_iff,
    ← UInt32.toNat_inj]
  omega

/-- The reports on the qdiscs do not depend on how those of different links or of different ranks
stand to each other in the table. -/
theorem dumpQdiscs_congr {kernel other : Kernel} (agree : ∀ link rank,
    kernel.qdiscs.filter (isRanked link rank) = other.qdiscs.filter (isRanked link rank)) :
    kernel.dumpQdiscs = other.dumpQdiscs := by
  unfold dumpQdiscs
  refine congrArg (List.map _) (eq_of_ties dumpsBefore_total ?_ ?_ fun value => ?_)
  · exact List.pairwise_mergeSort dumpsBefore_trans dumpsBefore_total _
  · exact List.pairwise_mergeSort dumpsBefore_trans dumpsBefore_total _
  · rw [filter_mergeSort dumpsBefore_trans dumpsBefore_total,
      filter_mergeSort dumpsBefore_trans dumpsBefore_total, ties_dumpsBefore, agree]

/-! ## Reports on a link -/

/-- The link that a report on a qdisc or a class is about. -/
def reportedLink (report : Report) : Option UInt32 :=
  (Record.read TrafficRecord report.2).toOption.map (·.place.link)

theorem reportedLink_report (type : UInt16) (entry : Entry) (parent : Handle) (info : UInt32) :
    reportedLink (type, entry.report parent info) = some entry.place.link := by
  unfold reportedLink Entry.report
  rw [TrafficRecord.lawful_layout.read_toBytes_append]
  exact congrArg (some ·.link) (TrafficRecord.place_ofPlace _ info)

/-- The reports on the qdiscs of a link are those that there would be if it was the only one. -/
theorem dumpQdiscs_onLink (kernel : Kernel) (link : UInt32) :
    (kernel.onLink link).dumpQdiscs =
      kernel.dumpQdiscs.filter (reportedLink · == some link) := by
  unfold dumpQdiscs
  rw [List.filter_map]
  have about : ((reportedLink · == some link) ∘ fun qdisc : Entry =>
      (MessageType.newQdisc,
        qdisc.report qdisc.place.parent (if qdisc.place.parent.isRoot then 2 else 1))) =
      (·.isOn link) := by
    funext qdisc
    rw [Function.comp_apply, reportedLink_report]
    rfl
  rw [about, filter_mergeSort dumpsBefore_trans dumpsBefore_total]
  rfl

theorem concerns_reportsClass (link : UInt32) (parent : Handle) :
    Concerns link (reportsClass link parent) := fun _ reported =>
  beq_iff_eq.mp (Bool.and_eq_true_iff.mp reported).1

theorem dumpClasses_onLink (kernel : Kernel) (link : UInt32) (parent : Handle) :
    (kernel.onLink link).dumpClasses link parent = kernel.dumpClasses link parent := by
  have leaf : shownLeaf (kernel.onLink link) link = shownLeaf kernel link := by
    funext tclass
    rw [shownLeaf, shownLeaf, child?_onLink]
  have selected : (kernel.onLink link).classes.filter (reportsClass link parent) =
      kernel.classes.filter (reportsClass link parent) :=
    (concerns_reportsClass link parent).filter_filter kernel.classes
  rw [dumpClasses_eq, dumpClasses_eq, leaf, selected]

end Kernel

end TrafficShaping
