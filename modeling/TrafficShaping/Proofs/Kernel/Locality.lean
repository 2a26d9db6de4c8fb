import Mathlib.Data.List.Basic
import TrafficShaping.Kernel.Classes
import TrafficShaping.Proofs.Kernel.Removal

/-!
A handler keeps to the link that its request names.

The qdiscs of all links are in one table, and so are the classes. `Kernel.onLink` leaves of either
only what is on one link. A handler is `Handler.Confined` to a link when it goes by that part of the
tables alone, does to it what it would do if there was nothing else, and leaves the entries of every
other link as they are and in their order. The property passes from the steps of a handler to the
whole. A removal has it although it works its way through the whole table, because the qdiscs below
a qdisc are on its link.
-/

namespace TrafficShaping

/-- Whether an entry is on a link. -/
def Entry.isOn (link : UInt32) (entry : Entry) : Bool := entry.place.link == link

/-! ## Tables -/

section Tables

variable {link other : UInt32} {condition : Entry → Bool}

theorem Entry.isOn_iff {entry : Entry} : entry.isOn link = true ↔ entry.place.link = link :=
  beq_iff_eq

theorem Entry.isOn_of_ne {entry : Entry} (onLink : entry.place.link = link) (apart : other ≠ link) :
    entry.isOn other = false :=
  beq_eq_false_iff_ne.mpr fun same => apart (same.symm.trans onLink)

/-- A condition that holds on one link only. -/
def Concerns (link : UInt32) (condition : Entry → Bool) : Prop :=
  ∀ entry, condition entry = true → entry.place.link = link

theorem concerns_isNamed (link : UInt32) (handle : Handle) :
    Concerns link (·.isNamed link handle) := fun _ named => (Kernel.isNamed_iff.mp named).1

theorem concerns_isAttached (link : UInt32) (parent : Handle) :
    Concerns link (·.isAttached link parent) := fun _ attached =>
  (Kernel.isAttached_iff.mp attached).1

namespace Concerns

theorem and_eq (concerns : Concerns link condition) :
    (fun entry : Entry => entry.isOn link && condition entry) = condition := by
  funext entry
  cases holds : condition entry with
  | false => exact Bool.and_false _
  | true => rw [Entry.isOn_iff.mpr (concerns entry holds), Bool.and_true]

theorem find?_filter (concerns : Concerns link condition) (entries : List Entry) :
    (entries.filter (·.isOn link)).find? condition = entries.find? condition := by
  conv => rhs; rw [← concerns.and_eq]
  rw [List.find?_filter]
  congr 1
  funext entry
  rw [Bool.decide_and, Bool.decide_eq_true, Bool.decide_eq_true]

theorem any_filter (concerns : Concerns link condition) (entries : List Entry) :
    (entries.filter (·.isOn link)).any condition = entries.any condition := by
  rw [List.any_filter, concerns.and_eq]

theorem filter_filter (concerns : Concerns link condition) (entries : List Entry) :
    (entries.filter (·.isOn link)).filter condition = entries.filter condition := by
  rw [List.filter_comm, List.filter_filter, concerns.and_eq]

/-- The first entry of a kind on a link is the first of that kind in the part on the link. -/
theorem filter_eraseP (concerns : Concerns link condition) (entries : List Entry) :
    (entries.eraseP condition).filter (·.isOn link) =
      (entries.filter (·.isOn link)).eraseP condition := by
  induction entries with
  | nil => rfl
  | cons first rest ih =>
      cases holds : condition first with
      | true =>
          rw [List.eraseP_cons_of_pos holds,
            List.filter_cons_of_pos (Entry.isOn_iff.mpr (concerns first holds)),
            List.eraseP_cons_of_pos holds]
      | false =>
          have kept : ¬ condition first = true := Bool.eq_false_iff.mp holds
          rw [List.eraseP_cons_of_neg kept]
          by_cases onLink : first.isOn link = true
          · rw [List.filter_cons_of_pos onLink, List.filter_cons_of_pos onLink,
              List.eraseP_cons_of_neg kept, ih]
          · rw [List.filter_cons_of_neg onLink, List.filter_cons_of_neg onLink, ih]

theorem filter_eraseP_of_ne (concerns : Concerns link condition) (apart : other ≠ link)
    (entries : List Entry) :
    (entries.eraseP condition).filter (·.isOn other) = entries.filter (·.isOn other) := by
  induction entries with
  | nil => rfl
  | cons first rest ih =>
      cases holds : condition first with
      | true =>
          have elsewhere := Entry.isOn_of_ne (concerns first holds) apart
          rw [List.eraseP_cons_of_pos holds, List.filter_cons_of_neg (Bool.eq_false_iff.mp elsewhere)]
      | false =>
          rw [List.eraseP_cons_of_neg (Bool.eq_false_iff.mp holds), List.filter_cons,
            List.filter_cons, ih]

/-- Options are given to the same entry whether the other links are there or not. -/
theorem filter_setOptions (concerns : Concerns link condition) (options : Option Bytes)
    (entries : List Entry) :
    (Entry.setOptions condition options entries).filter (·.isOn link) =
      Entry.setOptions condition options (entries.filter (·.isOn link)) := by
  cases options with
  | none => rfl
  | some data =>
      unfold Entry.setOptions
      dsimp only
      induction entries with
      | nil => rfl
      | cons first rest ih =>
          cases holds : condition first with
          | true =>
              have onLink := Entry.isOn_iff.mpr (concerns first holds)
              rw [List.findIdx_cons, holds, List.filter_cons_of_pos onLink, List.findIdx_cons, holds]
              exact List.filter_cons_of_pos onLink
          | false =>
              rw [List.findIdx_cons, holds, cond_false, List.modify_succ_cons]
              by_cases onLink : first.isOn link = true
              · rw [List.filter_cons_of_pos onLink, List.filter_cons_of_pos onLink,
                  List.findIdx_cons, holds, cond_false, List.modify_succ_cons, ih]
              · rw [List.filter_cons_of_neg onLink, List.filter_cons_of_neg onLink, ih]

theorem filter_setOptions_of_ne (concerns : Concerns link condition) (apart : other ≠ link)
    (options : Option Bytes) (entries : List Entry) :
    (Entry.setOptions condition options entries).filter (·.isOn other) =
      entries.filter (·.isOn other) := by
  cases options with
  | none => rfl
  | some data =>
      unfold Entry.setOptions
      dsimp only
      induction entries with
      | nil => rfl
      | cons first rest ih =>
          cases holds : condition first with
          | true =>
              have elsewhere := Bool.eq_false_iff.mp (Entry.isOn_of_ne (concerns first holds) apart)
              rw [List.findIdx_cons, holds, List.filter_cons_of_neg elsewhere]
              exact List.filter_cons_of_neg elsewhere
          | false =>
              rw [List.findIdx_cons, holds, cond_false, List.modify_succ_cons, List.filter_cons,
                List.filter_cons, ih]

end Concerns

end Tables

namespace Kernel

/-- The kernel without what is on other links. -/
def onLink (kernel : Kernel) (link : UInt32) : Kernel :=
  { kernel with
    qdiscs := kernel.qdiscs.filter (·.isOn link)
    classes := kernel.classes.filter (·.isOn link) }

/-! ## What is looked up -/

section Lookups

variable (kernel : Kernel) (link : UInt32)

@[simp] theorem qdisc?_onLink (handle : Handle) :
    (kernel.onLink link).qdisc? link handle = kernel.qdisc? link handle :=
  (concerns_isNamed link handle).find?_filter kernel.qdiscs

@[simp] theorem class?_onLink (handle : Handle) :
    (kernel.onLink link).class? link handle = kernel.class? link handle :=
  (concerns_isNamed link handle).find?_filter kernel.classes

@[simp] theorem child?_onLink (parent : Handle) :
    (kernel.onLink link).child? link parent = kernel.child? link parent :=
  (concerns_isAttached link parent).find?_filter kernel.qdiscs

@[simp] theorem attachedHandles_onLink (parent : Handle) :
    (kernel.onLink link).attachedHandles link parent = kernel.attachedHandles link parent :=
  congrArg (List.map _) ((concerns_isAttached link parent).filter_filter kernel.qdiscs)

theorem requireLink_onLink : (kernel.onLink link).requireLink link = kernel.requireLink link := rfl

theorem qdiscAt_onLink (parent : Handle) :
    (kernel.onLink link).qdiscAt link parent = kernel.qdiscAt link parent := by
  unfold qdiscAt
  rw [child?_onLink, qdisc?_onLink, class?_onLink]

theorem plan_onLink (flags : UInt16) (place : Placement) (kind : String)
    (present : Option Entry) :
    (kernel.onLink place.link).plan flags place kind present =
      kernel.plan flags place kind present := by
  unfold plan
  dsimp only
  rw [qdisc?_onLink]

theorem classTarget_onLink (place : Placement) :
    (kernel.onLink place.link).classTarget place = kernel.classTarget place := by
  unfold classTarget ownerHandle rootHandle
  rw [child?_onLink, requireLink_onLink]
  congr 1
  funext _
  congr 1
  funext owner
  rw [qdisc?_onLink]

theorem requireChildless_onLink (handle : Handle) :
    (kernel.onLink link).requireChildless link handle = kernel.requireChildless link handle := by
  have children : (kernel.onLink link).classes.any (·.isAttached link handle) =
      kernel.classes.any (·.isAttached link handle) :=
    (concerns_isAttached link handle).any_filter kernel.classes
  unfold requireChildless
  rw [class?_onLink, children]

end Lookups

/-! ## What is written -/

section Writes

variable {link other : UInt32} {kernel : Kernel}

/-! ### Removal -/

theorem below_filter_isOn {pending : List Handle} {qdiscs : List Entry} {handle : Handle} :
    Below link (qdiscs.filter (·.isOn link)) pending handle ↔ Below link qdiscs pending handle := by
  constructor
  · intro below
    induction below with
    | pending member onLink among => exact .pending (List.mem_filter.mp member).1 onLink among
    | attached _ owner member ih =>
        obtain ⟨left, attached⟩ := mem_attachedBelow.mp member
        exact .attached ih owner (mem_attachedBelow.mpr ⟨(List.mem_filter.mp left).1, attached⟩)
  · intro below
    induction below with
    | pending member onLink among =>
        exact .pending (List.mem_filter.mpr ⟨member, Entry.isOn_iff.mpr onLink⟩) onLink among
    | attached _ owner member ih =>
        obtain ⟨present, onLink, attached⟩ := mem_attachedBelow.mp member
        have left := List.mem_filter.mpr ⟨present, Entry.isOn_iff.mpr onLink⟩
        exact .attached ih owner (mem_attachedBelow.mpr ⟨left, onLink, attached⟩)

theorem leavesQdisc_congr {first second : List Handle}
    (same : ∀ handle, handle ∈ first ↔ handle ∈ second) :
    leavesQdisc link first = leavesQdisc link second := by
  funext qdisc
  rw [Bool.eq_iff_iff, leavesQdisc_iff, leavesQdisc_iff, same]

theorem leavesClass_congr {first second : List Handle}
    (same : ∀ handle, handle ∈ first ↔ handle ∈ second) :
    leavesClass link first = leavesClass link second := by
  funext tclass
  rw [Bool.eq_iff_iff, leavesClass_iff, leavesClass_iff]
  simp only [same]

theorem remove_onLink (kernel : Kernel) (link : UInt32) (handles : List Handle) :
    (kernel.remove link handles).onLink link = (kernel.onLink link).remove link handles := by
  obtain ⟨removed, exactly, whole⟩ := exists_remove_eq kernel link handles
  obtain ⟨gone, precisely, part⟩ := exists_remove_eq (kernel.onLink link) link handles
  have same : ∀ handle, handle ∈ gone ↔ handle ∈ removed := fun handle => by
    rw [exactly, precisely]
    exact below_filter_isOn
  rw [whole, part, leavesQdisc_congr same, leavesClass_congr same]
  unfold onLink
  dsimp only
  rw [List.filter_comm, List.filter_comm (·.isOn link) (leavesClass link removed)]

theorem remove_onLink_of_ne (apart : other ≠ link) (kernel : Kernel) (handles : List Handle) :
    (kernel.remove link handles).onLink other = kernel.onLink other := by
  obtain ⟨removed, _, same⟩ := exists_remove_eq kernel link handles
  have qdiscs : ∀ qdisc ∈ kernel.qdiscs.filter (·.isOn other),
      leavesQdisc link removed qdisc = true := fun qdisc member =>
    leavesQdisc_iff.mpr fun onLink =>
      absurd ((Entry.isOn_iff.mp (List.mem_filter.mp member).2).symm.trans onLink) apart
  have classes : ∀ tclass ∈ kernel.classes.filter (·.isOn other),
      leavesClass link removed tclass = true := fun tclass member =>
    leavesClass_iff.mpr fun onLink =>
      absurd ((Entry.isOn_iff.mp (List.mem_filter.mp member).2).symm.trans onLink) apart
  rw [same]
  unfold onLink
  dsimp only
  rw [List.filter_comm, List.filter_eq_self.mpr qdiscs,
    List.filter_comm (·.isOn other) (leavesClass link removed), List.filter_eq_self.mpr classes]

/-! ### New entries -/

theorem filter_concat {entry : Entry} (onLink : entry.place.link = link) (entries : List Entry) :
    (entries ++ [entry]).filter (·.isOn link) = entries.filter (·.isOn link) ++ [entry] := by
  rw [List.filter_append, List.filter_cons_of_pos (Entry.isOn_iff.mpr onLink), List.filter_nil]

theorem filter_concat_of_ne {entry : Entry} (onLink : entry.place.link = link)
    (apart : other ≠ link) (entries : List Entry) :
    (entries ++ [entry]).filter (·.isOn other) = entries.filter (·.isOn other) := by
  have elsewhere := Bool.eq_false_iff.mp (Entry.isOn_of_ne onLink apart)
  rw [List.filter_append, List.filter_cons_of_neg elsewhere, List.filter_nil, List.append_nil]

end Writes

end Kernel

/-! ## Handlers -/

namespace Handler

variable {α β : Type} {link : UInt32}

/-- What a handler has done, with one link in view. -/
def seenOn (link : UInt32) : EStateM.Result Refusal Kernel α → EStateM.Result Refusal Kernel α
  | .ok value after => .ok value (after.onLink link)
  | .error refusal after => .error refusal (after.onLink link)

/-- What a handler has left. -/
def left : EStateM.Result Refusal Kernel α → Kernel
  | .ok _ after => after
  | .error _ after => after

/-- Whether a handler keeps to a link. -/
structure Confined (link : UInt32) (handler : Handler α) : Prop where
  /-- The other links could as well not be there. -/
  onLink : ∀ kernel : Kernel, handler (kernel.onLink link) = seenOn link (handler kernel)
  /-- The other links are left as they were. -/
  elsewhere : ∀ {other}, other ≠ link → ∀ kernel : Kernel,
    (left (handler kernel)).onLink other = kernel.onLink other

theorem confined_pure (value : α) : Confined link (pure value : Handler α) :=
  ⟨fun _ => rfl, fun _ _ => rfl⟩

theorem confined_throw (refusal : Refusal) : Confined link (throw refusal : Handler α) :=
  ⟨fun _ => rfl, fun _ _ => rfl⟩

theorem confined_modify {change : Kernel → Kernel}
    (onLink : ∀ kernel : Kernel, change (kernel.onLink link) = (change kernel).onLink link)
    (elsewhere : ∀ {other}, other ≠ link → ∀ kernel : Kernel,
      (change kernel).onLink other = kernel.onLink other) :
    Confined link (modify change : Handler Unit) where
  onLink kernel := congrArg (EStateM.Result.ok ()) (onLink kernel)
  elsewhere := elsewhere

theorem Confined.bind {first : Handler α} {next : α → Handler β} (confined : first.Confined link)
    (later : ∀ value, (next value).Confined link) : (first >>= next).Confined link where
  onLink kernel := by
    change EStateM.bind first next (kernel.onLink link) = seenOn link (EStateM.bind first next kernel)
    unfold EStateM.bind
    rw [confined.onLink]
    cases first kernel with
    | ok value between => exact (later value).onLink between
    | error refusal between => rfl
  elsewhere {other} apart kernel := by
    have start := confined.elsewhere apart kernel
    change (left (EStateM.bind first next kernel)).onLink other = _
    unfold EStateM.bind
    cases outcome : first kernel with
    | ok value between =>
        rw [outcome] at start
        exact ((later value).elsewhere apart between).trans start
    | error refusal between =>
        rw [outcome] at start
        exact start

/-- What follows a check has to be confined only for what the check can find. -/
theorem confined_check_bind {condition : Kernel → Except Refusal α} {next : α → Handler β}
    (onLink : ∀ kernel : Kernel, condition (kernel.onLink link) = condition kernel)
    (later : ∀ kernel value, condition kernel = .ok value → (next value).Confined link) :
    (check condition >>= next).Confined link where
  onLink kernel := by
    rw [check_bind, check_bind, onLink]
    cases found : condition kernel with
    | ok value => exact (later kernel value found).onLink kernel
    | error refusal => rfl
  elsewhere {other} apart kernel := by
    rw [check_bind]
    cases found : condition kernel with
    | ok value => exact (later kernel value found).elsewhere apart kernel
    | error refusal => rfl

end Handler

namespace Kernel

open Handler

variable {link : UInt32}

theorem confined_remove (link : UInt32) (handles : List Handle) :
    Confined link (modify (·.remove link handles) : Handler Unit) :=
  confined_modify (fun kernel => (remove_onLink kernel link handles).symm)
    fun apart kernel => remove_onLink_of_ne apart kernel handles

theorem confined_withQdisc {qdisc : Entry} (onLink : qdisc.place.link = link) :
    Confined link (modify (·.withQdisc qdisc) : Handler Unit) := by
  refine confined_modify (fun kernel => ?_) fun apart kernel => ?_
  · exact congrArg (fun qdiscs => { kernel.onLink link with qdiscs })
      (filter_concat onLink kernel.qdiscs).symm
  · exact congrArg (fun qdiscs => { kernel.onLink _ with qdiscs })
      (filter_concat_of_ne onLink apart kernel.qdiscs)

theorem confined_withClass {tclass : Entry} (onLink : tclass.place.link = link) :
    Confined link (modify (·.withClass tclass) : Handler Unit) := by
  refine confined_modify (fun kernel => ?_) fun apart kernel => ?_
  · exact congrArg (fun classes => { kernel.onLink link with classes })
      (filter_concat onLink kernel.classes).symm
  · exact congrArg (fun classes => { kernel.onLink _ with classes })
      (filter_concat_of_ne onLink apart kernel.classes)

/-- A request keeps to its link. A new qdisc needs a handle, since the next major number is the same
for all links. -/
theorem confined_newQdisc (flags : UInt16) (request : TrafficRequest)
    (given : MessageFlag.isSet flags MessageFlag.create = true →
      ¬ request.record.place.handle.isNone = true) :
    (newQdisc flags request).Confined request.record.place.link := by
  refine confined_check_bind (fun _ => rfl) fun _ _ _ => ?_
  cases request.kind with
  | none => exact confined_throw _
  | some kind =>
      refine confined_check_bind (fun kernel => kernel.qdiscAt_onLink _ _) fun _ attached _ => ?_
      refine confined_check_bind (fun kernel => kernel.plan_onLink _ _ _ _) fun _ plan _ => ?_
      cases plan with
      | change =>
          have concerns := concerns_isAttached request.record.place.link request.record.place.parent
          refine confined_modify (fun kernel => ?_) fun apart kernel => ?_
          · exact congrArg (fun qdiscs => { kernel.onLink _ with qdiscs })
              (concerns.filter_setOptions request.options kernel.qdiscs).symm
          · exact congrArg (fun qdiscs => { kernel.onLink _ with qdiscs })
              (concerns.filter_setOptions_of_ne apart request.options kernel.qdiscs)
      | create =>
          dsimp only
          split
          · exact confined_throw _
          · next creates =>
              split
              · exact confined_throw _
              · have named : takeHandle request.record.place.handle =
                    pure request.record.place.handle :=
                  if_neg (given (by simpa using creates))
                rw [named]
                refine (confined_pure _).bind fun handle => ?_
                exact (confined_remove _ _).bind fun _ => confined_withQdisc rfl

theorem confined_deleteQdisc (request : TrafficRequest) :
    (deleteQdisc request).Confined request.record.place.link := by
  refine confined_check_bind (fun _ => rfl) fun _ _ _ => ?_
  dsimp only
  split
  · exact confined_throw _
  · refine confined_check_bind (fun kernel => kernel.qdiscAt_onLink _ _) fun _ attached _ => ?_
    cases attached with
    | none => exact confined_throw _
    | some qdisc =>
        dsimp only
        split
        · exact confined_throw _
        · split
          · exact confined_throw _
          · refine (confined_remove _ _).bind fun _ => ?_
            split
            · exact confined_withQdisc rfl
            · exact confined_pure ()

theorem confined_newClass (flags : UInt16) (request : TrafficRequest) :
    (newClass flags request).Confined request.record.place.link := by
  refine confined_check_bind (fun kernel => kernel.classTarget_onLink _) fun _ target _ => ?_
  refine confined_check_bind (fun kernel => congrArg _ (kernel.class?_onLink _ _))
    fun _ present _ => ?_
  split
  · split
    · exact confined_throw _
    · have concerns := concerns_isNamed request.record.place.link target.2
      refine confined_modify (fun kernel => ?_) fun apart kernel => ?_
      · exact congrArg (fun classes => { kernel.onLink _ with classes })
          (concerns.filter_setOptions request.options kernel.classes).symm
      · exact congrArg (fun classes => { kernel.onLink _ with classes })
          (concerns.filter_setOptions_of_ne apart request.options kernel.classes)
  · split
    · exact confined_throw _
    · refine confined_check_bind (fun kernel => ?_) fun _ _ _ => confined_withClass rfl
      rw [class?_onLink]

theorem confined_deleteClass (request : TrafficRequest) :
    (deleteClass request).Confined request.record.place.link := by
  refine confined_check_bind (fun kernel => kernel.classTarget_onLink _) fun _ target _ => ?_
  refine confined_check_bind (fun kernel => kernel.requireChildless_onLink _ _) fun _ _ _ => ?_
  have concerns := concerns_isNamed request.record.place.link target.2
  refine Confined.bind (confined_modify (fun kernel => ?_) fun apart kernel => ?_) fun _ =>
    confined_modify (fun kernel => ?_) fun apart kernel => ?_
  · exact congrArg (fun classes => { kernel.onLink _ with classes })
      (concerns.filter_eraseP kernel.classes).symm
  · exact congrArg (fun classes => { kernel.onLink _ with classes })
      (concerns.filter_eraseP_of_ne apart kernel.classes)
  · rw [attachedHandles_onLink, remove_onLink]
  · exact remove_onLink_of_ne apart kernel _

end Kernel

end TrafficShaping
