import TrafficShaping.Kernel.Classes
import TrafficShaping.Outcome
import TrafficShaping.Proofs.Handle
import TrafficShaping.Proofs.Kernel.Tables

/-!
What an accepted request has done.

Each handler is taken apart once: an accepted request to set up an object has changed the options of
one (`ChangesQdisc`, `ChangesClass`) or created one (`CreatesQdisc`, `CreatesClass`), and one to
remove an object has removed it with what is below it (`DeletesQdisc`, `DeletesClass`). The fields
of these records are what the checks have found and the kernel that was written.
-/

namespace TrafficShaping.Kernel

variable {kernel after : Kernel} {flags : UInt16} {request : TrafficRequest} {link : UInt32}
  {parent : Handle} {place : Placement}

/-! ## Checks -/

/-- Whether a parent that names a class has the class and the qdisc of its major number. -/
structure HasClass (kernel : Kernel) (link : UInt32) (parent : Handle) : Prop where
  major : parent.major ≠ 0
  owner : ∃ qdisc, kernel.qdisc? link parent.qdisc = some qdisc
  tclass : ∃ tclass, kernel.class? link parent = some tclass

theorem requireLink_eq_ok {nothing : Unit} (checked : kernel.requireLink link = .ok nothing) :
    kernel.links.any (·.index == link) = true := by
  unfold requireLink at checked
  split at checked
  · assumption
  · cases checked

theorem qdiscAt_eq_ok {attached : Option Entry} (found : kernel.qdiscAt link parent = .ok attached) :
    kernel.child? link parent = attached ∧
      (parent.namesClass = true → kernel.HasClass link parent) := by
  unfold qdiscAt at found
  split at found
  · next plain =>
      exact ⟨Except.ok.inj found, fun named => absurd named (by simpa using plain)⟩
  · split at found
    · cases found
    · next owned =>
        split at found
        · cases found
        · next classed =>
            obtain ⟨major, owner⟩ := not_or.mp owned
            exact ⟨Except.ok.inj found, fun _ => ⟨major, Option.ne_none_iff_exists'.mp owner,
              Option.ne_none_iff_exists'.mp classed⟩⟩

theorem plan_eq_change {kind : String} {present : Option Entry}
    (planned : kernel.plan flags place kind present = .ok .change) :
    ∃ qdisc, present = some qdisc ∧
      (place.handle.isNone = true ∨ qdisc.place.handle = place.handle) ∧ qdisc.kind = kind ∧
      MessageFlag.isSet flags MessageFlag.exclusive = false := by
  unfold plan at planned
  dsimp only at planned
  split at planned
  · next qdisc chosen =>
      obtain ⟨same, suits⟩ := Option.filter_eq_some_iff.mp chosen
      rw [Bool.or_eq_true, beq_iff_eq] at suits
      split at planned
      · cases planned
      · split at planned
        · cases planned
        · next shared =>
            split at planned
            · cases planned
            · next kinds => exact ⟨qdisc, same, suits, by simpa using kinds, by simpa using shared⟩
  · repeat' split at planned
    all_goals cases planned

theorem plan_eq_create {kind : String} {present : Option Entry}
    (planned : kernel.plan flags place kind present = .ok .create)
    (given : ¬ place.handle.isNone = true) :
    place.handle.minor = 0 ∧ kernel.qdisc? place.link place.handle = none ∧
      (MessageFlag.isSet flags MessageFlag.replace = false → present = none) := by
  unfold plan at planned
  dsimp only at planned
  split at planned
  · simp only [given, Bool.false_and, Bool.false_eq_true, ite_false] at planned
    repeat' split at planned
    all_goals cases planned
  · rw [if_neg given] at planned
    split at planned
    · cases planned
    · next free =>
        split at planned
        · cases planned
        · next minor =>
            split at planned
            · cases planned
            · next unused =>
                refine ⟨by simpa using minor, by simpa using unused, fun keeps => ?_⟩
                simpa [keeps] using free

theorem takeHandle_of_given (given : ¬ place.handle.isNone = true) (kernel : Kernel) :
    takeHandle place.handle kernel = .ok place.handle kernel := by
  unfold takeHandle
  rw [if_neg given]
  rfl

/-- Choosing a handle writes to nothing but the number of the next one. -/
theorem exists_nextMajor_of_takeHandle {asked handle : Handle}
    (taken : takeHandle asked kernel = .ok handle after) :
    ∃ nextMajor, after = { kernel with nextMajor } := by
  unfold takeHandle at taken
  split at taken
  · exact ⟨_, (EStateM.Result.ok.inj taken).2.symm⟩
  · exact ⟨kernel.nextMajor, (EStateM.Result.ok.inj taken).2.symm⟩

/-- What must not exist and may not be replaced is not there. -/
theorem plan_of_exclusive {kind : String} {present : Option Entry} {planned : Plan}
    (done : kernel.plan flags place kind present = .ok planned)
    (exclusive : MessageFlag.isSet flags MessageFlag.exclusive = true)
    (keeps : MessageFlag.isSet flags MessageFlag.replace = false) : present = none := by
  cases present with
  | none => rfl
  | some qdisc =>
      unfold plan at done
      dsimp only at done
      rw [exclusive, keeps] at done
      split at done
      · simp at done
      · next other =>
          have given : place.handle.isNone = false := by
            rw [Option.filter_some] at other
            cases asked : place.handle.isNone with
            | false => rfl
            | true => simp [asked] at other
          simp [given] at done

/-! ## Qdiscs -/

/-- A request has changed the options of a qdisc. -/
structure ChangesQdisc (kernel : Kernel) (flags : UInt16) (request : TrafficRequest)
    (qdisc : Entry) (after : Kernel) : Prop where
  found : kernel.child? request.record.place.link request.record.place.parent = some qdisc
  visible : qdisc.place.handle.isNone = false
  handle : request.record.place.handle.isNone = true ∨
    qdisc.place.handle = request.record.place.handle
  named : request.kind = some qdisc.kind
  shared : MessageFlag.isSet flags MessageFlag.exclusive = false
  after_eq : after = { kernel with
    qdiscs := Entry.setOptions
      (·.isAttached request.record.place.link request.record.place.parent) request.options
      kernel.qdiscs }

/-- A request has created a qdisc of a kind under a handle, in the place of one that was attached
there. `between` is the kernel once the handle is chosen. -/
structure CreatesQdisc (kernel : Kernel) (flags : UInt16) (request : TrafficRequest)
    (kind : String) (attached : Option Entry) (handle : Handle) (between after : Kernel) : Prop where
  link : kernel.links.any (·.index == request.record.place.link) = true
  found : kernel.child? request.record.place.link request.record.place.parent = attached
  parent : request.record.place.parent.namesClass = true →
    kernel.HasClass request.record.place.link request.record.place.parent
  named : request.kind = some kind
  known : qdiscKinds.contains kind = true
  creates : MessageFlag.isSet flags MessageFlag.create = true
  /-- A handle that the request gives is free, and whatever was attached may be replaced. -/
  given : ¬ request.record.place.handle.isNone = true →
    request.record.place.handle.minor = 0 ∧
      kernel.qdisc? request.record.place.link request.record.place.handle = none ∧
      (MessageFlag.isSet flags MessageFlag.replace = false →
        ∀ qdisc, attached = some qdisc → qdisc.place.handle.isNone = true)
  taken : takeHandle request.record.place.handle kernel = .ok handle between
  after_eq : after =
    (between.remove request.record.place.link (attached.toList.map (·.place.handle))).withQdisc
      ⟨{ request.record.place with handle }, kind, request.options⟩

/-- A handle that the request gives is taken as it is. -/
theorem CreatesQdisc.taken_of_given {kind : String} {attached : Option Entry} {handle : Handle}
    {between : Kernel} (creates : CreatesQdisc kernel flags request kind attached handle between after)
    (given : ¬ request.record.place.handle.isNone = true) :
    request.record.place.handle = handle ∧ kernel = between := by
  have taken := creates.taken
  rw [takeHandle_of_given given] at taken
  exact EStateM.Result.ok.inj taken

theorem newQdisc_eq_ok (done : newQdisc flags request kernel = .ok () after) :
    (∃ qdisc, ChangesQdisc kernel flags request qdisc after) ∨
      ∃ kind attached handle between,
        CreatesQdisc kernel flags request kind attached handle between after := by
  obtain ⟨_, linked, done⟩ := Handler.check_bind_eq_ok.mp done
  cases named : request.kind with
  | none =>
      rw [named] at done
      cases done
  | some kind =>
      rw [named] at done
      obtain ⟨attached, placed, done⟩ := Handler.check_bind_eq_ok.mp done
      obtain ⟨found, parent⟩ := qdiscAt_eq_ok placed
      obtain ⟨plan, planned, done⟩ := Handler.check_bind_eq_ok.mp done
      cases plan with
      | change =>
          obtain ⟨qdisc, present, handle, rfl, shared⟩ := plan_eq_change planned
          obtain ⟨same, visible⟩ := Option.filter_eq_some_iff.mp present
          cases done
          refine .inl ⟨qdisc, found.trans same, by simpa using visible, handle, named, shared, rfl⟩
      | create =>
          dsimp only at done
          split at done
          · cases done
          · next creates =>
              split at done
              · cases done
              · next known =>
                  change EStateM.bind (takeHandle _) _ kernel = _ at done
                  unfold EStateM.bind at done
                  cases taken : takeHandle request.record.place.handle kernel with
                  | error refusal between =>
                      rw [taken] at done
                      cases done
                  | ok handle between =>
                      rw [taken] at done
                      cases done
                      refine .inr ⟨kind, attached, handle, between, requireLink_eq_ok linked,
                        found, parent, named, by simpa using known, by simpa using creates,
                        fun given => ?_, taken, rfl⟩
                      obtain ⟨minor, free, alone⟩ := plan_eq_create planned given
                      refine ⟨minor, free, fun keeps qdisc same => ?_⟩
                      subst same
                      simpa [Option.filter_some] using alone keeps

/-- Where a qdisc is set up that must not exist, at most one without handle is attached. -/
theorem isNone_of_exclusive (done : newQdisc flags request kernel = .ok () after)
    (exclusive : MessageFlag.isSet flags MessageFlag.exclusive = true)
    (keeps : MessageFlag.isSet flags MessageFlag.replace = false) {qdisc : Entry}
    (found : kernel.child? request.record.place.link request.record.place.parent = some qdisc) :
    qdisc.place.handle.isNone = true := by
  obtain ⟨_, _, done⟩ := Handler.check_bind_eq_ok.mp done
  cases named : request.kind with
  | none =>
      rw [named] at done
      cases done
  | some kind =>
      rw [named] at done
      obtain ⟨attached, placed, done⟩ := Handler.check_bind_eq_ok.mp done
      obtain ⟨_, planned, _⟩ := Handler.check_bind_eq_ok.mp done
      obtain ⟨same, _⟩ := qdiscAt_eq_ok placed
      rw [← same, found] at planned
      simpa [Option.filter_some] using plan_of_exclusive planned exclusive keeps

/-- A request has removed a qdisc and all that was below it. -/
structure DeletesQdisc (kernel : Kernel) (request : TrafficRequest) (qdisc : Entry)
    (after : Kernel) : Prop where
  found : kernel.child? request.record.place.link request.record.place.parent = some qdisc
  visible : qdisc.place.handle.isNone = false
  parent : request.record.place.parent.isNone = false
  handle : request.record.place.handle.isNone = true ∨
    qdisc.place.handle = request.record.place.handle
  after_eq : after =
    let removed := kernel.remove request.record.place.link [qdisc.place.handle]
    if request.record.place.parent.isRoot then
      removed.withQdisc (.defaultRoot request.record.place.link)
    else removed

theorem deleteQdisc_eq_ok (done : deleteQdisc request kernel = .ok () after) :
    ∃ qdisc, DeletesQdisc kernel request qdisc after := by
  obtain ⟨_, linked, done⟩ := Handler.check_bind_eq_ok.mp done
  dsimp only at done
  split at done
  · cases done
  · next parent =>
      obtain ⟨attached, placed, done⟩ := Handler.check_bind_eq_ok.mp done
      obtain ⟨found, _⟩ := qdiscAt_eq_ok placed
      cases attached with
      | none => cases done
      | some qdisc =>
          dsimp only at done
          split at done
          · cases done
          · next handle =>
              split at done
              · cases done
              · next visible =>
                  refine ⟨qdisc, found, by simpa using visible, by simpa using parent, ?_, ?_⟩
                  · by_cases none : request.record.place.handle.isNone = true
                    · exact .inl none
                    · exact .inr (by simpa [none] using handle)
                  · cases root : request.record.place.parent.isRoot with
                    | false =>
                        rw [root] at done
                        cases done
                        rfl
                    | true =>
                        rw [root] at done
                        cases done
                        rfl

/-! ## Classes -/

theorem ownerHandle_eq_ok {owner : Handle} (chosen : kernel.ownerHandle place = .ok owner) :
    (place.handle.major ≠ 0 → owner = place.handle.qdisc) ∧
      (place.parent.isRoot = false → place.parent.major ≠ 0 → owner = place.parent.qdisc) := by
  unfold ownerHandle at chosen
  dsimp only at chosen
  constructor
  · intro major
    have own : place.handle.qdisc.isNone = false := Handle.isNone_qdisc_of_major major
    rw [own] at chosen
    cases clash : (!(if place.parent.isRoot then Handle.none else place.parent.qdisc).isNone &&
        place.handle.qdisc != if place.parent.isRoot then Handle.none else place.parent.qdisc) with
    | true =>
        rw [clash] at chosen
        cases chosen
    | false =>
        rw [clash] at chosen
        exact (Except.ok.inj chosen).symm
  · intro below major
    have above : place.parent.qdisc.isNone = false := Handle.isNone_qdisc_of_major major
    simp only [below, above, Bool.false_eq_true, ite_false, Bool.not_false, Bool.true_and,
      ite_true] at chosen
    cases own : place.handle.qdisc.isNone with
    | true =>
        rw [own] at chosen
        exact (Except.ok.inj chosen).symm
    | false =>
        cases clash : place.handle.qdisc != place.parent.qdisc with
        | true =>
            rw [own, clash] at chosen
            cases chosen
        | false =>
            rw [own, clash] at chosen
            exact (Except.ok.inj chosen).symm.trans (by simpa using clash)

/-- The qdisc that a class at a place belongs to and the handle of the class have been found. -/
structure TargetsClass (kernel : Kernel) (place : Placement) (qdisc : Entry) (handle : Handle) :
    Prop where
  /-- The qdisc is the first one under its handle. -/
  found : kernel.qdisc? place.link qdisc.place.handle = some qdisc
  member : qdisc ∈ kernel.qdiscs
  link : qdisc.place.link = place.link
  kind : qdisc.kind ∈ classfulKinds
  minor : place.handle.minor ≠ 0
  handle_eq : handle = .ofParts qdisc.place.handle.major place.handle.minor
  own : place.handle.major ≠ 0 → qdisc.place.handle = place.handle.qdisc
  above : place.parent.isRoot = false → place.parent.major ≠ 0 →
    qdisc.place.handle = place.parent.qdisc

theorem classTarget_eq_ok {qdisc : Entry} {handle : Handle}
    (found : kernel.classTarget place = .ok (qdisc, handle)) :
    kernel.TargetsClass place qdisc handle := by
  obtain ⟨_, _, found⟩ := Outcome.bind_eq_ok.mp found
  obtain ⟨owner, chosen, found⟩ := Outcome.bind_eq_ok.mp found
  obtain ⟨own, above⟩ := ownerHandle_eq_ok chosen
  cases looked : kernel.qdisc? place.link owner with
  | none =>
      rw [looked] at found
      cases found
  | some other =>
      obtain ⟨link, rfl⟩ := isNamed_iff.mp (List.find?_some looked)
      rw [looked] at found
      dsimp only at found
      split at found
      · cases found
      · next classful =>
          split at found
          · cases found
          · next minor =>
              cases found
              exact ⟨looked, List.mem_of_find?_eq_some looked, link, by simpa using classful, minor,
                rfl, own, above⟩

/-- A request has changed the options of a class. -/
structure ChangesClass (kernel : Kernel) (flags : UInt16) (request : TrafficRequest)
    (qdisc : Entry) (handle : Handle) (after : Kernel) : Prop where
  target : kernel.TargetsClass request.record.place qdisc handle
  found : (kernel.class? request.record.place.link handle).isSome = true
  shared : MessageFlag.isSet flags MessageFlag.exclusive = false
  after_eq : after = { kernel with
    classes := Entry.setOptions (·.isNamed request.record.place.link handle) request.options
      kernel.classes }

/-- A request has created a class below a parent, which is its qdisc or a class. -/
structure CreatesClass (kernel : Kernel) (flags : UInt16) (request : TrafficRequest)
    (qdisc : Entry) (handle parent : Handle) (after : Kernel) : Prop where
  target : kernel.TargetsClass request.record.place qdisc handle
  free : kernel.class? request.record.place.link handle = none
  creates : MessageFlag.isSet flags MessageFlag.create = true
  parent_eq : parent =
    if request.record.place.parent.isRoot then qdisc.place.handle else request.record.place.parent
  placed : parent = qdisc.place.handle ∨
    ∃ tclass, kernel.class? request.record.place.link parent = some tclass
  after_eq : after = kernel.withClass
    ⟨⟨request.record.place.link, handle, parent⟩, qdisc.kind, request.options⟩

theorem exists_classTarget_of_newClass (done : newClass flags request kernel = .ok () after) :
    ∃ qdisc handle, kernel.classTarget request.record.place = .ok (qdisc, handle) ∧
      (ChangesClass kernel flags request qdisc handle after ∨
        ∃ parent, CreatesClass kernel flags request qdisc handle parent after) := by
  obtain ⟨⟨qdisc, handle⟩, targeted, done⟩ := Handler.check_bind_eq_ok.mp done
  have target := classTarget_eq_ok targeted
  obtain ⟨present, looked, done⟩ := Handler.check_bind_eq_ok.mp done
  have looked : kernel.class? request.record.place.link handle = present := Except.ok.inj looked
  refine ⟨qdisc, handle, targeted, ?_⟩
  split at done
  · next found =>
      split at done
      · cases done
      · next shared =>
          cases done
          exact .inl ⟨target, looked ▸ found, by simpa using shared, rfl⟩
  · next missing =>
      split at done
      · cases done
      · next creates =>
          obtain ⟨_, above, done⟩ := Handler.check_bind_eq_ok.mp done
          obtain ⟨parent, parent_eq⟩ : ∃ parent, parent =
              if request.record.place.parent.isRoot then qdisc.place.handle
              else request.record.place.parent := ⟨_, rfl⟩
          rw [← parent_eq] at above done
          split at above
          · cases above
          · next placed =>
              cases done
              refine .inr ⟨parent, target, by simpa [looked] using missing,
                by simpa using creates, parent_eq, ?_, rfl⟩
              by_cases direct : parent = qdisc.place.handle
              · exact .inl direct
              · have named := bne_iff_ne.mpr direct
                rw [named, Bool.true_and, Option.isNone_iff_eq_none] at placed
                exact .inr (Option.ne_none_iff_exists'.mp placed)

theorem newClass_eq_ok (done : newClass flags request kernel = .ok () after) :
    ∃ qdisc handle, ChangesClass kernel flags request qdisc handle after ∨
      ∃ parent, CreatesClass kernel flags request qdisc handle parent after := by
  obtain ⟨qdisc, handle, _, outcome⟩ := exists_classTarget_of_newClass done
  exact ⟨qdisc, handle, outcome⟩

/-- A request has removed a class without classes below it, and the qdiscs that were below it. -/
structure DeletesClass (kernel : Kernel) (request : TrafficRequest) (qdisc : Entry)
    (handle : Handle) (after : Kernel) : Prop where
  target : kernel.TargetsClass request.record.place qdisc handle
  found : (kernel.class? request.record.place.link handle).isSome = true
  childless : ∀ tclass ∈ kernel.classes, tclass.place.link = request.record.place.link →
    tclass.place.parent ≠ handle
  after_eq : after = (kernel.withoutClass request.record.place.link handle).remove
    request.record.place.link (kernel.attachedHandles request.record.place.link handle)

theorem deleteClass_eq_ok (done : deleteClass request kernel = .ok () after) :
    ∃ qdisc handle, DeletesClass kernel request qdisc handle after := by
  obtain ⟨⟨qdisc, handle⟩, targeted, done⟩ := Handler.check_bind_eq_ok.mp done
  obtain ⟨_, checked, done⟩ := Handler.check_bind_eq_ok.mp done
  unfold requireChildless at checked
  split at checked
  · cases checked
  · next found =>
      split at checked
      · cases checked
      · next childless =>
          cases done
          refine ⟨qdisc, handle, classTarget_eq_ok targeted,
            by simpa [Option.isSome_iff_ne_none] using found, ?_, rfl⟩
          intro tclass member link attached
          exact childless (List.any_eq_true.mpr
            ⟨tclass, member, isAttached_iff.mpr ⟨link, attached⟩⟩)

end TrafficShaping.Kernel
