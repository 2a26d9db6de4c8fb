import TrafficShaping.Proofs.Dump
import TrafficShaping.Proofs.Session.WellFormed

/-!
Whether a link keeps the qdisc that is attached to it.

Qdiscs are removed by their handles and by what they are attached to. Two calls can therefore take
the qdisc of a link with them that are not about it. A qdisc without handle gets the next major
number whether it is free or not, and when it goes, all qdiscs of its handle do. A class may have
the number that stands for the link as a parent, and when it goes, so does what seems to be attached
to it. A call that does neither is one that `Operation.Spares` the link, and sessions of such calls
leave exactly one qdisc on each link (`Endpoint.rooted_session`). What a call does is seen in the
kernel after it: a handle was taken when the next major number has changed, and a class has gone
when the table of classes has changed.
-/

namespace TrafficShaping

namespace Kernel

/-! ## Tables of qdiscs -/

/-- Whether qdiscs differ by handle and by place, and each link has one that is attached to it. -/
@[mk_iff]
structure Rooted (links : List Link) (qdiscs : List Entry) : Prop where
  handles : Distinct Placement.handle qdiscs
  parents : Distinct Placement.parent qdiscs
  unnamed : ∀ qdisc ∈ qdiscs, qdisc.place.handle.isNone = true → qdisc.place.parent = .root
  root : ∀ link ∈ links, ∃ qdisc ∈ qdiscs,
    qdisc.place.link = link.index ∧ qdisc.place.parent = .root

variable {links : List Link} {kernel after : Kernel} {qdiscs : List Entry} {link : UInt32}
  {pending : List Handle} {root : Entry}

theorem rooted_map_bare : Rooted links (qdiscs.map bare) ↔ Rooted links qdiscs := by
  simp only [rooted_iff, Distinct, List.pairwise_map, List.forall_mem_map, exists_mem_map_bare,
    place_bare]

theorem Rooted.setOptions (rooted : Rooted links qdiscs) (condition : Entry → Bool)
    (options : Option Bytes) : Rooted links (Entry.setOptions condition options qdiscs) := by
  rw [← rooted_map_bare, map_bare_setOptions]
  exact rooted_map_bare.mpr rooted

/-- There is no other qdisc that is attached to the link. -/
theorem Rooted.exists_filter_eq (rooted : Rooted links qdiscs) {link : Link}
    (member : link ∈ links) :
    ∃ root, qdiscs.filter (·.isAttached link.index .root) = [root] := by
  obtain ⟨root, present, onLink, atRoot⟩ := rooted.root link member
  have among : root ∈ qdiscs.filter (·.isAttached link.index .root) :=
    List.mem_filter.mpr ⟨present, isAttached_iff.mpr ⟨onLink, atRoot⟩⟩
  have all : ∀ other ∈ qdiscs.filter (·.isAttached link.index .root),
      other.place.link = link.index ∧ other.place.parent = .root :=
    fun other chosen => isAttached_iff.mp (List.mem_filter.mp chosen).2
  have distinct := rooted.parents.filter (·.isAttached link.index .root)
  generalize qdiscs.filter (·.isAttached link.index .root) = chosen at among all distinct
  match chosen with
  | [] => cases among
  | [only] => exact ⟨only, rfl⟩
  | first :: second :: rest =>
      have differ := (List.pairwise_cons.mp distinct).1 second List.mem_cons_self
      obtain ⟨firstLink, firstPlace⟩ := all first List.mem_cons_self
      obtain ⟨secondLink, secondPlace⟩ := all second (List.mem_cons_of_mem _ List.mem_cons_self)
      exact absurd (firstPlace.trans secondPlace.symm) (differ (firstLink.trans secondLink.symm))

/-! ## Removal -/

/-- The qdisc of a link is not below another one. -/
theorem Below.mem_pending_of_root (handles : Distinct Placement.handle qdiscs)
    (member : root ∈ qdiscs) (onLink : root.place.link = link) (atRoot : root.place.parent = .root)
    (below : Below link qdiscs pending root.place.handle) : root.place.handle ∈ pending := by
  generalize same : root.place.handle = handle at below ⊢
  cases below with
  | pending _ _ among => exact among
  | attached _ _ hanging =>
      obtain ⟨present, hangingLink, named, _⟩ := mem_attachedBelow.mp hanging
      have isRoot := handles.eq_of_same member present (onLink.trans hangingLink.symm) same
      rw [← isRoot, atRoot] at named
      cases named

theorem mem_remove_of_root (handles : Distinct Placement.handle kernel.qdiscs)
    (member : root ∈ kernel.qdiscs) (atRoot : root.place.parent = .root)
    (spared : root.place.link = link → root.place.handle ∉ pending) :
    root ∈ (kernel.remove link pending).qdiscs :=
  mem_qdiscs_remove.mpr ⟨member, fun onLink below =>
    spared onLink (below.mem_pending_of_root handles member onLink atRoot)⟩

theorem Distinct.remove {part : Placement → Handle} (distinct : Distinct part kernel.qdiscs)
    (link : UInt32) (pending : List Handle) :
    Distinct part (kernel.remove link pending).qdiscs := by
  obtain ⟨removed, _, same⟩ := exists_remove_eq kernel link pending
  rw [same]
  exact distinct.filter _

/-- What is removed with qdiscs that are attached elsewhere is not the qdisc of a link. -/
theorem Rooted.remove (rooted : Rooted links kernel.qdiscs)
    (elsewhere : ∀ handle ∈ pending, ∃ qdisc ∈ kernel.qdiscs, qdisc.place.link = link ∧
      qdisc.place.handle = handle ∧ qdisc.place.parent ≠ .root) :
    Rooted links (kernel.remove link pending).qdiscs where
  handles := rooted.handles.remove link pending
  parents := rooted.parents.remove link pending
  unnamed qdisc left := rooted.unnamed qdisc (mem_qdiscs_remove.mp left).1
  root := by
    intro known member
    obtain ⟨root, present, onLink, atRoot⟩ := rooted.root known member
    refine ⟨root, mem_remove_of_root rooted.handles present atRoot fun rootLink among => ?_,
      onLink, atRoot⟩
    obtain ⟨qdisc, other, otherLink, same, apart⟩ := elsewhere _ among
    have isRoot := rooted.handles.eq_of_same other present (otherLink.trans rootLink.symm) same
    exact apart (isRoot ▸ atRoot)

/-- A qdisc may be put in the place of another one under a free handle. -/
theorem Rooted.graft (rooted : Rooted links kernel.qdiscs) {parent : Handle}
    {attached : Option Entry} {qdisc : Entry} (found : kernel.child? link parent = attached)
    (onLink : qdisc.place.link = link) (atPlace : qdisc.place.parent = parent)
    (free : ∀ other ∈ (kernel.remove link (attached.toList.map (·.place.handle))).qdiscs,
      other.place.link = link → other.place.handle ≠ qdisc.place.handle)
    (unnamed : qdisc.place.handle.isNone = true → parent = .root) :
    Rooted links
      ((kernel.remove link (attached.toList.map (·.place.handle))).withQdisc qdisc).qdiscs where
  handles := (rooted.handles.remove link _).concat (onLink ▸ free)
  parents := by
    refine (rooted.parents.remove link _).concat fun other left otherLink => ?_
    rw [atPlace]
    exact rooted.parents.free_of_remove found other left (otherLink.trans onLink)
  unnamed := List.forall_mem_append.mpr
    ⟨fun other left => rooted.unnamed other (mem_qdiscs_remove.mp left).1,
      List.forall_mem_singleton.mpr fun nameless => atPlace.trans (unnamed nameless)⟩
  root := by
    intro known member
    obtain ⟨root, present, rootLink, atRoot⟩ := rooted.root known member
    by_cases replaced : root.place.link = link ∧ parent = .root
    · obtain ⟨same, rfl⟩ := replaced
      exact ⟨qdisc, List.mem_append_right _ List.mem_cons_self,
        onLink.trans (same.symm.trans rootLink), atPlace⟩
    · refine ⟨root, List.mem_append_left _ ?_, rootLink, atRoot⟩
      refine mem_remove_of_root rooted.handles present atRoot fun sameLink among => ?_
      obtain ⟨old, taken, same⟩ := List.mem_map.mp among
      rw [Option.mem_toList] at taken
      obtain ⟨oldMember, oldLink, oldPlace⟩ := mem_qdiscs_of_child? (found.trans taken)
      have isRoot := rooted.handles.eq_of_same oldMember present (oldLink.trans sameLink.symm) same
      exact replaced ⟨sameLink, by rw [← oldPlace, isRoot, atRoot]⟩

/-! ## Handlers -/

variable {flags : UInt16} {request : TrafficRequest}

/-- The handle that the next qdisc without one gets. -/
def nextHandle (kernel : Kernel) : Handle := ⟨kernel.nextMajor <<< 16⟩

theorem takeHandle_of_isNone {asked : Handle} (nameless : asked.isNone = true) (kernel : Kernel) :
    takeHandle asked kernel =
      .ok kernel.nextHandle { kernel with nextMajor := kernel.nextMajor + 1 } := by
  unfold takeHandle
  rw [if_pos nameless]
  rfl

theorem CreatesQdisc.taken_of_isNone {kind : String} {attached : Option Entry} {handle : Handle}
    {between : Kernel}
    (creates : CreatesQdisc kernel flags request kind attached handle between after)
    (nameless : request.record.place.handle.isNone = true) :
    kernel.nextHandle = handle ∧ { kernel with nextMajor := kernel.nextMajor + 1 } = between := by
  have taken := creates.taken
  rw [takeHandle_of_isNone nameless] at taken
  exact EStateM.Result.ok.inj taken

/-- When a qdisc is created without handle, the next number is another one afterwards. -/
theorem CreatesQdisc.nextMajor_ne {kind : String} {attached : Option Entry} {handle : Handle}
    {between : Kernel}
    (creates : CreatesQdisc kernel flags request kind attached handle between after)
    (nameless : request.record.place.handle.isNone = true) :
    after.nextMajor ≠ kernel.nextMajor := by
  obtain ⟨_, rfl⟩ := creates.taken_of_isNone nameless
  rw [creates.after_eq]
  change kernel.nextMajor + 1 ≠ kernel.nextMajor
  rw [Ne, UInt32.add_eq_left]
  decide

/-- A qdisc that is created has a handle of its own, if the next one is free when it is taken. -/
theorem CreatesQdisc.exists_handle {kind : String} {attached : Option Entry} {handle : Handle}
    {between : Kernel}
    (creates : CreatesQdisc kernel flags request kind attached handle between after)
    (free : after.nextMajor ≠ kernel.nextMajor → kernel.nextHandle.isNone = false ∧
      kernel.qdisc? request.record.place.link kernel.nextHandle = none) :
    handle.isNone = false ∧ kernel.qdisc? request.record.place.link handle = none ∧
      between.qdiscs = kernel.qdiscs := by
  by_cases nameless : request.record.place.handle.isNone = true
  · obtain ⟨named, unused⟩ := free (creates.nextMajor_ne nameless)
    obtain ⟨rfl, rfl⟩ := creates.taken_of_isNone nameless
    exact ⟨named, unused, rfl⟩
  · obtain ⟨rfl, rfl⟩ := creates.taken_of_given nameless
    exact ⟨Bool.eq_false_iff.mpr nameless, (creates.given nameless).2.1, rfl⟩

theorem Rooted.newQdisc (rooted : Rooted links kernel.qdiscs)
    (done : Kernel.newQdisc flags request kernel = .ok () after)
    (free : after.nextMajor ≠ kernel.nextMajor → kernel.nextHandle.isNone = false ∧
      kernel.qdisc? request.record.place.link kernel.nextHandle = none) :
    Rooted links after.qdiscs := by
  rcases newQdisc_eq_ok done with ⟨qdisc, changes⟩ | ⟨kind, attached, handle, between, creates⟩
  · rw [changes.after_eq]
    exact rooted.setOptions _ _
  · obtain ⟨named, unused, same⟩ := creates.exists_handle free
    rw [← same] at rooted
    have found : between.child? request.record.place.link request.record.place.parent =
        attached := by
      rw [← creates.found, child?, child?, same]
    rw [creates.after_eq]
    refine rooted.graft found rfl rfl ?_ fun nameless => ?_
    · intro other left onLink
      have member := (mem_qdiscs_remove.mp left).1
      rw [same] at member
      intro taken
      exact List.find?_eq_none.mp unused other member (isNamed_iff.mpr ⟨onLink, taken⟩)
    · cases named.symm.trans nameless

theorem Rooted.deleteQdisc (rooted : Rooted links kernel.qdiscs)
    (done : Kernel.deleteQdisc request kernel = .ok () after) : Rooted links after.qdiscs := by
  obtain ⟨qdisc, deletes⟩ := deleteQdisc_eq_ok done
  obtain ⟨member, onLink, atPlace⟩ := mem_qdiscs_of_child? deletes.found
  rw [deletes.after_eq]
  dsimp only
  split
  · next isRoot =>
      have root := Handle.isRoot_iff.mp isRoot
      refine rooted.graft deletes.found rfl root.symm ?_ fun _ => root
      -- A qdisc without handle would be attached to the link, where nothing is left.
      intro other left otherLink nameless
      have atRoot := rooted.unnamed other (mem_qdiscs_remove.mp left).1 (Handle.isNone_iff.mpr nameless)
      exact rooted.parents.free_of_remove deletes.found other left otherLink (atRoot.trans root.symm)
  · next apart =>
      refine rooted.remove fun handle among => ?_
      cases List.mem_singleton.mp among
      refine ⟨qdisc, member, onLink, rfl, ?_⟩
      rw [atPlace]
      exact fun root => apart (Handle.isRoot_iff.mpr root)

theorem qdiscs_newClass (done : Kernel.newClass flags request kernel = .ok () after) :
    after.qdiscs = kernel.qdiscs := by
  obtain ⟨qdisc, handle, changes | ⟨parent, creates⟩⟩ := newClass_eq_ok done
  · rw [changes.after_eq]
  · rw [creates.after_eq]
    rfl

theorem exists_classTarget_of_deleteClass (done : Kernel.deleteClass request kernel = .ok () after) :
    ∃ qdisc handle, kernel.classTarget request.record.place = .ok (qdisc, handle) ∧
      after = (kernel.withoutClass request.record.place.link handle).remove
        request.record.place.link (kernel.attachedHandles request.record.place.link handle) := by
  obtain ⟨⟨qdisc, handle⟩, targeted, done⟩ := Handler.check_bind_eq_ok.mp done
  obtain ⟨_, _, done⟩ := Handler.check_bind_eq_ok.mp done
  cases done
  exact ⟨qdisc, handle, targeted, rfl⟩

theorem Rooted.deleteClass (rooted : Rooted links kernel.qdiscs)
    (done : Kernel.deleteClass request kernel = .ok () after)
    (apart : ∀ qdisc, kernel.classTarget request.record.place ≠ .ok (qdisc, .root)) :
    Rooted links after.qdiscs := by
  obtain ⟨qdisc, handle, targeted, rfl⟩ := exists_classTarget_of_deleteClass done
  have start : Rooted links
      (kernel.withoutClass request.record.place.link handle).qdiscs := rooted
  refine start.remove fun among member => ?_
  obtain ⟨attached, chosen, same⟩ := List.mem_map.mp member
  obtain ⟨present, suits⟩ := List.mem_filter.mp chosen
  obtain ⟨onLink, atClass⟩ := isAttached_iff.mp suits
  refine ⟨attached, present, onLink, same, fun atRoot => apart qdisc ?_⟩
  rw [targeted, ← atClass, atRoot]

/-- When a class is deleted, there are fewer classes afterwards. -/
theorem classes_ne_of_deleteClass (done : Kernel.deleteClass request kernel = .ok () after) :
    after.classes ≠ kernel.classes := by
  obtain ⟨qdisc, handle, deletes⟩ := deleteClass_eq_ok done
  obtain ⟨tclass, found⟩ := Option.isSome_iff_exists.mp deletes.found
  have member : tclass ∈ kernel.classes := List.mem_of_find?_eq_some found
  have fewer : (kernel.withoutClass request.record.place.link handle).classes.length =
      kernel.classes.length - 1 := List.length_eraseP_of_mem member (List.find?_some found)
  have some : 0 < kernel.classes.length := List.length_pos_of_mem member
  obtain ⟨removed, _, same⟩ :=
    exists_remove_eq (kernel.withoutClass request.record.place.link handle)
      request.record.place.link (kernel.attachedHandles request.record.place.link handle)
  have left := List.length_filter_le (leavesClass request.record.place.link removed)
    (kernel.withoutClass request.record.place.link handle).classes
  intro unchanged
  have length := congrArg List.length unchanged
  rw [deletes.after_eq, same] at length
  dsimp only at length
  omega

/-! ## What takes the qdisc of a link with it -/

/-- A qdisc that is deleted takes all qdiscs of its handle with it, wherever they are attached. -/
theorem exists_handle_ne_of_deleteQdisc
    (done : Kernel.deleteQdisc request kernel = .ok () after) :
    ∃ qdisc, kernel.child? request.record.place.link request.record.place.parent = some qdisc ∧
      ∀ other ∈ after.qdiscs, other.place.link = request.record.place.link →
        other.place.handle ≠ qdisc.place.handle := by
  obtain ⟨qdisc, deletes⟩ := deleteQdisc_eq_ok done
  have gone : ∀ other ∈ (kernel.remove request.record.place.link [qdisc.place.handle]).qdiscs,
      other.place.link = request.record.place.link → other.place.handle ≠ qdisc.place.handle :=
    fun other left onLink same =>
      handle_notMem_of_mem_remove left onLink (List.mem_singleton.mpr same)
  refine ⟨qdisc, deletes.found, ?_⟩
  rw [deletes.after_eq]
  dsimp only
  split
  · refine List.forall_mem_append.mpr ⟨gone, List.forall_mem_singleton.mpr fun _ same => ?_⟩
    have visible := deletes.visible
    rw [← same] at visible
    cases visible
  · exact gone

/-- A class of the number that stands for the link takes the qdisc of the link with it. -/
theorem parent_ne_root_of_deleteClass {qdisc : Entry}
    (done : Kernel.deleteClass request kernel = .ok () after)
    (target : kernel.classTarget request.record.place = .ok (qdisc, .root)) :
    ∀ other ∈ after.qdiscs, other.place.link = request.record.place.link →
      other.place.parent ≠ .root := by
  obtain ⟨_, handle, targeted, rfl⟩ := exists_classTarget_of_deleteClass done
  cases target.symm.trans targeted
  intro other left onLink atRoot
  have member : other ∈ kernel.qdiscs := (mem_qdiscs_remove.mp left).1
  have attached := List.mem_filter.mpr ⟨member, isAttached_iff.mpr ⟨onLink, atRoot⟩⟩
  exact handle_notMem_of_mem_remove left onLink (List.mem_map.mpr ⟨other, attached, rfl⟩)

/-- A class with another minor number has nothing to do with it. -/
theorem classTarget_ne_root {place : Placement} (minor : place.handle.minor ≠ 0xFFFF)
    (qdisc : Entry) : kernel.classTarget place ≠ .ok (qdisc, .root) := by
  intro targeted
  have handle := (classTarget_eq_ok targeted).handle_eq
  refine minor ?_
  rw [← Handle.minor_ofParts qdisc.place.handle.major place.handle.minor, ← handle]
  rfl

/-! ## The start -/

theorem qdiscs_ofLinks (links : List Link) :
    (ofLinks links).qdiscs = links.map fun link => .defaultRoot link.index := by
  suffices grown : ∀ kernel : Kernel, (links.foldl withLink kernel).qdiscs =
      kernel.qdiscs ++ links.map fun link => .defaultRoot link.index from grown .empty
  induction links with
  | nil => exact fun kernel => (List.append_nil _).symm
  | cons link links ih =>
      intro kernel
      rw [List.foldl_cons, ih]
      exact List.append_assoc _ _ _

theorem rooted_ofLinks (distinct : (links.map Link.index).Nodup) :
    Rooted links (ofLinks links).qdiscs := by
  have sound := sound_ofLinks distinct
  refine ⟨sound.qdiscHandles, sound.qdiscParents, ?_, ?_⟩
  · exact fun qdisc member nameless =>
      Handle.isRoot_iff.mp (sound.unnamed qdisc member nameless).1
  · intro link member
    refine ⟨.defaultRoot link.index, ?_, rfl, rfl⟩
    rw [qdiscs_ofLinks]
    exact List.mem_map_of_mem member

end Kernel

/-! ## Sessions -/

namespace Operation

/-- Whether a call that takes the kernel from one state to another has no side effect on the qdisc
of a link. If it takes the next handle for a qdisc, that handle is free, and if it removes a class,
this does not have the number of the place of the qdisc of the link. -/
def Spares (kernel after : Kernel) : Operation → Prop
  | mutateQdisc _ qdisc _ =>
    after.nextMajor ≠ kernel.nextMajor → kernel.nextHandle.isNone = false ∧
      kernel.qdisc? qdisc.place.link kernel.nextHandle = none
  | mutateClass mutation tclass _ =>
    mutation = .delete → after.classes ≠ kernel.classes →
      ∀ qdisc, kernel.classTarget tclass.place ≠ .ok (qdisc, .root)
  | _ => True

/-- A call takes the next handle only if it creates a qdisc without one. -/
theorem spares_of_free {mutation : Mutation} {qdisc : Qdisc} {clock : Clock} {kernel after : Kernel}
    (step : (mutateQdisc mutation qdisc clock).Step kernel after)
    (free : MessageFlag.isSet mutation.flags MessageFlag.create = true →
      qdisc.place.handle.isNone = true → kernel.nextHandle.isNone = false ∧
        kernel.qdisc? qdisc.place.link kernel.nextHandle = none) :
    (mutateQdisc mutation qdisc clock).Spares kernel after := by
  intro taken
  cases step with
  | idle => exact absurd rfl taken
  | @qdisc _ _ _ _ _ traffic placed handled =>
      rcases Mutation.qdiscHandler_eq_ok handled with ⟨_, deleted⟩ | ⟨_, done⟩
      · obtain ⟨_, deletes⟩ := Kernel.deleteQdisc_eq_ok deleted
        refine absurd ?_ taken
        rw [deletes.after_eq]
        dsimp only
        split
        · rfl
        · rfl
      rcases Kernel.newQdisc_eq_ok done with ⟨_, changes⟩ | ⟨_, _, _, _, creates⟩
      · exact absurd (congrArg Kernel.nextMajor changes.after_eq) taken
      · by_cases nameless : traffic.record.place.handle.isNone = true
        · exact free creates.creates (placed ▸ nameless)
        · obtain ⟨_, rfl⟩ := creates.taken_of_given nameless
          exact absurd (congrArg Kernel.nextMajor creates.after_eq) taken

theorem rooted_of_step {links : List Link} {operation : Operation} {kernel after : Kernel}
    (spares : operation.Spares kernel after) (step : operation.Step kernel after)
    (rooted : Kernel.Rooted links kernel.qdiscs) : Kernel.Rooted links after.qdiscs := by
  cases step with
  | idle => exact rooted
  | @qdisc mutation _ _ _ _ traffic placed handled =>
      unfold Spares at spares
      dsimp only at spares
      rw [← placed] at spares
      cases mutation with
      | delete => exact rooted.deleteQdisc handled
      | add => exact rooted.newQdisc handled spares
      | change => exact rooted.newQdisc handled spares
      | replace => exact rooted.newQdisc handled spares
  | @tclass mutation _ _ _ _ traffic placed handled =>
      unfold Spares at spares
      dsimp only at spares
      rw [← placed] at spares
      cases mutation with
      | delete =>
          exact rooted.deleteClass handled (spares rfl (Kernel.classes_ne_of_deleteClass handled))
      | add => exact (Kernel.qdiscs_newClass handled).symm ▸ rooted
      | change => exact (Kernel.qdiscs_newClass handled).symm ▸ rooted
      | replace => exact (Kernel.qdiscs_newClass handled).symm ▸ rooted

end Operation

namespace Endpoint

/-- Whether each call of a session spares the qdiscs of the links in what it does. -/
def Spared : Endpoint → List Operation → Prop
  | _, [] => True
  | endpoint, operation :: operations =>
    operation.Spares endpoint.kernel (operation.after endpoint).kernel ∧
      Spared (operation.after endpoint) operations

theorem rooted_of_spared {links : List Link} {operations : List Operation} {endpoint : Endpoint}
    (spared : endpoint.Spared operations) (rooted : Kernel.Rooted links endpoint.kernel.qdiscs) :
    Kernel.Rooted links (endpoint.session operations).kernel.qdiscs := by
  induction operations generalizing endpoint with
  | nil => exact rooted
  | cons operation operations ih =>
      exact ih spared.2 (Operation.rooted_of_step spared.1 (operation.step_after endpoint) rooted)

/-- A look for the qdisc of a link finds the one that is attached to it. -/
theorem exists_rootQdisc {endpoint : Endpoint} {link : UInt32} {clock : Clock} {root : Entry}
    {found : Option Qdisc}
    (alone : endpoint.kernel.qdiscs.filter (·.isAttached link .root) = [root])
    (looked : ((Dump.rootQdisc link clock).run transport endpoint).1 = .ok found) :
    ∃ qdisc, found = some qdisc ∧ qdisc.place = root.place := by
  obtain ⟨header, dumps, run⟩ := Dump.exists_run_exchange endpoint link
  unfold Dump.rootQdisc Dump.findQdisc at looked
  rw [run] at looked
  obtain ⟨all, listed, same⟩ := Outcome.map_eq_ok.mp looked
  obtain ⟨qdisc, reads, only⟩ :=
    @Dump.exists_filter_place_readQdiscs header endpoint.kernel clock link all root
      (·.parent == .root) dumps alone listed
  refine ⟨qdisc, ?_, reads.place⟩
  rw [← same]
  change all.find? (·.place.parent == .root) = _
  rw [← List.head?_filter, only]
  rfl

/-- After a session of calls that spare the qdiscs of the links, each link has exactly one qdisc that
is attached to it, and the client finds it if it can read the dump. -/
theorem rooted_session {links : List Link} {operations : List Operation}
    (distinct : (links.map Link.index).Nodup)
    (spared : (ofKernel (Kernel.ofLinks links)).Spared operations) :
    ∀ link ∈ links, ∃ root : Entry,
      ((ofKernel (Kernel.ofLinks links)).session operations).kernel.qdiscs.filter
        (·.isAttached link.index .root) = [root] ∧
      ∀ clock found, ((Dump.rootQdisc link.index clock).run transport
          ((ofKernel (Kernel.ofLinks links)).session operations)).1 = .ok found →
        ∃ qdisc, found = some qdisc ∧ qdisc.place = root.place := by
  intro link member
  have rooted := rooted_of_spared spared (Kernel.rooted_ofLinks distinct)
  obtain ⟨root, alone⟩ := rooted.exists_filter_eq member
  exact ⟨root, alone, fun clock found looked => exists_rootQdisc alone looked⟩

/-- A qdisc without handle that cannot be sent. -/
def unsendable : Qdisc :=
  .ofSettings ⟨3, .none, .ingress⟩ (.netem { Netem.empty with reorder := ⟨1⟩ })

/-- On the second of two links a qdisc without handle beside that of the link, another one that
fails while the next handle is in use, and a class that is deleted with the qdisc below it. -/
def besideRoot : List Operation :=
  [.mutateQdisc .add (.ofSettings ⟨3, .none, .ingress⟩ (.generic "ingress" none)) .highResolution,
    .mutateQdisc .add (.ofSettings ⟨3, .ofParts 1 0, .root⟩ (.hfsc ⟨2⟩)) .highResolution,
    .mutateClass .add (.ofSettings ⟨3, .ofParts 1 1, .root⟩ (.generic "hfsc" none))
      .highResolution,
    .mutateQdisc .add (.ofSettings ⟨3, .ofParts 0x8002 0, .ofParts 1 1⟩ (.generic "drr" none))
      .highResolution,
    .mutateQdisc .add unsendable .highResolution,
    .mutateClass .delete (.ofSettings ⟨3, .ofParts 1 1, .root⟩ (.generic "hfsc" none))
      .highResolution]

theorem rooted_session_besideRoot :
    ([⟨2, "eth0"⟩, ⟨3, "eth1"⟩].map Link.index).Nodup ∧
      (ofKernel (Kernel.ofLinks [⟨2, "eth0"⟩, ⟨3, "eth1"⟩])).Spared besideRoot ∧
      ∃ root : Entry, ((ofKernel (Kernel.ofLinks [⟨2, "eth0"⟩, ⟨3, "eth1"⟩])).session
        besideRoot).kernel.qdiscs.filter (·.isAttached 3 .root) = [root] := by
  have distinct : ([⟨2, "eth0"⟩, ⟨3, "eth1"⟩].map Link.index).Nodup := by decide
  have unchanged (endpoint : Endpoint) :
      (Operation.mutateQdisc .add unsendable .highResolution).after endpoint = endpoint := rfl
  have spared : (ofKernel (Kernel.ofLinks [⟨2, "eth0"⟩, ⟨3, "eth1"⟩])).Spared besideRoot := by
    refine ⟨?_, ?_, ?_, ?_, ?_, ?_, trivial⟩
    · exact Operation.spares_of_free (Operation.step_after _ _) fun _ _ => ⟨by decide, by decide⟩
    · exact Operation.spares_of_free (Operation.step_after _ _) fun _ nameless => nomatch nameless
    · exact fun deletes => nomatch deletes
    · exact Operation.spares_of_free (Operation.step_after _ _) fun _ nameless => nomatch nameless
    · exact fun taken => absurd (congrArg (·.kernel.nextMajor) (unchanged _)) taken
    · exact fun _ _ => Kernel.classTarget_ne_root (by decide)
  obtain ⟨root, alone, _⟩ :=
    rooted_session distinct spared ⟨3, "eth1"⟩ (List.mem_cons_of_mem _ List.mem_cons_self)
  exact ⟨distinct, spared, root, alone⟩

end Endpoint

end TrafficShaping
