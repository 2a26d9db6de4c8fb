import TrafficShaping.Proofs.Deletion
import TrafficShaping.Proofs.Session.Defaults

/-!
Handles that the kernel chooses.

A qdisc that comes without handle gets the next major number, and the kernel does not look whether
the number is in use. So the qdisc has a handle of its own exactly when no other one of the link has
it and the numbers, of which a handle holds 16 bits, have not come round to zero
(`Kernel.TakesNext`). This is so after every session in which the client gives a qdisc no number that
the kernel has yet to choose, and leaves the choice to the kernel only while there are numbers left
(`Operation.Reserves`): all numbers in use are then smaller than the next one (`Kernel.Ahead`).
-/

namespace TrafficShaping

namespace Kernel

variable {kernel after between : Kernel} {flags : UInt16} {request : TrafficRequest}

theorem toNat_nextHandle (kernel : Kernel) :
    kernel.nextHandle.raw.toNat = kernel.nextMajor.toNat % 65536 * 65536 := by
  unfold nextHandle
  rw [UInt32.toNat_shiftLeft]
  have small : (16 : UInt32).toNat % 32 = 16 := by decide
  rw [small, Nat.shiftLeft_eq]
  omega

theorem minor_nextHandle (kernel : Kernel) : kernel.nextHandle.minor = 0 := by
  refine UInt16.toNat_inj.mp ?_
  rw [Handle.toNat_minor, toNat_nextHandle, Nat.mul_mod_left]
  rfl

theorem toNat_major_nextHandle (kernel : Kernel) :
    kernel.nextHandle.major.toNat = kernel.nextMajor.toNat % 65536 := by
  rw [Handle.toNat_major, toNat_nextHandle, Nat.mul_div_cancel _ (by decide)]

theorem toNat_nextMajor_add_one (room : kernel.nextMajor.toNat < 0x10000) :
    (kernel.nextMajor + 1).toNat = kernel.nextMajor.toNat + 1 := by
  rw [UInt32.toNat_add]
  exact Nat.mod_eq_of_lt (Nat.lt_of_le_of_lt room (by decide))

/-! ## A handle of its own -/

/-- Whether a qdisc has a handle, without minor number, that no other qdisc of its link has. -/
structure Fresh (qdisc : Entry) (kernel : Kernel) : Prop where
  given : qdisc.place.handle.isNone = false
  minor : qdisc.place.handle.minor = 0
  alone : kernel.qdiscs.filter (·.isNamed qdisc.place.link qdisc.place.handle) = [qdisc]

/-- A kernel after a qdisc has been created at a place under the next handle. -/
structure TakesNext (before : Kernel) (place : Placement) (qdisc : Entry) (after : Kernel) : Prop
    where
  place_eq : qdisc.place = { place with handle := before.nextHandle }
  member : qdisc ∈ after.qdiscs
  next : after.nextMajor = before.nextMajor + 1
  /-- The handle is its own if it is one and was free. -/
  fresh_iff : Fresh qdisc after ↔ before.nextHandle.isNone = false ∧
    before.qdisc? place.link before.nextHandle = none

theorem CreatesQdisc.takesNext {kind : String} {attached : Option Entry} {handle : Handle}
    (creates : CreatesQdisc kernel flags request kind attached handle between after)
    (nameless : request.record.place.handle.isNone = true)
    (vacant : ∀ qdisc, attached = some qdisc → qdisc.place.handle.isNone = true) :
    ∃ qdisc, TakesNext kernel request.record.place qdisc after := by
  obtain ⟨rfl, rfl⟩ := creates.taken_of_isNone nameless
  obtain ⟨rest, qdiscs, old, stays⟩ := creates.exists_qdiscs_eq vacant
  refine ⟨⟨{ request.record.place with handle := kernel.nextHandle }, kind, request.options⟩, rfl, ?_,
    by rw [creates.after_eq]; rfl, ?_⟩
  · rw [qdiscs]
    exact List.mem_append_right _ List.mem_cons_self
  constructor
  · rintro ⟨given, _, alone⟩
    refine ⟨given, List.find?_eq_none.mpr fun other member named => ?_⟩
    -- A qdisc that has the handle already would stand before the new one.
    have numbered : other.place.handle.isNone = false := (isNamed_iff.mp named).2 ▸ given
    rw [qdiscs, List.filter_append, List.filter_cons_of_pos (isNamed_iff.mpr ⟨rfl, rfl⟩)] at alone
    have among := List.mem_filter.mpr ⟨stays other member numbered, named⟩
    rw [List.append_left_eq_self.mp alone] at among
    cases among
  · rintro ⟨given, unused⟩
    refine ⟨given, minor_nextHandle kernel, ?_⟩
    rw [qdiscs]
    exact filter_isNamed_concat unused old

theorem takesNext_of_newQdisc (done : newQdisc flags request kernel = .ok () after)
    (exclusive : MessageFlag.isSet flags MessageFlag.exclusive = true)
    (keeps : MessageFlag.isSet flags MessageFlag.replace = false)
    (nameless : request.record.place.handle.isNone = true) :
    ∃ qdisc, TakesNext kernel request.record.place qdisc after := by
  rcases newQdisc_eq_ok done with ⟨qdisc, changes⟩ | ⟨kind, attached, handle, between, creates⟩
  · exact Bool.noConfusion (exclusive.symm.trans changes.shared)
  · exact creates.takesNext nameless fun qdisc same =>
      isNone_of_exclusive done exclusive keeps (creates.found.trans same)

/-! ## Numbers in use -/

/-- Whether the major numbers of all qdiscs are smaller than the next one. -/
structure Ahead (kernel : Kernel) : Prop where
  positive : 0 < kernel.nextMajor.toNat
  qdiscs : ∀ qdisc ∈ kernel.qdiscs, qdisc.place.handle.major.toNat < kernel.nextMajor.toNat

/-- Whether a qdisc at a place leaves the choice of the numbers that are still to come to the
kernel. Without a handle there must be one. -/
def Reserves (kernel : Kernel) (place : Placement) : Prop :=
  if place.handle.isNone then kernel.nextMajor.toNat < 0x10000
  else place.handle.major.toNat < kernel.nextMajor.toNat

theorem toNat_major_defaultRoot (link : UInt32) :
    (Entry.defaultRoot link).place.handle.major.toNat = 0 :=
  (by decide : Handle.none.major.toNat = 0)

namespace Ahead

/-- The next number is free on every link, unless it has come round to zero. -/
theorem free (ahead : kernel.Ahead) (room : kernel.nextMajor.toNat < 0x10000) (link : UInt32) :
    kernel.nextHandle.isNone = false ∧ kernel.qdisc? link kernel.nextHandle = none := by
  have next := toNat_major_nextHandle kernel
  rw [Nat.mod_eq_of_lt room] at next
  constructor
  · refine Bool.eq_false_iff.mpr fun nameless => ?_
    have zero : kernel.nextHandle.major.toNat = 0 := by
      rw [Handle.isNone_iff.mp nameless]
      rfl
    exact absurd ahead.positive (by omega)
  · refine List.find?_eq_none.mpr fun other member named => ?_
    have before := ahead.qdiscs other member
    rw [(isNamed_iff.mp named).2, next] at before
    exact absurd before (Nat.lt_irrefl _)

theorem remove (ahead : kernel.Ahead) (link : UInt32) (handles : List Handle) :
    (kernel.remove link handles).Ahead where
  positive := ahead.positive
  qdiscs qdisc left := ahead.qdiscs qdisc (mem_qdiscs_remove.mp left).1

theorem withQdisc (ahead : kernel.Ahead) {qdisc : Entry}
    (new : qdisc.place.handle.major.toNat < kernel.nextMajor.toNat) :
    (kernel.withQdisc qdisc).Ahead where
  positive := ahead.positive
  qdiscs := List.forall_mem_append.mpr ⟨ahead.qdiscs, List.forall_mem_singleton.mpr new⟩

theorem withDefaultRoot (ahead : kernel.Ahead) (link : UInt32) :
    (kernel.withQdisc (.defaultRoot link)).Ahead :=
  ahead.withQdisc ((toNat_major_defaultRoot link).symm ▸ ahead.positive)

theorem newQdisc (ahead : kernel.Ahead)
    (done : Kernel.newQdisc flags request kernel = .ok () after)
    (reserves : MessageFlag.isSet flags MessageFlag.create = true →
      kernel.Reserves request.record.place) : after.Ahead := by
  rcases newQdisc_eq_ok done with ⟨qdisc, changes⟩ | ⟨kind, attached, handle, between, creates⟩
  · rw [changes.after_eq]
    exact ⟨ahead.positive, @forall_place_setOptions
      (·.handle.major.toNat < kernel.nextMajor.toNat) _ ahead.qdiscs _ _⟩
  · have reserved := reserves creates.creates
    unfold Reserves at reserved
    rw [creates.after_eq]
    by_cases nameless : request.record.place.handle.isNone = true
    · obtain ⟨rfl, rfl⟩ := creates.taken_of_isNone nameless
      rw [if_pos nameless] at reserved
      have more := toNat_nextMajor_add_one reserved
      have start : Ahead { kernel with nextMajor := kernel.nextMajor + 1 } := by
        refine ⟨more ▸ Nat.succ_pos _, fun qdisc member => ?_⟩
        dsimp only
        rw [more]
        exact Nat.lt_succ_of_lt (ahead.qdiscs qdisc member)
      refine (start.remove _ _).withQdisc ?_
      change kernel.nextHandle.major.toNat < (kernel.nextMajor + 1).toNat
      rw [toNat_major_nextHandle, more]
      exact Nat.lt_succ_of_le (Nat.mod_le _ _)
    · obtain ⟨rfl, rfl⟩ := creates.taken_of_given nameless
      rw [if_neg nameless] at reserved
      exact (ahead.remove _ _).withQdisc reserved

theorem deleteQdisc (ahead : kernel.Ahead)
    (done : Kernel.deleteQdisc request kernel = .ok () after) : after.Ahead := by
  obtain ⟨qdisc, deletes⟩ := deleteQdisc_eq_ok done
  have left := ahead.remove request.record.place.link [qdisc.place.handle]
  rw [deletes.after_eq]
  dsimp only
  split
  · exact left.withDefaultRoot _
  · exact left

theorem newClass (ahead : kernel.Ahead)
    (done : Kernel.newClass flags request kernel = .ok () after) : after.Ahead := by
  obtain ⟨_, rfl⟩ := exists_classes_of_newClass done
  exact ⟨ahead.positive, ahead.qdiscs⟩

theorem deleteClass (ahead : kernel.Ahead)
    (done : Kernel.deleteClass request kernel = .ok () after) : after.Ahead := by
  obtain ⟨qdisc, handle, _, rfl⟩ := exists_classTarget_of_deleteClass done
  have start : (kernel.withoutClass request.record.place.link handle).Ahead :=
    ⟨ahead.positive, ahead.qdiscs⟩
  exact start.remove _ _

end Ahead

theorem nextMajor_ofLinks (links : List Link) : (ofLinks links).nextMajor = 0x8001 := by
  suffices same : ∀ kernel : Kernel, (links.foldl withLink kernel).nextMajor = kernel.nextMajor from
    same .empty
  induction links with
  | nil => exact fun _ => rfl
  | cons link links ih => exact fun kernel => ih (kernel.withLink link)

theorem ahead_ofLinks (links : List Link) : (ofLinks links).Ahead := by
  have positive : 0 < (ofLinks links).nextMajor.toNat := by
    rw [nextMajor_ofLinks]
    decide
  refine ⟨positive, ?_⟩
  rw [qdiscs_ofLinks]
  intro qdisc member
  obtain ⟨link, _, rfl⟩ := List.mem_map.mp member
  rw [toNat_major_defaultRoot]
  exact positive

/-- A qdisc gets a handle of its own, so the tables remain a tree. -/
theorem Sound.newQdisc_of_ahead (sound : kernel.Sound) (ahead : kernel.Ahead)
    (done : Kernel.newQdisc flags request kernel = .ok () after)
    (reserves : MessageFlag.isSet flags MessageFlag.create = true →
      kernel.Reserves request.record.place) : after.Sound := by
  rcases newQdisc_eq_ok done with ⟨qdisc, changes⟩ | ⟨kind, attached, handle, between, creates⟩
  · rw [changes.after_eq]
    exact sound.setQdiscOptions _ _
  · have reserved := reserves creates.creates
    unfold Reserves at reserved
    by_cases nameless : request.record.place.handle.isNone = true
    · obtain ⟨rfl, rfl⟩ := creates.taken_of_isNone nameless
      rw [if_pos nameless] at reserved
      obtain ⟨given, unused⟩ := ahead.free reserved request.record.place.link
      exact sound.createsQdisc_of_free creates (minor_nextHandle kernel) given unused
    · exact sound.createsQdisc creates nameless

theorem nextMajor_newQdisc (done : newQdisc flags request kernel = .ok () after) :
    after.nextMajor = kernel.nextMajor ∨ after.nextMajor = kernel.nextMajor + 1 := by
  rcases newQdisc_eq_ok done with ⟨qdisc, changes⟩ | ⟨kind, attached, handle, between, creates⟩
  · rw [changes.after_eq]
    exact .inl rfl
  · rw [creates.after_eq]
    by_cases nameless : request.record.place.handle.isNone = true
    · obtain ⟨_, rfl⟩ := creates.taken_of_isNone nameless
      exact .inr rfl
    · obtain ⟨_, rfl⟩ := creates.taken_of_given nameless
      exact .inl rfl

theorem Sound.numbered (sound : kernel.Sound) : ∀ qdisc ∈ kernel.qdiscs, Numbered qdisc.place :=
  fun qdisc member => ⟨sound.plain qdisc member, fun none => (sound.unnamed qdisc member none).1⟩

/-- Whether the tables are a tree with numbers that the kernel has passed. -/
structure Counted (kernel : Kernel) : Prop where
  sound : kernel.Sound
  ahead : kernel.Ahead

end Kernel

/-! ## Sessions -/

namespace Operation

/-- Whether a call, if it may create a qdisc, leaves the choice of the numbers that are still to come
to the kernel. -/
def Reserves (kernel : Kernel) : Operation → Prop
  | mutateQdisc mutation qdisc _ =>
    MessageFlag.isSet mutation.flags MessageFlag.create = true → kernel.Reserves qdisc.place
  | _ => True

theorem counted_of_step (operation : Operation) (kernel after : Kernel)
    (reserves : operation.Reserves kernel) (step : operation.Step kernel after)
    (counted : kernel.Counted) : after.Counted := by
  obtain ⟨sound, ahead⟩ := counted
  cases step with
  | idle => exact ⟨sound, ahead⟩
  | qdisc placed handled =>
      rcases Mutation.qdiscHandler_eq_ok handled with ⟨_, deleted⟩ | ⟨_, done⟩
      · exact ⟨sound.deleteQdisc deleted, ahead.deleteQdisc deleted⟩
      · unfold Reserves at reserves
        dsimp only at reserves
        rw [← placed] at reserves
        exact ⟨sound.newQdisc_of_ahead ahead done reserves, ahead.newQdisc done reserves⟩
  | tclass _ handled =>
      rcases Mutation.classHandler_eq_ok handled with ⟨_, deleted⟩ | ⟨_, done⟩
      · exact ⟨sound.deleteClass deleted, ahead.deleteClass deleted⟩
      · exact ⟨sound.newClass done, ahead.newClass done⟩

/-- Whether a qdisc that the call may create comes without handle or with a number below those that
the kernel chooses from. -/
def KeepsBelow : Operation → Prop
  | mutateQdisc mutation qdisc _ =>
    MessageFlag.isSet mutation.flags MessageFlag.create = true →
      qdisc.place.handle.major.toNat < 0x8001
  | _ => True

variable {operation : Operation} {kernel after : Kernel}

theorem KeepsBelow.reserves (below : operation.KeepsBelow)
    (passed : 0x8001 ≤ kernel.nextMajor.toNat) (room : kernel.nextMajor.toNat < 0x10000) :
    operation.Reserves kernel := by
  cases operation with
  | mutateQdisc mutation qdisc clock =>
      intro creates
      unfold Kernel.Reserves
      split
      · exact room
      · exact Nat.lt_of_lt_of_le (below creates) passed
  | mutateClass mutation tclass clock => trivial
  | listQdiscs link clock => trivial
  | findQdisc link clock condition => trivial
  | listClasses link parent => trivial
  | resolveLink link => trivial

/-- A call takes one number at most. -/
theorem Step.nextMajor (step : operation.Step kernel after)
    (room : kernel.nextMajor.toNat < 0x10000) :
    kernel.nextMajor.toNat ≤ after.nextMajor.toNat ∧
      after.nextMajor.toNat ≤ kernel.nextMajor.toNat + 1 := by
  have more := Kernel.toNat_nextMajor_add_one room
  suffices next : after.nextMajor = kernel.nextMajor ∨ after.nextMajor = kernel.nextMajor + 1 by
    rcases next with same | taken
    · rw [same]
      omega
    · rw [taken, more]
      omega
  cases step with
  | idle => exact .inl rfl
  | qdisc _ handled =>
      rcases Mutation.qdiscHandler_eq_ok handled with ⟨_, deleted⟩ | ⟨_, done⟩
      · obtain ⟨_, _, rfl⟩ := Kernel.exists_tables_of_deleteQdisc deleted
        exact .inl rfl
      · exact Kernel.nextMajor_newQdisc done
  | tclass _ handled =>
      rcases Mutation.classHandler_eq_ok handled with ⟨_, deleted⟩ | ⟨_, done⟩
      · obtain ⟨_, _, rfl⟩ := Kernel.exists_tables_of_deleteClass deleted
        exact .inl rfl
      · obtain ⟨_, rfl⟩ := Kernel.exists_classes_of_newClass done
        exact .inl rfl

end Operation

namespace Endpoint

variable {links : List Link} {operations : List Operation}

theorem counted_session (distinct : (links.map Link.index).Nodup)
    (reserved : (ofKernel (.ofLinks links)).Permits Operation.Reserves operations) :
    ((ofKernel (.ofLinks links)).session operations).kernel.Counted :=
  holds_session_of_permits Operation.counted_of_step operations _
    ⟨Kernel.sound_ofLinks distinct, Kernel.ahead_ofLinks links⟩ reserved

/-- It is enough that the client keeps to the numbers below those of the kernel and makes fewer calls
than the kernel has numbers. -/
theorem permits_reserves (below : ∀ operation ∈ operations, operation.KeepsBelow)
    (few : operations.length < 0x7FFF) :
    (ofKernel (.ofLinks links)).Permits Operation.Reserves operations ∧
      ((ofKernel (.ofLinks links)).session operations).kernel.nextMajor.toNat < 0x10000 := by
  suffices all : ∀ endpoint : Endpoint, 0x8001 ≤ endpoint.kernel.nextMajor.toNat →
      endpoint.kernel.nextMajor.toNat + operations.length < 0x10000 →
      endpoint.Permits Operation.Reserves operations ∧
        (endpoint.session operations).kernel.nextMajor.toNat < 0x10000 by
    have start : (Kernel.ofLinks links).nextMajor.toNat = 0x8001 := by
      rw [Kernel.nextMajor_ofLinks]
      decide
    refine all _ ?_ ?_
    · exact Nat.le_of_eq start.symm
    · change (Kernel.ofLinks links).nextMajor.toNat + _ < _
      omega
  clear few
  induction operations with
  | nil => exact fun endpoint _ room => ⟨trivial, room⟩
  | cons operation operations ih =>
      intro endpoint passed room
      rw [List.length_cons] at room
      have reserves := (below operation List.mem_cons_self).reserves passed (by omega)
      have next := (operation.step_after endpoint).nextMajor (by omega)
      obtain ⟨permits, last⟩ := ih (fun later member => below later (List.mem_cons_of_mem _ member))
        (operation.after endpoint) (by omega) (by omega)
      exact ⟨⟨reserves, permits⟩, last⟩

end Endpoint

/-! ## Additions -/

namespace Mutation

variable {qdisc : Qdisc} {clock : Clock} {endpoint added : Endpoint} {entry : Entry}

/-- Whether a look for the handle of a qdisc finds the qdisc if it has an outcome. -/
def Finds (entry : Entry) (added : Endpoint) : Prop :=
  ∀ clock found listed, (Dump.qdiscOfHandle entry.place.link entry.place.handle clock).run
    Endpoint.transport added = (.ok found, listed) →
      ∃ qdisc, found = some qdisc ∧ Dump.ReadsAs clock entry qdisc

/-- Whether a deletion that is about the handle of a qdisc or about its place removes the subtree of
the qdisc and nothing besides. -/
def DeletesAlone (entry : Entry) (added : Endpoint) : Prop :=
  ∀ qdisc clock deleted, qdisc.place.link = entry.place.link →
    (qdisc.place.handle = entry.place.handle ∨ qdisc.place.parent = entry.place.parent) →
    (delete.ofQdisc qdisc clock).run Endpoint.transport added = (.ok (), deleted) →
      ∃ removed, Kernel.RemovesSubtree added.kernel qdisc.place entry removed deleted.kernel

theorem takesNext_of_add (nameless : qdisc.place.handle.isNone = true)
    (done : (add.ofQdisc qdisc clock).run Endpoint.transport endpoint = (.ok (), added)) :
    ∃ entry, Kernel.TakesNext endpoint.kernel qdisc.place entry added.kernel := by
  have runs := runs_ofQdisc add qdisc clock endpoint
  rw [done] at runs
  cases runs with
  | accepted _ _ placed handled =>
      rw [← placed] at nameless ⊢
      exact Kernel.takesNext_of_newQdisc handled (by decide) (by decide) nameless

theorem finds_of_fresh (fresh : Kernel.Fresh entry added.kernel) : Finds entry added :=
  fun _ _ _ => Dump.exists_qdiscOfHandle fresh.alone

theorem deletesAlone_of_fresh (sound : added.kernel.Sound) (member : entry ∈ added.kernel.qdiscs)
    (fresh : Kernel.Fresh entry added.kernel) : DeletesAlone entry added := by
  intro qdisc clock deleted onLink about done
  have runs := runs_ofQdisc delete qdisc clock added
  rw [done] at runs
  cases runs with
  | accepted _ _ placed handled =>
      obtain ⟨top, deletes⟩ := Kernel.deleteQdisc_eq_ok handled
      obtain ⟨removed, removes⟩ := deletes.removesSubtree sound.numbered
      obtain ⟨present, topLink, topParent⟩ := Kernel.mem_qdiscs_of_child? deletes.found
      have same := deletes.handle
      rw [placed] at same topLink topParent removes
      have isEntry : top = entry := by
        rcases about with handle | parent
        · rw [handle] at same
          exact sound.qdiscHandles.eq_of_same present member (topLink.trans onLink)
            (same.resolve_left (Bool.eq_false_iff.mp fresh.given))
        · exact sound.qdiscParents.eq_of_same present member (topLink.trans onLink)
            (topParent.trans parent)
      exact ⟨removed, isEntry ▸ removes⟩

/-- Whatever the state of the kernel, a qdisc that is added without handle gets the next number, and
whether it can be told from others by it depends on whether that was free. After a session that has
left the choice of the numbers to come to the kernel, it was, and the qdisc is found and deleted by
its handle like any other. -/
theorem fresh_of_add (clock : Clock) :
    (∀ endpoint qdisc added, qdisc.place.handle.isNone = true →
      (add.ofQdisc qdisc clock).run Endpoint.transport endpoint = (.ok (), added) →
      ∃ entry, Kernel.TakesNext endpoint.kernel qdisc.place entry added.kernel ∧
        (Kernel.Fresh entry added.kernel → Finds entry added)) ∧
    (∀ links operations, (links.map Link.index).Nodup →
      (Endpoint.ofKernel (.ofLinks links)).Permits Operation.Reserves operations →
      ((Endpoint.ofKernel (.ofLinks links)).session operations).kernel.nextMajor.toNat < 0x10000 →
      ∀ qdisc added, qdisc.place.handle.isNone = true →
        (add.ofQdisc qdisc clock).run Endpoint.transport
          ((Endpoint.ofKernel (.ofLinks links)).session operations) = (.ok (), added) →
        ∃ entry, Kernel.TakesNext
            ((Endpoint.ofKernel (.ofLinks links)).session operations).kernel qdisc.place entry
            added.kernel ∧
          Kernel.Fresh entry added.kernel ∧ Finds entry added ∧ DeletesAlone entry added) := by
  constructor
  · intro endpoint qdisc added nameless done
    obtain ⟨entry, takes⟩ := takesNext_of_add nameless done
    exact ⟨entry, takes, finds_of_fresh⟩
  · intro links operations distinct reserved room qdisc added nameless done
    have counted := Endpoint.counted_session distinct reserved
    obtain ⟨entry, takes⟩ := takesNext_of_add nameless done
    have fresh := takes.fresh_iff.mpr (counted.ahead.free room qdisc.place.link)
    have reserves : (Operation.mutateQdisc .add qdisc clock).Reserves
        ((Endpoint.ofKernel (.ofLinks links)).session operations).kernel := by
      intro _
      unfold Kernel.Reserves
      rw [if_pos nameless]
      exact room
    have step := (Operation.mutateQdisc .add qdisc clock).step_after
      ((Endpoint.ofKernel (.ofLinks links)).session operations)
    unfold Operation.after at step
    dsimp only at step
    rw [done] at step
    have after := Operation.counted_of_step _ _ _ reserves step counted
    exact ⟨entry, takes, fresh, finds_of_fresh fresh,
      deletesAlone_of_fresh after.sound takes.member fresh⟩

/-- A qdisc for received packets whose handle the kernel is to choose. -/
def receivingUnnamed : Qdisc := .ofSettings ⟨2, .none, .ingress⟩ (.generic "ingress" none)

theorem fresh_of_add_receivingUnnamed :
    ([⟨2, "eth0"⟩].map Link.index).Nodup ∧
      (Endpoint.ofKernel (.ofLinks [⟨2, "eth0"⟩])).Permits Operation.Reserves twoLevels ∧
      ((Endpoint.ofKernel (.ofLinks [⟨2, "eth0"⟩])).session twoLevels).kernel.nextMajor.toNat <
        0x10000 ∧
      receivingUnnamed.place.handle.isNone = true ∧
      ∃ added entry,
        (add.ofQdisc receivingUnnamed .highResolution).run Endpoint.transport
          ((Endpoint.ofKernel (.ofLinks [⟨2, "eth0"⟩])).session twoLevels) = (.ok (), added) ∧
        Kernel.TakesNext
          ((Endpoint.ofKernel (.ofLinks [⟨2, "eth0"⟩])).session twoLevels).kernel
          receivingUnnamed.place entry added.kernel ∧
        Kernel.Fresh entry added.kernel ∧ Finds entry added ∧ DeletesAlone entry added := by
  have distinct : ([⟨2, "eth0"⟩].map Link.index).Nodup := by decide
  have below : ∀ operation ∈ twoLevels, operation.KeepsBelow := by
    intro operation member
    simp only [twoLevels, List.mem_cons, List.not_mem_nil, or_false] at member
    rcases member with rfl | rfl | rfl
    · exact fun _ => (by decide : ownRoot.place.handle.major.toNat < 0x8001)
    · trivial
    · exact fun _ => (by decide : leaf.place.handle.major.toNat < 0x8001)
  obtain ⟨reserved, room⟩ := @Endpoint.permits_reserves [⟨2, "eth0"⟩] _ below (by decide)
  have nameless : receivingUnnamed.place.handle.isNone = true := by decide
  obtain ⟨options, kernel_eq⟩ := exists_kernel_session_twoLevels
  obtain ⟨request, made⟩ :
      ∃ request, add.qdiscRequest receivingUnnamed .highResolution = .ok request := ⟨_, rfl⟩
  obtain ⟨after, handled⟩ : ∃ after, add.qdiscHandler
      ⟨TrafficRecord.ofPlace receivingUnnamed.place 0, some "ingress", none⟩
      ((Endpoint.ofKernel (.ofLinks [⟨2, "eth0"⟩])).session twoLevels).kernel = .ok () after := by
    rw [kernel_eq]
    exact ⟨_, rfl⟩
  have done := (runs_ofQdisc add receivingUnnamed .highResolution _).eq_of_conveys
    (conveys_qdiscRequest (by decide) receivingUnnamed .highResolution) (by decide) made rfl handled
  obtain ⟨entry, takes, fresh, finds, deletes⟩ :=
    (fresh_of_add .highResolution).2 _ _ distinct reserved room _ _ nameless done
  exact ⟨distinct, reserved, room, nameless, _, entry, done, takes, fresh, finds, deletes⟩

end Mutation

end TrafficShaping
