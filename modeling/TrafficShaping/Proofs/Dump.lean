import TrafficShaping.Proofs.Exchange
import TrafficShaping.Proofs.Kernel.Reports
import TrafficShaping.Proofs.Kernel.Tables

/-!
What the client gets out of a dump.

The payloads of a dump are the reports of the kernel, all of them and in their order
(`Dump.payloads_replies`). A list of qdiscs has one qdisc for each entry that is on the link, at the
place of the entry (`Dump.readQdiscs_eq_ok`), so an entry that is alone in its table under its
handle, or at its parent, is alone in the list (`Dump.exists_filter_place_readQdiscs`).
-/

namespace TrafficShaping

namespace Dump

variable {header : MessageHeader} {type : UInt16}

/-- The replies to a dump are one message for each report and one that ends it. -/
theorem replies_of_dump (dumps : MessageFlag.isSet header.flags MessageFlag.dump = true)
    (bodies : List Bytes) :
    Endpoint.replies header (.ok (bodies.map (type, ·))) =
      bodies.map (Endpoint.reply header type MessageFlag.multi) ++
        [Endpoint.reply header MessageType.done MessageFlag.multi (Bytes.zeros 4)] := by
  unfold Endpoint.replies
  dsimp only
  rw [dumps, if_pos rfl, List.map_map]
  rfl

theorem payloads_replies (dumps : MessageFlag.isSet header.flags MessageFlag.dump = true)
    (notError : (type == MessageType.error) = false) (notDone : (type == MessageType.done) = false)
    (bodies : List Bytes) :
    payloads type (Endpoint.replies header (.ok (bodies.map (type, ·)))) = .ok bodies := by
  have contents : (bodies.map (Endpoint.reply header type MessageFlag.multi)).map Message.payload =
      bodies := by
    rw [List.map_map]
    exact List.map_id bodies
  have types : ∀ reply ∈ bodies.map (Endpoint.reply header type MessageFlag.multi),
      reply.header.type = type := by
    intro reply member
    obtain ⟨body, _, rfl⟩ := List.mem_map.mp member
    rfl
  unfold payloads
  rw [replies_of_dump dumps]
  generalize bodies.map (Endpoint.reply header type MessageFlag.multi) = reports at contents types
  have checked : Message.checkAll (reports ++
      [Endpoint.reply header MessageType.done MessageFlag.multi (Bytes.zeros 4)]) = .ok () := by
    refine Message.checkAll_of_isError fun reply member => ?_
    rcases List.mem_append.mp member with report | last
    · rw [MessageHeader.isError, types reply report]
      exact notError
    · rw [List.mem_singleton.mp last]
      rfl
  have before : (reports ++
      [Endpoint.reply header MessageType.done MessageFlag.multi (Bytes.zeros 4)]).takeWhile
        (!·.isDone) = reports := by
    have going : ∀ reply ∈ reports, (!reply.isDone) = true := by
      intro reply report
      rw [Message.isDone, MessageHeader.isDone, types reply report, notDone]
      rfl
    rw [List.takeWhile_append_of_pos going]
    exact List.append_nil _
  have wanted : reports.filter (·.header.type == type) = reports :=
    List.filter_eq_self.mpr fun reply report => beq_iff_eq.mpr (types reply report)
  rw [checked]
  change Except.ok _ = _
  rw [before, wanted, contents]

end Dump

/-- A function that may fail has results for a list when it has one for each value. -/
theorem Outcome.mapM_eq_ok {α β ε : Type} {f : α → Except ε β} {values : List α} :
    ∀ {results : List β}, values.mapM f = .ok results ↔
      List.Forall₂ (fun value result => f value = .ok result) values results := by
  induction values with
  | nil =>
      intro results
      rw [List.forall₂_nil_left_iff, List.mapM_nil]
      exact ⟨fun done => (Except.ok.inj done).symm, fun same => same ▸ rfl⟩
  | cons first rest ih =>
      intro results
      rw [List.mapM_cons, List.forall₂_cons_left_iff]
      constructor
      · intro done
        obtain ⟨result, own, done⟩ := bind_eq_ok.mp done
        obtain ⟨later, mapped, done⟩ := bind_eq_ok.mp done
        exact ⟨result, later, own, ih.mp mapped, (Except.ok.inj done).symm⟩
      · rintro ⟨result, later, own, mapped, rfl⟩
        exact bind_eq_ok.mpr ⟨result, own, bind_eq_ok.mpr ⟨later, ih.mpr mapped, rfl⟩⟩

/-! ## Qdiscs -/

namespace Dump

/-- How often an entry is reported to be in use. -/
def references (entry : Entry) : UInt32 := if entry.place.parent.isRoot then 2 else 1

/-- The qdisc that the client makes of an entry. -/
def ReadsAs (clock : Clock) (entry : Entry) (qdisc : Qdisc) : Prop :=
  Qdisc.read (entry.report entry.place.parent (references entry)) clock = .ok qdisc

theorem ReadsAs.place {clock : Clock} {entry : Entry} {qdisc : Qdisc}
    (reads : ReadsAs clock entry qdisc) : qdisc.place = entry.place :=
  Qdisc.place_of_read_report reads

variable {header : MessageHeader} {kernel : Kernel} {clock : Clock} {link : UInt32}
  {all : List Qdisc}

/-- A list has one qdisc for each entry of the link in the order of the dump. -/
theorem readQdiscs_eq_ok (dumps : MessageFlag.isSet header.flags MessageFlag.dump = true) :
    readQdiscs (some link) clock (Endpoint.replies header (.ok kernel.dumpQdiscs)) = .ok all ↔
      ∃ read, List.Forall₂ (ReadsAs clock) (kernel.qdiscs.mergeSort Kernel.dumpsBefore) read ∧
        read.filter (link == ·.place.link) = all := by
  have bodies : kernel.dumpQdiscs =
      ((kernel.qdiscs.mergeSort Kernel.dumpsBefore).map fun entry =>
        entry.report entry.place.parent (references entry)).map (MessageType.newQdisc, ·) := by
    rw [List.map_map]
    rfl
  have mapM_iff : ∀ read, ((kernel.qdiscs.mergeSort Kernel.dumpsBefore).map fun entry =>
      entry.report entry.place.parent (references entry)).mapM (Qdisc.read · clock) = .ok read ↔
        List.Forall₂ (ReadsAs clock) (kernel.qdiscs.mergeSort Kernel.dumpsBefore) read := by
    intro read
    rw [Outcome.mapM_eq_ok, List.forall₂_map_left_iff]
    rfl
  unfold readQdiscs
  rw [bodies, payloads_replies dumps (by decide) (by decide)]
  constructor
  · intro listed
    obtain ⟨_, found, listed⟩ := Outcome.bind_eq_ok.mp listed
    cases found
    obtain ⟨read, mapped, same⟩ := Outcome.bind_eq_ok.mp listed
    exact ⟨read, (mapM_iff read).mp mapped, Except.ok.inj same⟩
  · rintro ⟨read, matched, rfl⟩
    have mapped := (mapM_iff read).mpr matched
    exact Outcome.bind_eq_ok.mpr ⟨_, rfl, Outcome.bind_eq_ok.mpr ⟨read, mapped, rfl⟩⟩

/-- There is a list when every entry can be read. -/
theorem exists_readQdiscs (dumps : MessageFlag.isSet header.flags MessageFlag.dump = true)
    (readable : ∀ entry ∈ kernel.qdiscs, ∃ qdisc, ReadsAs clock entry qdisc) (link : UInt32) :
    ∃ all, readQdiscs (some link) clock (Endpoint.replies header (.ok kernel.dumpQdiscs)) =
      .ok all := by
  have inDump : ∀ entry ∈ kernel.qdiscs.mergeSort Kernel.dumpsBefore,
      ∃ qdisc, ReadsAs clock entry qdisc := fun entry member =>
    readable entry ((List.mergeSort_perm _ _).mem_iff.mp member)
  obtain ⟨read, matched⟩ : ∃ read,
      List.Forall₂ (ReadsAs clock) (kernel.qdiscs.mergeSort Kernel.dumpsBefore) read := by
    generalize kernel.qdiscs.mergeSort Kernel.dumpsBefore = entries at inDump
    induction entries with
    | nil => exact ⟨[], .nil⟩
    | cons first rest ih =>
        obtain ⟨qdisc, own⟩ := inDump first List.mem_cons_self
        obtain ⟨read, later⟩ := ih fun entry member => inDump entry (List.mem_cons_of_mem _ member)
        exact ⟨qdisc :: read, .cons own later⟩
  exact ⟨_, (readQdiscs_eq_ok dumps).mpr ⟨read, matched, rfl⟩⟩

/-- An entry whose place is the only one of its link to satisfy a condition is alone in the list. -/
theorem exists_filter_place_readQdiscs {entry : Entry} {condition : Placement → Bool}
    (dumps : MessageFlag.isSet header.flags MessageFlag.dump = true)
    (alone : kernel.qdiscs.filter (fun entry => entry.place.link == link && condition entry.place) =
      [entry])
    (listed : readQdiscs (some link) clock (Endpoint.replies header (.ok kernel.dumpQdiscs)) =
      .ok all) :
    ∃ qdisc, ReadsAs clock entry qdisc ∧ all.filter (condition ·.place) = [qdisc] := by
  obtain ⟨read, matched, rfl⟩ := (readQdiscs_eq_ok dumps).mp listed
  have sorted : (kernel.qdiscs.mergeSort Kernel.dumpsBefore).filter
      (fun entry => entry.place.link == link && condition entry.place) = [entry] := by
    have order := (List.mergeSort_perm kernel.qdiscs Kernel.dumpsBefore).filter
      fun entry => entry.place.link == link && condition entry.place
    rw [alone] at order
    exact List.perm_singleton.mp order
  have agree : Relator.LiftFun (ReadsAs clock) (· ↔ ·)
      (fun a => (a.place.link == link && condition a.place) = true)
      fun b => (condition b.place && link == b.place.link) = true := by
    intro a b reads
    dsimp only
    rw [reads.place, Bool.and_comm, Bool.beq_comm]
  have filtered := List.rel_filter agree matched
  rw [sorted] at filtered
  obtain ⟨qdisc, rest, reads, ends, same⟩ := List.forall₂_cons_left_iff.mp filtered
  rw [List.forall₂_nil_left_iff.mp ends] at same
  rw [List.filter_filter]
  exact ⟨qdisc, reads, same⟩

/-- An entry that is alone under its handle is alone in the list. -/
theorem exists_filter_readQdiscs {entry : Entry} {handle : Handle}
    (dumps : MessageFlag.isSet header.flags MessageFlag.dump = true)
    (alone : kernel.qdiscs.filter (·.isNamed link handle) = [entry])
    (listed : readQdiscs (some link) clock (Endpoint.replies header (.ok kernel.dumpQdiscs)) =
      .ok all) :
    ∃ qdisc, ReadsAs clock entry qdisc ∧ all.filter (·.place.handle == handle) = [qdisc] :=
  @exists_filter_place_readQdiscs header kernel clock link all entry (·.handle == handle) dumps alone
    listed

/-- Every call that asks for qdiscs gets to interpret the same dump. -/
theorem exists_run_exchange (endpoint : Endpoint) (link : UInt32) :
    ∃ header : MessageHeader, MessageFlag.isSet header.flags MessageFlag.dump = true ∧
      ∀ {α : Type} (interpret : List Message → Except Error α),
        (Call.exchange (request MessageType.getQdisc link .none) interpret).run Endpoint.transport
          endpoint =
          (interpret (Endpoint.replies header (.ok endpoint.kernel.dumpQdiscs)),
            endpoint.received (request MessageType.getQdisc link .none) endpoint.kernel) := by
  have accepted : Kernel.respond (request MessageType.getQdisc link .none) endpoint.kernel =
      .ok endpoint.kernel.dumpQdiscs endpoint.kernel := by
    have type : (request MessageType.getQdisc link .none).type = MessageType.getQdisc := rfl
    have flags : (request MessageType.getQdisc link .none).flags =
        MessageFlag.request ||| MessageFlag.dump := rfl
    unfold Kernel.respond
    rw [type, flags]
    rfl
  refine ⟨endpoint.headerOf (request MessageType.getQdisc link .none), ?_, fun interpret => ?_⟩
  · exact (by decide : MessageFlag.isSet (MessageFlag.request ||| MessageFlag.dump)
      MessageFlag.dump = true)
  · change (interpret (endpoint.exchange _).1, (endpoint.exchange _).2) = _
    rw [Endpoint.exchange_of_ok accepted]

/-- A look for the handle of an entry that is alone under it finds the entry. -/
theorem exists_qdiscOfHandle {endpoint listed : Endpoint} {entry : Entry} {handle : Handle}
    {found : Option Qdisc}
    (alone : endpoint.kernel.qdiscs.filter (·.isNamed link handle) = [entry])
    (got : (qdiscOfHandle link handle clock).run Endpoint.transport endpoint =
      (.ok found, listed)) : ∃ qdisc, found = some qdisc ∧ ReadsAs clock entry qdisc := by
  obtain ⟨header, dumps, run⟩ := exists_run_exchange endpoint link
  unfold qdiscOfHandle findQdisc at got
  rw [run] at got
  obtain ⟨all, list, look⟩ := Outcome.map_eq_ok.mp (congrArg Prod.fst got)
  obtain ⟨qdisc, reads, only⟩ := exists_filter_readQdiscs dumps alone list
  refine ⟨qdisc, ?_, reads⟩
  rw [← look, ← List.head?_filter, only]
  rfl

/-- A look for a handle has an outcome when every entry can be read. -/
theorem exists_run_qdiscOfHandle (endpoint : Endpoint)
    (readable : ∀ entry ∈ endpoint.kernel.qdiscs, ∃ qdisc, ReadsAs clock entry qdisc)
    (link : UInt32) (handle : Handle) :
    ∃ found after, (qdiscOfHandle link handle clock).run Endpoint.transport endpoint =
      (.ok found, after) := by
  obtain ⟨header, dumps, run⟩ := exists_run_exchange endpoint link
  obtain ⟨all, list⟩ := exists_readQdiscs dumps readable link
  unfold qdiscOfHandle findQdisc
  rw [run, list]
  exact ⟨_, _, rfl⟩

end Dump

/-! ## Classes -/

namespace Kernel

/-- Whether a class is reported when the classes of a link below a parent are asked for. -/
def reportsClass (link : UInt32) (parent : Handle) (tclass : Entry) : Bool :=
  tclass.place.link == link && (parent.isNone || tclass.place.handle.major == parent.major)

/-- The parent that is reported of a class: that of the link itself for a class directly below its
qdisc. -/
def shownParent (tclass : Entry) : Handle :=
  if tclass.place.parent.minor = 0 then .root else tclass.place.parent

/-- The handle that is reported of the qdisc below a class, zero if there is none. -/
def shownLeaf (kernel : Kernel) (link : UInt32) (tclass : Entry) : UInt32 :=
  ((kernel.child? link tclass.place.handle).map (·.place.handle.raw)).getD 0

theorem dumpClasses_eq (kernel : Kernel) (link : UInt32) (parent : Handle) :
    kernel.dumpClasses link parent =
      ((kernel.classes.filter (reportsClass link parent)).map fun tclass =>
        tclass.report (shownParent tclass) (kernel.shownLeaf link tclass)).map
          (MessageType.newClass, ·) := by
  rw [List.map_map]
  rfl

end Kernel

namespace Dump

/-- The class that the client makes of an entry. -/
def ClassReadsAs (kernel : Kernel) (link : UInt32) (entry : Entry) (tclass : Class) : Prop :=
  Class.read (entry.report (Kernel.shownParent entry) (kernel.shownLeaf link entry)) = .ok tclass

theorem ClassReadsAs.place {kernel : Kernel} {link : UInt32} {entry : Entry} {tclass : Class}
    (reads : ClassReadsAs kernel link entry tclass) :
    tclass.place = { entry.place with parent := Kernel.shownParent entry } :=
  Class.place_of_read_report reads

variable {kernel : Kernel} {link : UInt32} {parent : Handle} {all : List Class}

/-- A list has one class for each entry that is reported, in the order of the table. -/
theorem readClasses_eq_ok {header : MessageHeader}
    (dumps : MessageFlag.isSet header.flags MessageFlag.dump = true) :
    readClasses (Endpoint.replies header (.ok (kernel.dumpClasses link parent))) = .ok all ↔
      List.Forall₂ (ClassReadsAs kernel link)
        (kernel.classes.filter (Kernel.reportsClass link parent)) all := by
  unfold readClasses
  rw [Kernel.dumpClasses_eq, payloads_replies dumps (by decide) (by decide)]
  change List.mapM Class.read _ = _ ↔ _
  rw [Outcome.mapM_eq_ok, List.forall₂_map_left_iff]
  rfl

theorem read_request (type : UInt16) (link : UInt32) (parent : Handle) :
    TrafficRequest.read (request type link parent).payload =
      .ok ⟨TrafficRecord.ofPlace ⟨link, .none, parent⟩ 0, none, none⟩ := by
  have payload : (request type link parent).payload =
      Record.toBytes (TrafficRecord.ofPlace ⟨link, .none, parent⟩ 0) :=
    (Mutation.aligned_toBytes_ofPlace _).padded_eq
  rw [payload, TrafficRequest.read_toBytes]

/-- What the client gets when it asks for classes, whatever the state of the kernel. -/
theorem classes_eq_ok (endpoint : Endpoint) :
    ((classes link parent).run Endpoint.transport endpoint).1 = .ok all ↔
      List.Forall₂ (ClassReadsAs endpoint.kernel link)
        (endpoint.kernel.classes.filter (Kernel.reportsClass link parent)) all := by
  have place : (TrafficRecord.ofPlace ⟨link, .none, parent⟩ 0).place = ⟨link, .none, parent⟩ :=
    TrafficRecord.place_ofPlace _ _
  have accepted : Kernel.respond (request MessageType.getClass link parent) endpoint.kernel =
      .ok (endpoint.kernel.dumpClasses link parent) endpoint.kernel := by
    have type : (request MessageType.getClass link parent).type = MessageType.getClass := rfl
    have flags : (request MessageType.getClass link parent).flags =
        MessageFlag.request ||| MessageFlag.dump := rfl
    unfold Kernel.respond
    rw [type, flags, read_request]
    change EStateM.Result.ok (endpoint.kernel.dumpClasses
      (TrafficRecord.ofPlace ⟨link, .none, parent⟩ 0).place.link
      (TrafficRecord.ofPlace ⟨link, .none, parent⟩ 0).place.parent) endpoint.kernel = _
    rw [place]
  have dumps : MessageFlag.isSet (endpoint.headerOf
      (request MessageType.getClass link parent)).flags MessageFlag.dump = true :=
    (by decide : MessageFlag.isSet (MessageFlag.request ||| MessageFlag.dump)
      MessageFlag.dump = true)
  rw [← readClasses_eq_ok dumps]
  change (readClasses (endpoint.exchange _).1) = _ ↔ _
  rw [Endpoint.exchange_of_ok accepted]

end Dump

end TrafficShaping
