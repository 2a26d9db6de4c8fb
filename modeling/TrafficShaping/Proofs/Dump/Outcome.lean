import Mathlib.Data.List.TakeWhile
import TrafficShaping.Proofs.Dump
import TrafficShaping.Proofs.Replies

/-!
What the replies to a dump come to.

`Dump.Tells` ranks what can happen, without going through the replies step by step: a reply that
fails the call decides over all else, then a message of the wanted type that cannot be read, and
only then is there a list. Each call that asks for a dump sends one request and has exactly the
outcome that `Dump.Tells` gives, as long as nothing stands behind the message that ends the dump
(`Dump.asks_and_tells`).

Messages behind that one are not read, but they are looked at: one of them that fails the call
decides like any other (`Dump.trailing_of_ended`).
-/

namespace TrafficShaping

namespace Outcome

variable {α β ε : Type} {f : α → Except ε β} {error : ε}

/-- A function that may fail does so for a list when it does so for a value, and has results for all
before it. -/
theorem mapM_of_split {before after : List α} {value : α}
    (earlier : ∀ value ∈ before, ∃ result, f value = .ok result) (failed : f value = .error error) :
    (before ++ value :: after).mapM f = .error error := by
  induction before with
  | nil =>
      rw [List.nil_append, List.mapM_cons, failed]
      rfl
  | cons head before ih =>
      obtain ⟨⟨result, own⟩, later⟩ := List.forall_mem_cons.mp earlier
      rw [List.cons_append, List.mapM_cons, own]
      change ((before ++ value :: after).mapM f >>= _) = _
      rw [ih later]
      rfl

/-- There is such a value whenever it fails for a list. -/
theorem exists_split_of_mapM {values : List α} (failed : values.mapM f = .error error) :
    ∃ before value after, values = before ++ value :: after ∧
      (∀ value ∈ before, ∃ result, f value = .ok result) ∧ f value = .error error := by
  induction values with
  | nil => cases failed
  | cons first rest ih =>
      rw [List.mapM_cons] at failed
      cases own : f first with
      | error fault =>
          rw [own] at failed
          cases failed
          exact ⟨[], first, rest, rfl, (nomatch ·, ·), own⟩
      | ok result =>
          rw [own] at failed
          change (rest.mapM f >>= fun results => pure (result :: results)) = _ at failed
          cases mapped : rest.mapM f with
          | ok results =>
              rw [mapped] at failed
              cases failed
          | error fault =>
              rw [mapped] at failed
              cases failed
              obtain ⟨before, value, after, rfl, earlier, cause⟩ := ih mapped
              refine ⟨first :: before, value, after, rfl, ?_, cause⟩
              exact List.forall_mem_cons.mpr ⟨⟨result, own⟩, earlier⟩

end Outcome

namespace Dump

variable {α β : Type} {type : UInt16} {read : Bytes → Except Error α} {keeps : α → Bool}
  {replies extra : List Message}

/-! ## Replies and lists -/

/-- Whether nothing stands behind the message that ends a dump, if there is one. -/
def NothingFollows (replies : List Message) : Prop := (replies.dropWhile (!·.isDone)).tail = []

instance (replies : List Message) : Decidable (NothingFollows replies) :=
  inferInstanceAs (Decidable (_ = _))

/-- What replies tell of the objects that are described by messages of a type. -/
inductive Tells (type : UInt16) (read : Bytes → Except Error α) (keeps : α → Bool)
    (replies : List Message) : Except Error (List α) → Prop
  /-- The first reply that fails decides, whatever stands before it. -/
  | failed {first : Message} (found : replies.find? Message.fails = some first) :
      Tells type read keeps replies (.error first.failure)
  /-- No reply fails, but a message of the type cannot be read. The first decides, whether or not
  its object would be kept. -/
  | unreadable {before after : List Message} {message : Message} {error : Error}
      (pass : ∀ reply ∈ replies, reply.fails = false)
      (split : replies.filter (·.header.type == type) = before ++ message :: after)
      (earlier : ∀ message ∈ before, ∃ value, read message.payload = .ok value)
      (fault : read message.payload = .error error) :
      Tells type read keeps replies (.error error)
  /-- All messages of the type are read. The objects are listed in the order of the messages. -/
  | listed {values : List α} (pass : ∀ reply ∈ replies, reply.fails = false)
      (reads : List.Forall₂ (fun message value => read message.payload = .ok value)
        (replies.filter (·.header.type == type)) values) :
      Tells type read keeps replies (.ok (values.filter keeps))

/-- The objects of a type that replies list, of which some are kept. -/
def readAll (type : UInt16) (read : Bytes → Except Error α) (keeps : α → Bool)
    (replies : List Message) : Except Error (List α) := do
  let found ← payloads type replies
  let values ← found.mapM read
  .ok (values.filter keeps)

theorem readQdiscs_eq_readAll (link : Option UInt32) (clock : Clock) (replies : List Message) :
    readQdiscs link clock replies =
      readAll MessageType.newQdisc (Qdisc.read · clock)
        (fun qdisc => link.all (· == qdisc.place.link)) replies := rfl

theorem readClasses_eq_readAll (replies : List Message) :
    readClasses replies = readAll MessageType.newClass Class.read (fun _ => true) replies := by
  unfold readClasses readAll
  cases payloads MessageType.newClass replies with
  | error error => rfl
  | ok found =>
      change found.mapM Class.read = (found.mapM Class.read >>= fun classes =>
        .ok (classes.filter fun _ => true))
      cases found.mapM Class.read with
      | error error => rfl
      | ok classes => exact congrArg Except.ok (List.filter_true classes).symm

theorem payloads_of_fails {first : Message} (found : replies.find? Message.fails = some first) :
    payloads type replies = .error first.failure := by
  rw [payloads, Message.checkAll_of_find? found]
  rfl

/-- The messages of a type are all before the end of the dump when nothing stands behind it. -/
theorem payloads_of_pass (apart : type ≠ MessageType.done) (last : NothingFollows replies)
    (pass : ∀ reply ∈ replies, reply.fails = false) :
    payloads type replies =
      .ok ((replies.filter (·.header.type == type)).map Message.payload) := by
  have behind : (replies.dropWhile (!·.isDone)).filter (·.header.type == type) = [] := by
    cases rest : replies.dropWhile (!·.isDone) with
    | nil => rfl
    | cons done after =>
        have ends : (!done.isDone) = false := by
          have head := List.head?_dropWhile_not (!·.isDone) replies
          rw [rest] at head
          simpa using head
        have ended : after = [] := by
          unfold NothingFollows at last
          rwa [rest] at last
        have other : ¬ (done.header.type == type) = true := by
          intro same
          have isDone : done.header.type = MessageType.done := by
            simpa [Message.isDone, MessageHeader.isDone] using ends
          exact apart ((beq_iff_eq.mp same).symm.trans isDone)
        rw [ended]
        exact List.filter_cons_of_neg other
  have whole : (replies.takeWhile (!·.isDone)).filter (·.header.type == type) =
      replies.filter (·.header.type == type) := by
    conv_rhs => rw [← List.takeWhile_append_dropWhile (p := (!·.isDone)) (l := replies)]
    rw [List.filter_append, behind, List.append_nil]
  rw [payloads, Message.checkAll_of_all_pass pass]
  change Except.ok _ = _
  rw [whole]

theorem readAll_eq_of_tells {outcome : Except Error (List α)} (apart : type ≠ MessageType.done)
    (last : NothingFollows replies) (tells : Tells type read keeps replies outcome) :
    readAll type read keeps replies = outcome := by
  unfold readAll
  cases tells with
  | failed found =>
      rw [payloads_of_fails found]
      rfl
  | unreadable pass split earlier fault =>
      rw [payloads_of_pass apart last pass, split, List.map_append, List.map_cons]
      change (List.mapM read _ >>= _) = _
      rw [Outcome.mapM_of_split (List.forall_mem_map.mpr earlier) fault]
      rfl
  | listed pass reads =>
      rw [payloads_of_pass apart last pass]
      change (List.mapM read (List.map Message.payload _) >>= _) = _
      rw [Outcome.mapM_eq_ok.mpr (List.forall₂_map_left_iff.mpr reads)]
      rfl

theorem exists_tells (type : UInt16) (read : Bytes → Except Error α) (keeps : α → Bool)
    (replies : List Message) : ∃ outcome, Tells type read keeps replies outcome := by
  cases fate : replies.find? Message.fails with
  | some first => exact ⟨_, .failed fate⟩
  | none =>
      have pass := Message.find?_fails_eq_none_iff.mp fate
      cases mapped : (replies.filter (·.header.type == type)).mapM (read ·.payload) with
      | ok values => exact ⟨_, .listed pass (Outcome.mapM_eq_ok.mp mapped)⟩
      | error error =>
          obtain ⟨before, message, after, split, earlier, fault⟩ :=
            Outcome.exists_split_of_mapM mapped
          exact ⟨_, .unreadable pass split earlier fault⟩

/-- When nothing stands behind the end of a dump, its replies tell one outcome, and that is the
outcome of reading them. -/
theorem readAll_eq_iff {outcome : Except Error (List α)} (apart : type ≠ MessageType.done)
    (last : NothingFollows replies) :
    readAll type read keeps replies = outcome ↔ Tells type read keeps replies outcome := by
  constructor
  · rintro rfl
    obtain ⟨outcome, tells⟩ := exists_tells type read keeps replies
    rwa [readAll_eq_of_tells apart last tells]
  · exact readAll_eq_of_tells apart last

/-! ## Calls -/

/-- A call asks for a dump of objects at a place. It sends one request for it, and its outcome is
the one that the replies tell. -/
structure Asks (call : Call α) (type : UInt16) (link : UInt32) (parent : Handle)
    (tells : List Message → Except Error α → Prop) : Prop where
  /-- Over any transport, the call sends the record of the place and nothing else. An error of the
  transport is the outcome as it is. -/
  exists_request : ∃ request : Request, request.type = type ∧
    request.flags = (MessageFlag.request ||| MessageFlag.dump) ∧
    request.payload = Record.toBytes (TrafficRecord.ofPlace ⟨link, .none, parent⟩ 0) ∧
    request.payload.length = 20 ∧
    ∀ {σ : Type} (transport : Transport σ) (state : σ) (sent : List Request),
      call.run transport.recorded (state, sent) =
        ((transport state request).1.bind call.outcome, (transport state request).2,
          sent ++ [request])
  told : ∀ {replies}, NothingFollows replies → ∀ outcome,
    call.outcome replies = outcome ↔ tells replies outcome

theorem asks_exchange {interpret : List Message → Except Error α} {link : UInt32} {parent : Handle}
    {tells : List Message → Except Error α → Prop} (type : UInt16)
    (told : ∀ {replies}, NothingFollows replies → ∀ outcome,
      interpret replies = outcome ↔ tells replies outcome) :
    Asks (.exchange (request type link parent) interpret) type link parent tells where
  exists_request := by
    have payload : (request type link parent).payload =
        Record.toBytes (TrafficRecord.ofPlace ⟨link, .none, parent⟩ 0) :=
      (Mutation.aligned_toBytes_ofPlace _).padded_eq
    refine ⟨request type link parent, rfl, rfl, payload, ?_, fun transport state sent => rfl⟩
    rw [payload, Mutation.length_toBytes_ofPlace]
  told := told

/-- The outcome of looking for an object in a list. -/
def Finds (listed : List Message → Except Error (List α) → Prop) (condition : α → Bool)
    (replies : List Message) (outcome : Except Error (Option α)) : Prop :=
  ∃ list, listed replies list ∧ outcome = list.map (·.find? condition)

theorem readQdiscs_eq_iff (link : Option UInt32) {clock : Clock} (last : NothingFollows replies)
    (outcome : Except Error (List Qdisc)) :
    readQdiscs link clock replies = outcome ↔
      Tells MessageType.newQdisc (Qdisc.read · clock)
        (fun qdisc => link.all (· == qdisc.place.link)) replies outcome := by
  rw [readQdiscs_eq_readAll]
  exact readAll_eq_iff (by decide) last

theorem asks_findQdisc (link : UInt32) (clock : Clock) (condition : Qdisc → Bool) :
    Asks (findQdisc link clock condition) MessageType.getQdisc link .none
      (Finds (Tells MessageType.newQdisc (Qdisc.read · clock) (link == ·.place.link))
        condition) := by
  refine asks_exchange MessageType.getQdisc fun last outcome => ?_
  constructor
  · rintro rfl
    exact ⟨_, (readQdiscs_eq_iff (some link) last _).mp rfl, rfl⟩
  · rintro ⟨list, tells, rfl⟩
    rw [(readQdiscs_eq_iff (some link) last list).mpr tells]

/-- The calls that list qdiscs and classes and those that look for one qdisc: each sends one request
for a dump, and its outcome is the list that the replies tell or the first qdisc of it that is
looked for. -/
theorem asks_and_tells (clock : Clock) (only : Option UInt32) (link : UInt32)
    (parent handle : Handle) :
    Asks (qdiscs only clock) MessageType.getQdisc (only.getD 0) .none
      (Tells MessageType.newQdisc (Qdisc.read · clock)
        (fun qdisc => only.all (· == qdisc.place.link))) ∧
    Asks (classes link parent) MessageType.getClass link parent
      (Tells MessageType.newClass Class.read (fun _ => true)) ∧
    Asks (qdiscOfHandle link handle clock) MessageType.getQdisc link .none
      (Finds (Tells MessageType.newQdisc (Qdisc.read · clock) (link == ·.place.link))
        (·.place.handle == handle)) ∧
    Asks (rootQdisc link clock) MessageType.getQdisc link .none
      (Finds (Tells MessageType.newQdisc (Qdisc.read · clock) (link == ·.place.link))
        (·.place.parent == .root)) := by
  refine ⟨asks_exchange _ (readQdiscs_eq_iff only), asks_exchange _ fun last outcome => ?_,
    asks_findQdisc link clock _, ?_⟩
  · rw [readClasses_eq_readAll]
    exact readAll_eq_iff (by decide) last
  · exact asks_findQdisc link clock _

/-- A qdisc that is cut off, a report that the link is gone, and the end of the dump. -/
def lateRefusal : List Message :=
  [⟨.ofType MessageType.newQdisc MessageFlag.multi, Bytes.zeros 6⟩,
    ⟨.ofType MessageType.error 0,
      Record.toBytes (⟨-19, .ofType MessageType.getQdisc 0x301⟩ : ErrorReport)⟩,
    ⟨.ofType MessageType.done MessageFlag.multi, Bytes.zeros 4⟩]

theorem asks_and_tells_lateRefusal :
    NothingFollows lateRefusal ∧
      (qdiscs none .highResolution).outcome lateRefusal =
        .error (.rejected .notFound 19 "No such device (os error 19)") ∧
      (rootQdisc 2 .highResolution).outcome lateRefusal =
        .error (.rejected .notFound 19 "No such device (os error 19)") := by
  have last : NothingFollows lateRefusal := by decide
  have found : lateRefusal.find? Message.fails = lateRefusal[1]? := by decide
  obtain ⟨qdiscs, _, _, root⟩ := asks_and_tells .highResolution none 2 .none .none
  exact ⟨last, (qdiscs.told last _).mpr (.failed found),
    (root.told last _).mpr ⟨_, .failed found, rfl⟩⟩

/-! ## Behind the end -/

/-- What messages behind the end of a dump do to the outcome of a call. -/
structure Trailing (call : Call α) (replies extra : List Message) : Prop where
  /-- They do nothing when none of them fails the call, or when it has failed before. -/
  unchanged : (∃ reply ∈ replies, reply.fails = true) ∨ (∀ message ∈ extra, message.fails = false) →
    call.outcome (replies ++ extra) = call.outcome replies
  /-- Otherwise the first of them that fails the call decides. -/
  fails : (∀ reply ∈ replies, reply.fails = false) →
    ∀ {first}, extra.find? Message.fails = some first →
      call.outcome (replies ++ extra) = .error first.failure

theorem takeWhile_append_of_ended (ended : ∃ reply ∈ replies, reply.isDone = true)
    (extra : List Message) :
    (replies ++ extra).takeWhile (!·.isDone) = replies.takeWhile (!·.isDone) := by
  rw [List.takeWhile_append]
  refine if_neg fun whole => ?_
  obtain ⟨done, member, isDone⟩ := ended
  have all : replies.takeWhile (!·.isDone) = replies :=
    (List.takeWhile_prefix _).eq_of_length whole
  have going := List.takeWhile_eq_self_iff.mp all done member
  simp [isDone] at going

theorem trailing_readAll (ended : ∃ reply ∈ replies, reply.isDone = true) (request : Request)
    (type : UInt16) (read : Bytes → Except Error α) (keeps : α → Bool) (extra : List Message)
    (interpret : Except Error (List α) → Except Error β)
    (strict : ∀ error, interpret (.error error) = .error error) :
    Trailing (.exchange request fun replies => interpret (readAll type read keeps replies)) replies
      extra where
  unchanged quiet := by
    have same : payloads type (replies ++ extra) = payloads type replies := by
      cases fate : replies.find? Message.fails with
      | some first =>
          have found : (replies ++ extra).find? Message.fails = some first := by
            rw [List.find?_append, fate]
            rfl
          rw [payloads_of_fails found, payloads_of_fails fate]
      | none =>
          have pass := Message.find?_fails_eq_none_iff.mp fate
          have later : ∀ message ∈ extra, message.fails = false := by
            rcases quiet with ⟨reply, member, failed⟩ | later
            · cases (pass reply member).symm.trans failed
            · exact later
          unfold payloads
          rw [Message.checkAll_of_all_pass pass,
            Message.checkAll_of_all_pass (List.forall_mem_append.mpr ⟨pass, later⟩),
            takeWhile_append_of_ended ended extra]
    change interpret (readAll _ _ _ _) = interpret (readAll _ _ _ _)
    unfold readAll
    rw [same]
  fails pass first fate := by
    have found : (replies ++ extra).find? Message.fails = some first := by
      rw [List.find?_append, Message.find?_fails_eq_none_iff.mpr pass, fate]
      rfl
    change interpret (readAll _ _ _ _) = _
    unfold readAll
    rw [payloads_of_fails found]
    exact strict _

/-- Messages behind the end of a dump are read by no call. They are without influence unless one of
them fails the call and nothing before the end does. -/
theorem trailing_of_ended (ended : ∃ reply ∈ replies, reply.isDone = true) (extra : List Message)
    (clock : Clock) (only : Option UInt32) (link : UInt32) (parent handle : Handle) :
    Trailing (qdiscs only clock) replies extra ∧ Trailing (classes link parent) replies extra ∧
      Trailing (qdiscOfHandle link handle clock) replies extra ∧
      Trailing (rootQdisc link clock) replies extra := by
  have classes_eq : classes link parent = .exchange (request MessageType.getClass link parent)
      (readAll MessageType.newClass Class.read fun _ => true) :=
    congrArg _ (funext readClasses_eq_readAll)
  have find (condition : Qdisc → Bool) : Trailing (findQdisc link clock condition) replies extra :=
    trailing_readAll ended (request MessageType.getQdisc link .none) MessageType.newQdisc
      (Qdisc.read · clock) (link == ·.place.link) extra
      (Except.map (List.find? condition)) fun _ => rfl
  refine ⟨?_, ?_, find _, find _⟩
  · exact trailing_readAll ended _ _ (Qdisc.read · clock) _ extra id fun _ => rfl
  · rw [classes_eq]
    exact trailing_readAll ended _ _ _ _ extra id fun _ => rfl

/-- The end of an empty dump. -/
def emptyDump : List Message := [⟨.ofType MessageType.done MessageFlag.multi, Bytes.zeros 4⟩]

/-- A qdisc that is cut off, and a report that the link is gone. -/
def stragglers : List Message := lateRefusal.take 2

theorem trailing_of_ended_stragglers :
    (∃ reply ∈ emptyDump, reply.isDone = true) ∧
      (qdiscs none .highResolution).outcome (emptyDump ++ stragglers.take 1) =
        (qdiscs none .highResolution).outcome emptyDump ∧
      (qdiscs none .highResolution).outcome emptyDump = .ok [] ∧
      (qdiscs none .highResolution).outcome (emptyDump ++ stragglers) =
        .error (.rejected .notFound 19 "No such device (os error 19)") := by
  have ended : ∃ reply ∈ emptyDump, reply.isDone = true := by decide
  have found : stragglers.find? Message.fails = stragglers[1]? := by decide
  obtain ⟨quiet, _⟩ :=
    trailing_of_ended ended (stragglers.take 1) .highResolution none 2 .none .none
  obtain ⟨loud, _⟩ := trailing_of_ended ended stragglers .highResolution none 2 .none .none
  exact ⟨ended, quiet.unchanged (.inr (by decide)), rfl, loud.fails (by decide) found⟩

end Dump

end TrafficShaping
