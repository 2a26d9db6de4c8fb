import TrafficShaping.Client.LinkLookup
import TrafficShaping.Proofs.Replies
import TrafficShaping.Proofs.Request

/-!
Which links are asked for, and what the replies tell of them.

A name is asked for unless no link can have it (`LinkRef.Unusable`), by a request that names the
link and says nothing else (`LinkRef.asks_lookup`). The first reply that is about a link or fails
the call decides over the outcome, and without one there is no such link: `LinkRef.Tells` has a rule
for each sort of reply, and the outcome is always the one that the rules give
(`LinkRef.readIndex_eq_iff`).
-/

namespace TrafficShaping.LinkRef

variable {name : String} {message first : Message} {replies : List Message}

/-! ## Names -/

/-- Why no link can have a name. -/
inductive Unusable (name : String) : Prop
  | empty (nothing : name = "")
  | long (many : 16 ≤ (Text.Utf8.encode name).length)
  /-- Slashes, zero bytes and white space do not occur in names. -/
  | barred {c : Char} (among : c ∈ name.toList)
      (bar : c = '/' ∨ c = '\x00' ∨ Text.isBlank c = true)

theorem isName_eq_true_iff : isName name = true ↔ ¬ Unusable name := by
  have characters : (name.toList.all fun c => c != '/' && c != '\x00' && !Text.isBlank c) = true ↔
      ∀ c ∈ name.toList, ¬ (c = '/' ∨ c = '\x00' ∨ Text.isBlank c = true) := by
    simp [and_assoc]
  unfold isName
  rw [Bool.and_eq_true, Bool.and_eq_true, characters]
  constructor
  · rintro ⟨⟨given, short⟩, free⟩ unusable
    cases unusable with
    | empty nothing =>
        subst nothing
        cases given
    | long many => exact absurd (of_decide_eq_true short) (Nat.not_lt.mpr many)
    | barred among bar => exact free _ among bar
  · intro usable
    refine ⟨⟨?_, ?_⟩, fun c among bar => usable (.barred among bar)⟩
    · cases empty : name.isEmpty with
      | false => rfl
      | true => exact absurd (.empty (String.isEmpty_iff.mp empty)) usable
    · exact decide_eq_true (Nat.not_le.mp fun many => usable (.long many))

/-! ## Requests -/

/-- What the request for the link of a name is: its record names no index, its only attribute is the
name, and the name is read back. -/
structure Asks (name : String) (request : Request) : Prop where
  type_eq : request.type = MessageType.getLink
  flags_eq : request.flags = (MessageFlag.request ||| MessageFlag.acknowledge)
  exists_payload : ∃ rest data,
    request.payload = Record.toBytes (LinkRecord.ofIndex 0) ++ rest ∧
      Tagged.parse rest = .ok [⟨LinkRecord.nameTag, data⟩] ∧ Payload.readText data = .ok name

/-- The request for the link of a name that fits it. -/
def lookup (name : String) : Request :=
  { Request.ofType MessageType.getLink (MessageFlag.request ||| MessageFlag.acknowledge) with
    payload := Record.toBytes (LinkRecord.ofIndex 0) ++
      Attribute.record LinkRecord.nameTag (Text.Utf8.encode name ++ [0]) }

theorem request_of_unusable (unusable : Unusable name) :
    request name = .error (.interfaceNotFound name) :=
  if_neg fun usable => isName_eq_true_iff.mp usable unusable

theorem length_nameBytes_le (usable : ¬ Unusable name) :
    (Text.Utf8.encode name ++ [0]).length ≤ maxAttributePayload := by
  have short := Nat.not_le.mp fun many => usable (.long many)
  rw [List.length_append]
  exact Nat.le_trans (Nat.succ_le_of_lt short) (by decide)

theorem request_of_usable (usable : ¬ Unusable name) : request name = .ok (lookup name) := by
  have aligned : Bytes.Aligned (Record.toBytes (LinkRecord.ofIndex 0)) := by
    unfold Bytes.Aligned
    rw [LinkRecord.lawful_layout.length_toBytes]
    rfl
  have front : (Request.ofType MessageType.getLink
      (MessageFlag.request ||| MessageFlag.acknowledge)).appendRecord (LinkRecord.ofIndex 0) =
        { Request.ofType MessageType.getLink (MessageFlag.request ||| MessageFlag.acknowledge) with
          payload := Record.toBytes (LinkRecord.ofIndex 0) } := by
    unfold Request.appendRecord Request.append
    exact congrArg _ aligned.padded_eq
  unfold request
  rw [if_pos (isName_eq_true_iff.mpr usable), front]
  exact Request.appendAttribute_of_le aligned (length_nameBytes_le usable)

theorem resolve_of_unusable (unusable : Unusable name) :
    resolve (.name name) = .answer (.error (.interfaceNotFound name)) := by
  change Call.ofRequest (request name) (readIndex name) = _
  rw [request_of_unusable unusable]
  rfl

theorem resolve_of_usable (usable : ¬ Unusable name) :
    resolve (.name name) = .exchange (lookup name) (readIndex name) := by
  change Call.ofRequest (request name) (readIndex name) = _
  rw [request_of_usable usable]
  rfl

theorem parse_nameRecord (usable : ¬ Unusable name) :
    Tagged.parse (Attribute.record LinkRecord.nameTag (Text.Utf8.encode name ++ [0])) =
      .ok [⟨LinkRecord.nameTag, Text.Utf8.encode name ++ [0]⟩] := by
  have plain : AttributeHeader.tagOf LinkRecord.nameTag = LinkRecord.nameTag := by decide
  have writable : ∀ record ∈ [(⟨LinkRecord.nameTag, Text.Utf8.encode name ++ [0]⟩ : Tagged)],
      record.IsWritable :=
    List.forall_mem_singleton.mpr ⟨plain, length_nameBytes_le usable⟩
  have parsed := Tagged.parseFrom_flatMap_toBytes writable 0
  rwa [List.flatMap_singleton] at parsed

theorem readText_name (usable : ¬ Unusable name) :
    Payload.readText (Text.Utf8.encode name ++ [0]) = .ok name :=
  Payload.readText_encode fun zero => usable (.barred zero (.inr (.inl rfl)))

theorem asks_lookup (usable : ¬ Unusable name) : Asks name (lookup name) where
  type_eq := rfl
  flags_eq := rfl
  exists_payload := ⟨_, _, rfl, parse_nameRecord usable, readText_name usable⟩

/-! ## Replies -/

/-- What is going on, in words. -/
def description (name : String) : String := s!"resolving interface {name}"

/-- Whether a reply decides over the outcome: it is about a link, or it fails the call. -/
def decides (reply : Message) : Bool := reply.header.type == MessageType.newLink || reply.fails

/-- The outcomes that replies to the request for a name tell. -/
inductive Tells (name : String) (replies : List Message) : Except Error UInt32 → Prop
  /-- No reply decides. -/
  | silent (undecided : replies.find? decides = none) :
      Tells name replies (.error (.interfaceNotFound name))
  /-- The first to decide is about a link. -/
  | found {first : Message} {record : LinkRecord} {rest : Bytes}
      (decisive : replies.find? decides = some first)
      (link : first.header.type = MessageType.newLink)
      (whole : first.payload = Record.toBytes record ++ rest) :
      Tells name replies (.ok record.linkIndex)
  /-- The first to decide is about a link and too short for that. -/
  | cutLink {first : Message} (decisive : replies.find? decides = some first)
      (link : first.header.type = MessageType.newLink) (short : first.payload.length < 16) :
      Tells name replies (.error (.truncated "ifinfomsg" 16 first.payload.length))
  /-- The first to decide is an error report that is too short. -/
  | cutReport {first : Message} (decisive : replies.find? decides = some first)
      (report : first.header.type = MessageType.error) (short : first.payload.length < 20) :
      Tells name replies (.error (.truncated "nlmsgerr" 20 first.payload.length))
  /-- The first to decide reports that there is no such link. -/
  | missing {first : Message} {report : ErrorReport} {rest : Bytes}
      (decisive : replies.find? decides = some first)
      (reports : first.header.type = MessageType.error)
      (whole : first.payload = Record.toBytes report ++ rest)
      (absent : report.code.abs ∈ [Errno.noEntry, Errno.noDevice]) :
      Tells name replies (.error (.interfaceNotFound name))
  /-- The first to decide reports any other error. -/
  | refused {first : Message} {report : ErrorReport} {rest : Bytes}
      (decisive : replies.find? decides = some first)
      (reports : first.header.type = MessageType.error)
      (whole : first.payload = Record.toBytes report ++ rest)
      (other : report.code.abs ∉ [Errno.noEntry, Errno.noDevice]) :
      Tells name replies (.error (.context (description name)
        (.ofCodeWithText report.code (report.wording first.payload first.header.flags))))

theorem type_or_fails_of_find? (decisive : replies.find? decides = some first) :
    first.header.type = MessageType.newLink ∨
      first.header.type = MessageType.error ∧ first.fails = true := by
  have decided : decides first = true := List.find?_some decisive
  rcases Bool.or_eq_true_iff.mp decided with link | fails
  · exact .inl (beq_iff_eq.mp link)
  · exact .inr ⟨beq_iff_eq.mp (Bool.and_eq_true_iff.mp fails).1, fails⟩

theorem failure_of_append {report : ErrorReport} {rest : Bytes}
    (whole : message.payload = Record.toBytes report ++ rest) :
    message.failure =
      .ofCodeWithText report.code (report.wording message.payload message.header.flags) := by
  have read : Record.read ErrorReport message.payload = .ok report := by
    rw [whole]
    exact ErrorReport.lawful_layout.read_toBytes_append report rest
  unfold Message.failure
  rw [read]

theorem ofErrno_eq_notFound_iff {errno : Int32} :
    Rejection.ofErrno errno = .notFound ↔ errno ∈ [Errno.noEntry, Errno.noDevice] := by
  unfold Rejection.ofErrno
  simp only [List.mem_cons, List.not_mem_nil, or_false]
  by_cases absent : errno = Errno.noEntry ∨ errno = Errno.noDevice
  · exact iff_of_true (if_pos absent) absent
  · grind

theorem explain_ofCodeWithText (name : String) (code : Int32) (text : String) :
    explain name (.ofCodeWithText code text) =
      if code.abs ∈ [Errno.noEntry, Errno.noDevice] then .interfaceNotFound name
      else .context (description name) (.ofCodeWithText code text) := by
  have absent : (Error.ofCodeWithText code text).isNotFound = true ↔
      code.abs ∈ [Errno.noEntry, Errno.noDevice] :=
    decide_eq_true_iff.trans ofErrno_eq_notFound_iff
  unfold explain
  simp only [absent]
  rfl

theorem readIndex_cons_of_undecided (undecided : decides first = false) (rest : List Message) :
    readIndex name (first :: rest) = readIndex name rest := by
  obtain ⟨other, passes⟩ := Bool.or_eq_false_iff.mp undecided
  rw [readIndex, Message.rejection?_eq, passes]
  exact if_neg fun link => Bool.eq_false_iff.mp other (beq_iff_eq.mpr link)

theorem readIndex_cons_of_link (link : first.header.type = MessageType.newLink)
    (rest : List Message) :
    readIndex name (first :: rest) =
      (Record.read LinkRecord first.payload).map LinkRecord.linkIndex := by
  have passes : first.fails = false := by
    unfold Message.fails MessageHeader.isError
    rw [link]
    rfl
  rw [readIndex, Message.rejection?_eq, passes]
  exact if_pos link

theorem readIndex_cons_of_fails (fails : first.fails = true) (rest : List Message) :
    readIndex name (first :: rest) = .error (explain name first.failure) := by
  rw [readIndex, Message.rejection?_eq, if_pos fails]
  split
  · next short =>
      rw [Message.failure_of_lt short]
      rfl
  · rfl

theorem readIndex_of_undecided (undecided : replies.find? decides = none) :
    readIndex name replies = .error (.interfaceNotFound name) := by
  induction replies with
  | nil => rfl
  | cons first rest ih =>
      have none := List.find?_eq_none.mp undecided
      rw [readIndex_cons_of_undecided (Bool.eq_false_iff.mpr (none first List.mem_cons_self))]
      exact ih (List.find?_eq_none.mpr fun reply later => none reply (List.mem_cons_of_mem _ later))

/-- Replies before the first that decides are passed over. -/
theorem exists_readIndex_eq (name : String) (decisive : replies.find? decides = some first) :
    ∃ rest, readIndex name replies = readIndex name (first :: rest) := by
  induction replies with
  | nil => cases decisive
  | cons head rest ih =>
      cases fate : decides head with
      | true =>
          rw [List.find?_cons_of_pos fate] at decisive
          cases decisive
          exact ⟨rest, rfl⟩
      | false =>
          rw [List.find?_cons_of_neg (by simp [fate])] at decisive
          rw [readIndex_cons_of_undecided fate]
          exact ih decisive

theorem readIndex_eq_of_tells {outcome : Except Error UInt32}
    (tells : Tells name replies outcome) : readIndex name replies = outcome := by
  have failing {first : Message} (decisive : replies.find? decides = some first)
      (reports : first.header.type = MessageType.error) :
      readIndex name replies = .error (explain name first.failure) := by
    have fails : first.fails = true := by
      refine ((type_or_fails_of_find? decisive).resolve_left fun link => ?_).2
      cases link.symm.trans reports
    obtain ⟨rest, same⟩ := exists_readIndex_eq name decisive
    rw [same, readIndex_cons_of_fails fails]
  cases tells with
  | silent undecided => exact readIndex_of_undecided undecided
  | @found first record rest decisive link whole =>
      obtain ⟨_, same⟩ := exists_readIndex_eq name decisive
      rw [same, readIndex_cons_of_link link, whole,
        LinkRecord.lawful_layout.read_toBytes_append record rest]
      rfl
  | @cutLink first decisive link short =>
      obtain ⟨_, same⟩ := exists_readIndex_eq name decisive
      have cut : Record.read LinkRecord first.payload =
          .error (.truncated "ifinfomsg" 16 first.payload.length) :=
        LinkRecord.lawful_layout.readAs_of_lt "ifinfomsg" short
      rw [same, readIndex_cons_of_link link, cut]
      rfl
  | cutReport decisive reports short =>
      rw [failing decisive reports, Message.failure_of_lt short]
      rfl
  | missing decisive reports whole absent =>
      rw [failing decisive reports, failure_of_append whole, explain_ofCodeWithText, if_pos absent]
  | refused decisive reports whole other =>
      rw [failing decisive reports, failure_of_append whole, explain_ofCodeWithText, if_neg other]

theorem exists_tells (name : String) (replies : List Message) :
    ∃ outcome, Tells name replies outcome := by
  cases fate : replies.find? decides with
  | none => exact ⟨_, .silent fate⟩
  | some first =>
      rcases type_or_fails_of_find? fate with link | ⟨reports, _⟩
      · rcases Nat.lt_or_ge first.payload.length 16 with short | long
        · exact ⟨_, .cutLink fate link short⟩
        · obtain ⟨record, rest, _, whole⟩ :=
            LinkRecord.lawful_layout.exists_readAs_of_le "ifinfomsg" long
          exact ⟨_, .found fate link whole⟩
      · rcases Nat.lt_or_ge first.payload.length 20 with short | long
        · exact ⟨_, .cutReport fate reports short⟩
        · obtain ⟨report, rest, _, whole⟩ :=
            ErrorReport.lawful_layout.exists_readAs_of_le "nlmsgerr" long
          by_cases absent : report.code.abs ∈ [Errno.noEntry, Errno.noDevice]
          · exact ⟨_, .missing fate reports whole absent⟩
          · exact ⟨_, .refused fate reports whole absent⟩

/-- Whatever the replies are, they tell one outcome, and that is the outcome of reading them. -/
theorem readIndex_eq_iff {outcome : Except Error UInt32} :
    readIndex name replies = outcome ↔ Tells name replies outcome := by
  constructor
  · rintro rfl
    obtain ⟨outcome, tells⟩ := exists_tells name replies
    rwa [readIndex_eq_of_tells tells]
  · exact readIndex_eq_of_tells

end TrafficShaping.LinkRef
