import TrafficShaping.Client.Mutation
import TrafficShaping.Proofs.Kernel.Accepted
import TrafficShaping.Proofs.Kernel.Refused
import TrafficShaping.Proofs.Replies
import TrafficShaping.Proofs.Request

/-!
A mutation from the client to the kernel and back.

The client learns from the replies exactly whether the kernel has accepted its request: an
acknowledgement is success and a refusal is an error (`Mutation.run_exchange_of_ok`,
`Mutation.run_exchange_of_error`). So a mutation either stays local, or is refused, or has been
accepted (`Mutation.Runs`), and of these only the last changes the kernel.
-/

namespace TrafficShaping

/-- A record with the attributes of a kind and of options behind it is a request for them. -/
theorem TrafficRequest.read_attributes {kind : String} {options : Option Bytes} {rest : Bytes}
    (free : '\x00' ∉ kind.toList) (record : TrafficRecord)
    (parsed : Tagged.parse rest = .ok (TrafficReport.attributes kind options)) :
    read (Record.toBytes record ++ rest) = .ok ⟨record, some kind, options⟩ := by
  have front := TrafficRecord.lawful_layout.readFront_toBytes record rest
  have name := Payload.readText_encode free
  have noStatistics : ((TrafficReport.attributes kind options).any fun part =>
      part.tag == Statistics.blocksTag || part.tag == Statistics.flatTag) = false := by
    cases options with
    | none => rfl
    | some data => rfl
  refine Outcome.bind_eq_ok.mpr ⟨(record, rest), congrArg (Except.mapError _) front,
    Outcome.bind_eq_ok.mpr ⟨_, congrArg (Except.mapError _) parsed, ?_⟩⟩
  rw [noStatistics, TrafficReport.find?_kind, TrafficReport.find?_options]
  refine Outcome.bind_eq_ok.mpr ⟨some kind, ?_, rfl⟩
  rw [name]
  rfl

/-- A record alone is a request for what is at its place. -/
theorem TrafficRequest.read_toBytes (record : TrafficRecord) :
    read (Record.toBytes record) = .ok ⟨record, none, none⟩ := by
  have front := TrafficRecord.lawful_layout.readFront_toBytes record []
  have nothing : Tagged.parse [] = .ok [] := Tagged.parseFrom_nil 0
  rw [List.append_nil] at front
  exact Outcome.bind_eq_ok.mpr ⟨_, congrArg (Except.mapError _) front,
    Outcome.bind_eq_ok.mpr ⟨_, congrArg (Except.mapError _) nothing, rfl⟩⟩

/-! ## Replies -/

namespace Endpoint

variable {header : MessageHeader}

/-- The header under which a request is received. -/
def headerOf (endpoint : Endpoint) (request : Request) : MessageHeader :=
  ((request.withSequence (endpoint.sequence + 1)).withSender 0).header request.length

/-- The endpoint after a request that has left a kernel. -/
def received (endpoint : Endpoint) (request : Request) (kernel : Kernel) : Endpoint :=
  ⟨kernel, endpoint.sequence + 1, endpoint.requests ++ [(request.type, request.flags)]⟩

theorem checkAll_acknowledged
    (acknowledges : MessageFlag.isSet header.flags MessageFlag.acknowledge = true)
    (single : MessageFlag.isSet header.flags MessageFlag.dump = false) :
    Message.checkAll (replies header (.ok [])) = .ok () := by
  have passes : (reply header MessageType.error MessageFlag.capped
      (Record.toBytes (⟨0, header⟩ : ErrorReport))).fails = false :=
    Message.fails_eq_false_of_append (List.append_nil _).symm rfl
  unfold replies
  dsimp only
  rw [single, acknowledges]
  change Message.checkAll [reply header MessageType.error MessageFlag.capped
    (Record.toBytes (⟨0, header⟩ : ErrorReport))] = _
  rw [Message.checkAll_cons_of_not_fails passes]
  rfl

theorem exists_checkAll_refused (header : MessageHeader) (refusal : Refusal) :
    ∃ error, Message.checkAll (replies header (.error refusal)) = .error error := by
  have nonzero : -refusal.errno ≠ 0 := by
    cases refusal <;> decide
  have fails : (refuse header refusal).fails = true := Message.fails_of_append rfl rfl nonzero
  exact ⟨_, Message.checkAll_cons_of_fails fails []⟩

theorem exchange_of_ok {endpoint : Endpoint} {request : Request} {reports : List Report}
    {after : Kernel} (accepted : Kernel.respond request endpoint.kernel = .ok reports after) :
    endpoint.exchange request =
      (replies (endpoint.headerOf request) (.ok reports), endpoint.received request after) := by
  unfold exchange
  rw [accepted]
  rfl

theorem exchange_of_error {endpoint : Endpoint} {request : Request} {refusal : Refusal}
    {after : Kernel} (refused : Kernel.respond request endpoint.kernel = .error refusal after) :
    endpoint.exchange request =
      (replies (endpoint.headerOf request) (.error refusal),
        endpoint.received request endpoint.kernel) := by
  have unchanged := Kernel.guarded_respond request endpoint.kernel after refusal refused
  unfold exchange
  rw [refused, unchanged]
  rfl

end Endpoint

/-! ## Requests -/

namespace Mutation

variable {mutation : Mutation} {request : Request} {endpoint : Endpoint} {kernel after : Kernel}

theorem acknowledges_flags (mutation : Mutation) :
    MessageFlag.isSet mutation.flags MessageFlag.acknowledge = true ∧
      MessageFlag.isSet mutation.flags MessageFlag.dump = false := by
  cases mutation with
  | add => decide
  | change => decide
  | replace => decide
  | delete => decide

/-- What the kernel does with a request of a mutation for a qdisc. -/
def qdiscHandler (mutation : Mutation) (request : TrafficRequest) : Handler Unit :=
  if mutation = .delete then Kernel.deleteQdisc request else Kernel.newQdisc mutation.flags request

/-- What the kernel does with a request of a mutation for a class. -/
def classHandler (mutation : Mutation) (request : TrafficRequest) : Handler Unit :=
  if mutation = .delete then Kernel.deleteClass request else Kernel.newClass mutation.flags request

theorem qdiscHandler_eq_ok {traffic : TrafficRequest}
    (handled : mutation.qdiscHandler traffic kernel = .ok () after) :
    mutation = .delete ∧ Kernel.deleteQdisc traffic kernel = .ok () after ∨
      mutation ≠ .delete ∧ Kernel.newQdisc mutation.flags traffic kernel = .ok () after := by
  unfold qdiscHandler at handled
  split at handled
  · next deletes => exact .inl ⟨deletes, handled⟩
  · next sets => exact .inr ⟨sets, handled⟩

theorem classHandler_eq_ok {traffic : TrafficRequest}
    (handled : mutation.classHandler traffic kernel = .ok () after) :
    mutation = .delete ∧ Kernel.deleteClass traffic kernel = .ok () after ∨
      mutation ≠ .delete ∧ Kernel.newClass mutation.flags traffic kernel = .ok () after := by
  unfold classHandler at handled
  split at handled
  · next deletes => exact .inl ⟨deletes, handled⟩
  · next sets => exact .inr ⟨sets, handled⟩

/-- A request is read and handed to a handler, which reports nothing. -/
def serve (handler : TrafficRequest → Handler Unit) (payload : Bytes) : Handler (List Report) := do
  handler (← Handler.check fun _ => TrafficRequest.read payload)
  pure []

theorem respond_qdisc (type : request.type = mutation.qdiscType)
    (flags : request.flags = mutation.flags) :
    Kernel.respond request = serve mutation.qdiscHandler request.payload := by
  unfold Kernel.respond
  rw [type, flags]
  cases mutation with
  | add => rfl
  | change => rfl
  | replace => rfl
  | delete => rfl

theorem respond_class (type : request.type = mutation.classType)
    (flags : request.flags = mutation.flags) :
    Kernel.respond request = serve mutation.classHandler request.payload := by
  unfold Kernel.respond
  rw [type, flags]
  cases mutation with
  | add => rfl
  | change => rfl
  | replace => rfl
  | delete => rfl

theorem serve_eq_ok {handler : TrafficRequest → Handler Unit} {payload : Bytes}
    {reports : List Report} :
    serve handler payload kernel = .ok reports after ↔
      reports = [] ∧ ∃ traffic, TrafficRequest.read payload = .ok traffic ∧
        handler traffic kernel = .ok () after := by
  have reporting : ∀ traffic, (handler traffic >>= fun _ => (pure [] : Handler (List Report)))
      kernel = .ok reports after ↔ reports = [] ∧ handler traffic kernel = .ok () after := by
    intro traffic
    change EStateM.bind (handler traffic) (fun _ => pure []) kernel = _ ↔ _
    unfold EStateM.bind
    cases handler traffic kernel with
    | error refusal between => exact ⟨fun done => (nomatch done), fun done => (nomatch done.2)⟩
    | ok nothing between =>
        constructor
        · intro done
          cases done
          exact ⟨rfl, rfl⟩
        · rintro ⟨rfl, handled⟩
          cases handled
          rfl
  unfold serve
  rw [Handler.check_bind_eq_ok]
  constructor
  · rintro ⟨traffic, read, done⟩
    obtain ⟨none, handled⟩ := (reporting traffic).mp done
    exact ⟨none, traffic, read, handled⟩
  · rintro ⟨none, traffic, read, handled⟩
    exact ⟨traffic, read, (reporting traffic).mpr ⟨none, handled⟩⟩

theorem run_exchange_of_ok (flags : request.flags = mutation.flags) (object : String)
    (handle : Handle) (accepted : Kernel.respond request endpoint.kernel = .ok [] after) :
    (Call.exchange request (mutation.interpret object handle)).run Endpoint.transport endpoint =
      (.ok (), endpoint.received request after) := by
  obtain ⟨acknowledges, single⟩ := acknowledges_flags mutation
  rw [← flags] at acknowledges single
  change (mutation.interpret object handle (endpoint.exchange request).1,
    (endpoint.exchange request).2) = _
  rw [Endpoint.exchange_of_ok accepted]
  dsimp only
  rw [interpret, Endpoint.checkAll_acknowledged acknowledges single]
  rfl

theorem run_exchange_of_error (mutation : Mutation) (object : String) (handle : Handle)
    {refusal : Refusal}
    (refused : Kernel.respond request endpoint.kernel = .error refusal after) :
    ∃ error, (Call.exchange request (mutation.interpret object handle)).run Endpoint.transport
      endpoint = (.error error, endpoint.received request endpoint.kernel) := by
  change ∃ error, (mutation.interpret object handle (endpoint.exchange request).1,
    (endpoint.exchange request).2) = _
  rw [Endpoint.exchange_of_error refused]
  obtain ⟨error, rejected⟩ := Endpoint.exists_checkAll_refused (endpoint.headerOf request) refusal
  dsimp only
  rw [interpret, rejected]
  exact ⟨_, rfl⟩

/-- How a call can go whose request is about a place. The kernel does what `handler` does. -/
inductive Runs (handler : TrafficRequest → Handler Unit) (built : Except Error Request)
    (place : Placement) (endpoint : Endpoint) : Except Error Unit × Endpoint → Prop
  /-- There is no request. -/
  | unbuilt {error : Error} (failed : built = .error error) :
      Runs handler built place endpoint (.error error, endpoint)
  /-- The kernel has refused the request. -/
  | refused {error : Error} {request : Request} (made : built = .ok request)
      (denied : ∀ traffic after, TrafficRequest.read request.payload = .ok traffic →
        handler traffic endpoint.kernel ≠ .ok () after) :
      Runs handler built place endpoint
        (.error error, endpoint.received request endpoint.kernel)
  /-- The kernel has accepted the request. -/
  | accepted {request : Request} {traffic : TrafficRequest} {after : Kernel}
      (made : built = .ok request) (read : TrafficRequest.read request.payload = .ok traffic)
      (placed : traffic.record.place = place)
      (handled : handler traffic endpoint.kernel = .ok () after) :
      Runs handler built place endpoint (.ok (), endpoint.received request after)

theorem record_of_read {place : Placement} {info : UInt32} {rest : Bytes}
    {traffic : TrafficRequest}
    (read : TrafficRequest.read (Record.toBytes (TrafficRecord.ofPlace place info) ++ rest) =
      .ok traffic) : traffic.record = TrafficRecord.ofPlace place info := by
  unfold TrafficRequest.read at read
  rw [TrafficRecord.lawful_layout.readFront_toBytes] at read
  obtain ⟨_, front, read⟩ := Outcome.bind_eq_ok.mp read
  cases front
  obtain ⟨found, _, read⟩ := Outcome.bind_eq_ok.mp read
  split at read
  · cases read
  · dsimp only at read
    split at read
    · cases read
      rfl
    · obtain ⟨kind, _, read⟩ := Outcome.bind_eq_ok.mp read
      cases read
      rfl

theorem exists_eq_withBytes {type : UInt16} {place : Placement} {kind : String}
    {options : Except Error (Option Bytes)}
    (made : mutation.request type place kind options = .ok request) :
    ∃ data, request = mutation.withBytes type place data := by
  by_cases deletes : mutation = .delete
  · subst deletes
    rw [request_delete] at made
    exact ⟨[], (Except.ok.inj made).symm⟩
  · by_cases unwritable : Unwritable kind options
    · cases options with
      | error error =>
          rw [request_of_ne_delete deletes] at made
          cases made
      | ok data =>
          obtain ⟨_, failed⟩ := @request_of_unwritable mutation type place kind (.ok data) deletes
            (fun _ failed => nomatch failed) unwritable
          cases made.symm.trans failed
    · obtain ⟨data, _, _, built⟩ := exists_request deletes type place unwritable
      exact ⟨_, Except.ok.inj (made.symm.trans built)⟩

theorem runs_ofRequest {handler : TrafficRequest → Handler Unit} {type : UInt16}
    {place : Placement} {kind : String} {options : Except Error (Option Bytes)}
    (responds : ∀ request, request.type = type → request.flags = mutation.flags →
      Kernel.respond request = serve handler request.payload)
    (object : String) (handle : Handle) (endpoint : Endpoint) :
    Runs handler (mutation.request type place kind options) place endpoint
      ((Call.ofRequest (mutation.request type place kind options)
        (mutation.interpret object handle)).run Endpoint.transport endpoint) := by
  cases made : mutation.request type place kind options with
  | error error => exact .unbuilt rfl
  | ok request =>
      obtain ⟨data, rfl⟩ := exists_eq_withBytes made
      cases outcome : Kernel.respond (mutation.withBytes type place data) endpoint.kernel with
      | error refusal after =>
          obtain ⟨error, run⟩ := run_exchange_of_error mutation object handle outcome
          rw [Call.ofRequest, run]
          refine .refused rfl fun traffic written read handled => ?_
          rw [responds _ rfl rfl] at outcome
          cases outcome.symm.trans (serve_eq_ok.mpr ⟨rfl, traffic, read, handled⟩)
      | ok reports after =>
          have done := outcome
          rw [responds _ rfl rfl] at done
          obtain ⟨rfl, traffic, read, handled⟩ := serve_eq_ok.mp done
          have run := run_exchange_of_ok rfl object handle outcome
          have placed : traffic.record.place = place := by
            rw [record_of_read read, TrafficRecord.place_ofPlace]
          rw [Call.ofRequest, run]
          exact .accepted rfl read placed handled

theorem runs_ofQdisc (mutation : Mutation) (qdisc : Qdisc) (clock : Clock) (endpoint : Endpoint) :
    Runs mutation.qdiscHandler (mutation.qdiscRequest qdisc clock) qdisc.place endpoint
      ((mutation.ofQdisc qdisc clock).run Endpoint.transport endpoint) :=
  runs_ofRequest (fun _ => respond_qdisc) "qdisc" qdisc.place.handle endpoint

theorem runs_ofClass (mutation : Mutation) (tclass : Class) (clock : Clock) (endpoint : Endpoint) :
    Runs mutation.classHandler (mutation.classRequest tclass clock) tclass.place endpoint
      ((mutation.ofClass tclass clock).run Endpoint.transport endpoint) :=
  runs_ofRequest (fun _ => respond_class) "class" tclass.place.handle endpoint

/-- A call succeeds when the kernel accepts its request. -/
theorem Runs.eq_of_handled {handler : TrafficRequest → Handler Unit} {built : Except Error Request}
    {place : Placement} {outcome : Except Error Unit × Endpoint} {traffic : TrafficRequest}
    (runs : Runs handler built place endpoint outcome) (made : built = .ok request)
    (read : TrafficRequest.read request.payload = .ok traffic)
    (handled : handler traffic endpoint.kernel = .ok () after) :
    outcome = (.ok (), endpoint.received request after) := by
  cases runs with
  | unbuilt failed => cases failed.symm.trans made
  | refused other denied =>
      cases other.symm.trans made
      exact absurd handled (denied traffic after read)
  | accepted other told _ done =>
      cases other.symm.trans made
      cases told.symm.trans read
      cases done.symm.trans handled
      rfl

/-- What the kernel reads of a request that could be made. -/
theorem Conveys.exists_traffic {α : Type} {outcome : Except Error Request} {place : Placement}
    {kind : String} {options : Except Error (Option Bytes)} {read : Bytes → Except Error α}
    {decode : Option Bytes → Except Error α} {request : Request}
    (conveys : Conveys outcome place kind options read decode) (free : '\x00' ∉ kind.toList)
    (made : outcome = .ok request) :
    ∃ data, options = .ok data ∧
      TrafficRequest.read request.payload =
        .ok ⟨TrafficRecord.ofPlace place 0, some kind, data⟩ := by
  by_cases unwritable : Unwritable kind options
  · obtain ⟨fault, refused⟩ := conveys.refused unwritable
    cases refused.symm.trans made
  · obtain ⟨other, data, rest, same, written, payload, parsed, _⟩ := conveys.made unwritable
    cases same.symm.trans made
    refine ⟨data, written, ?_⟩
    rw [payload]
    exact TrafficRequest.read_attributes free _ parsed

/-- What the kernel has been asked to do when a call with a kind and options succeeds. -/
theorem Runs.exists_handled {α : Type} {handler : TrafficRequest → Handler Unit}
    {built : Except Error Request} {place : Placement} {kind : String}
    {options : Except Error (Option Bytes)} {read : Bytes → Except Error α}
    {decode : Option Bytes → Except Error α} {done : Endpoint}
    (runs : Runs handler built place endpoint (.ok (), done))
    (conveys : Conveys built place kind options read decode) (free : '\x00' ∉ kind.toList) :
    ∃ data, options = .ok data ∧
      handler ⟨TrafficRecord.ofPlace place 0, some kind, data⟩ endpoint.kernel =
        .ok () done.kernel := by
  cases runs with
  | accepted made told _ handled =>
      obtain ⟨data, written, same⟩ := conveys.exists_traffic free made
      cases same.symm.trans told
      exact ⟨data, written, handled⟩

/-- A call with a kind and options succeeds when the kernel does what it asks for. -/
theorem Runs.eq_of_conveys {α : Type} {handler : TrafficRequest → Handler Unit}
    {built : Except Error Request} {place : Placement} {kind : String}
    {options : Except Error (Option Bytes)} {read : Bytes → Except Error α}
    {decode : Option Bytes → Except Error α} {outcome : Except Error Unit × Endpoint}
    {data : Option Bytes} (runs : Runs handler built place endpoint outcome)
    (conveys : Conveys built place kind options read decode) (free : '\x00' ∉ kind.toList)
    (made : built = .ok request) (written : options = .ok data)
    (handled : handler ⟨TrafficRecord.ofPlace place 0, some kind, data⟩ endpoint.kernel =
      .ok () after) : outcome = (.ok (), endpoint.received request after) := by
  obtain ⟨_, same, told⟩ := conveys.exists_traffic free made
  cases same.symm.trans written
  exact runs.eq_of_handled made told handled

/-! ## Failures -/

/-- A call that fails leaves the kernel as it was. If there is no request, that is the error, and
the kernel has not heard of it; otherwise it has received that one request. -/
structure Fails (built : Except Error Request) (endpoint : Endpoint) (error : Error)
    (after : Endpoint) : Prop where
  kernel_eq : after.kernel = endpoint.kernel
  unsent : ∀ fault, built = .error fault → error = fault ∧ after = endpoint
  sent : ∀ request, built = .ok request → after = endpoint.received request endpoint.kernel

theorem Runs.fails {handler : TrafficRequest → Handler Unit} {built : Except Error Request}
    {place : Placement} {error : Error} {after : Endpoint}
    (runs : Runs handler built place endpoint (.error error, after)) :
    Fails built endpoint error after := by
  cases runs with
  | unbuilt failed =>
      refine ⟨rfl, fun fault other => ?_, fun request made => ?_⟩
      · exact ⟨Except.error.inj (failed.symm.trans other), rfl⟩
      · cases failed.symm.trans made
  | refused made _ =>
      refine ⟨rfl, fun fault failed => ?_, fun request other => ?_⟩
      · cases made.symm.trans failed
      · rw [Except.ok.inj (made.symm.trans other)]

/-- Whatever the state of the kernel, a mutation of a qdisc or a class that fails leaves it as it
was, and one that fails for want of a request is not even noticed. -/
theorem fails_of_error (mutation : Mutation) (clock : Clock) (endpoint after : Endpoint)
    (error : Error) :
    (∀ qdisc, (mutation.ofQdisc qdisc clock).run Endpoint.transport endpoint =
      (.error error, after) → Fails (mutation.qdiscRequest qdisc clock) endpoint error after) ∧
    (∀ tclass, (mutation.ofClass tclass clock).run Endpoint.transport endpoint =
      (.error error, after) → Fails (mutation.classRequest tclass clock) endpoint error after) := by
  constructor
  · intro qdisc failed
    have runs := runs_ofQdisc mutation qdisc clock endpoint
    rw [failed] at runs
    exact runs.fails
  · intro tclass failed
    have runs := runs_ofClass mutation tclass clock endpoint
    rw [failed] at runs
    exact runs.fails

/-- A qdisc that is to reorder packets without letting any of them wait. -/
def reordersAtOnce : Qdisc :=
  .ofSettings ⟨2, .ofParts 1 0, .root⟩ (.netem { Netem.empty with reorder := ⟨1⟩ })

/-- A second qdisc for a link. -/
def secondRoot : Qdisc := .ofSettings ⟨2, .ofParts 2 0, .root⟩ (.generic "drr" none)

/-- A kernel with one link, to which a qdisc with a class is attached. -/
def oneQdisc : Kernel :=
  ⟨[⟨2, "eth0"⟩], [⟨⟨2, .ofParts 1 0, .root⟩, "hfsc", none⟩],
    [⟨⟨2, .ofParts 1 1, .ofParts 1 0⟩, "hfsc", none⟩], 0x8001⟩

theorem fails_of_error_reordersAtOnce :
    (add.ofQdisc reordersAtOnce .highResolution).run Endpoint.transport (.ofKernel oneQdisc) =
        (.error (.config .reorderWithoutLatency), .ofKernel oneQdisc) ∧
      Fails (add.qdiscRequest reordersAtOnce .highResolution) (.ofKernel oneQdisc)
        (.config .reorderWithoutLatency) (.ofKernel oneQdisc) ∧
      ∃ error after,
        (add.ofQdisc secondRoot .highResolution).run Endpoint.transport (.ofKernel oneQdisc) =
          (.error error, after) ∧
        Fails (add.qdiscRequest secondRoot .highResolution) (.ofKernel oneQdisc) error after ∧
        after.kernel.qdiscs = [⟨⟨2, .ofParts 1 0, .root⟩, "hfsc", none⟩] ∧
        after.kernel.classes = [⟨⟨2, .ofParts 1 1, .ofParts 1 0⟩, "hfsc", none⟩] ∧
        after.requests = [(MessageType.newQdisc, add.flags)] := by
  have unbuilt : (add.ofQdisc reordersAtOnce .highResolution).run Endpoint.transport
      (.ofKernel oneQdisc) = (.error (.config .reorderWithoutLatency), .ofKernel oneQdisc) := rfl
  have refused : ∃ error after, (add.ofQdisc secondRoot .highResolution).run
      Endpoint.transport (.ofKernel oneQdisc) = (.error error, after) := by
    have runs := runs_ofQdisc add secondRoot .highResolution (.ofKernel oneQdisc)
    generalize (add.ofQdisc secondRoot .highResolution).run Endpoint.transport
      (.ofKernel oneQdisc) = outcome at runs
    cases runs with
    | unbuilt _ => exact ⟨_, _, rfl⟩
    | refused _ _ => exact ⟨_, _, rfl⟩
    | @accepted _ traffic _ _ _ placed handled =>
        rcases Kernel.newQdisc_eq_ok handled with ⟨_, changes⟩ | ⟨_, attached, _, _, creates⟩
        · cases changes.shared
        · -- The link has a qdisc already, which may not be replaced.
          have named : ¬ traffic.record.place.handle.isNone = true := by
            rw [placed]
            decide
          have found := creates.found
          rw [placed] at found
          cases (creates.given named).2.2 rfl _ found.symm
  obtain ⟨error, after, failed⟩ := refused
  have fails := (fails_of_error add _ _ _ _).1 _ failed
  have same : after.kernel = oneQdisc := fails.kernel_eq
  have heard := fails.sent _ rfl
  refine ⟨unbuilt, (fails_of_error add _ _ _ _).1 _ unbuilt, error, after, failed, fails, ?_⟩
  rw [heard]
  exact ⟨rfl, rfl, rfl⟩

end Mutation

end TrafficShaping
