import TrafficShaping.Proofs.Dump.Locality
import TrafficShaping.Proofs.Session.Places

/-!
Sessions on different links do not interfere.

A mutation goes by the link that it is about and leaves the other links alone, and what the client
gets to see of a refusal does not depend on how many requests there have been before. So of any
session, what concerns one link is what the calls about this link come to without the others
(`Endpoint.filter_trace`). When calls about two links are made in turns, in whatever order, each of
them has the outcome that it has without the other link (`Endpoint.interleaves_trace`).
-/

namespace TrafficShaping

/-! ## Interleavings -/

/-- A list whose elements come from two others, which keep their orders. -/
inductive Interleaves {α : Type} : List α → List α → List α → Prop
  | nil : Interleaves [] [] []
  | left {value : α} {first second mixed : List α} (later : Interleaves first second mixed) :
      Interleaves (value :: first) second (value :: mixed)
  | right {value : α} {first second mixed : List α} (later : Interleaves first second mixed) :
      Interleaves first (value :: second) (value :: mixed)

namespace Interleaves

variable {α : Type} {first second mixed : List α} {keeps : α → Bool}

theorem swap (interleaves : Interleaves first second mixed) : Interleaves second first mixed := by
  induction interleaves with
  | nil => exact .nil
  | left _ ih => exact .right ih
  | right _ ih => exact .left ih

theorem mem (interleaves : Interleaves first second mixed) {value : α} (member : value ∈ mixed) :
    value ∈ first ∨ value ∈ second := by
  induction interleaves with
  | nil => cases member
  | left _ ih =>
      rcases List.mem_cons.mp member with rfl | later
      · exact .inl List.mem_cons_self
      · exact (ih later).imp_left (List.mem_cons_of_mem _)
  | right _ ih =>
      rcases List.mem_cons.mp member with rfl | later
      · exact .inr List.mem_cons_self
      · exact (ih later).imp_right (List.mem_cons_of_mem _)

/-- What distinguishes the two lists gets the first one back. -/
theorem filter_eq (interleaves : Interleaves first second mixed)
    (kept : ∀ value ∈ first, keeps value = true) (dropped : ∀ value ∈ second, ¬ keeps value = true) :
    mixed.filter keeps = first := by
  induction interleaves with
  | nil => rfl
  | left _ ih =>
      rw [List.filter_cons_of_pos (kept _ List.mem_cons_self),
        ih (fun value member => kept value (List.mem_cons_of_mem _ member)) dropped]
  | right _ ih =>
      rw [List.filter_cons_of_neg (dropped _ List.mem_cons_self),
        ih kept fun value member => dropped value (List.mem_cons_of_mem _ member)]

theorem of_filter (keeps : α → Bool) (mixed : List α) :
    Interleaves (mixed.filter keeps) (mixed.filter (!keeps ·)) mixed := by
  induction mixed with
  | nil => exact .nil
  | cons value mixed ih =>
      cases kept : keeps value with
      | true =>
          rw [List.filter_cons_of_pos kept, List.filter_cons_of_neg (by simp [kept])]
          exact .left ih
      | false =>
          rw [List.filter_cons_of_neg (by simp [kept]), List.filter_cons_of_pos (by simp [kept])]
          exact .right ih

end Interleaves

/-! ## Refusals as the client sees them -/

namespace ErrorReport

/-- A capped report has its attributes right behind it. -/
theorem attributes_capped (reader report : ErrorReport) (rest : Bytes) :
    reader.attributes (Record.toBytes report ++ rest)
      (MessageFlag.capped ||| MessageFlag.reportAttributes) = Tagged.scan rest := by
  have told : MessageFlag.isSet (MessageFlag.capped ||| MessageFlag.reportAttributes)
      MessageFlag.reportAttributes = true := by decide
  have short : MessageFlag.isSet (MessageFlag.capped ||| MessageFlag.reportAttributes)
      MessageFlag.capped = true := by decide
  have length : (Record.toBytes report).length = size + 0 := lawful_layout.length_toBytes report
  unfold attributes
  rw [told, short]
  dsimp only
  rw [if_pos rfl, if_pos rfl, List.drop_left' length]

end ErrorReport

namespace Endpoint

theorem rejection?_refuse_eq (first second : MessageHeader) (refusal : Refusal) :
    (refuse first refusal).rejection? = (refuse second refusal).rejection? := by
  have seen (header : MessageHeader) : (refuse header refusal).rejection? =
      .ok (ErrorReport.rejection? ⟨-refusal.errno, header⟩
        (refuse header refusal).payload (MessageFlag.capped ||| MessageFlag.reportAttributes)) := by
    unfold Message.rejection?
    rw [if_pos (by rfl), refuse, reply, ErrorReport.lawful_layout.read_toBytes_append]
    rfl
  rw [seen, seen]
  unfold ErrorReport.rejection? ErrorReport.text? ErrorReport.isAcknowledgement refuse reply
  dsimp only
  rw [ErrorReport.attributes_capped, ErrorReport.attributes_capped]

/-- A refusal is reported in the same way whatever the number of the request. -/
theorem checkAll_refused_eq (first second : MessageHeader) (refusal : Refusal) :
    Message.checkAll (replies first (.error refusal)) =
      Message.checkAll (replies second (.error refusal)) := by
  change Message.checkAll [refuse first refusal] = Message.checkAll [refuse second refusal]
  unfold Message.checkAll
  rw [rejection?_refuse_eq first second]

theorem kernel_exchange (endpoint : Endpoint) (request : Request) :
    (endpoint.exchange request).2.kernel =
      Handler.left (Kernel.respond request endpoint.kernel) := by
  unfold exchange
  cases Kernel.respond request endpoint.kernel with
  | ok reports after => rfl
  | error refusal after => rfl

end Endpoint

/-! ## Mutations -/

/-- What a client does to a qdisc or to a class. -/
inductive Act where
  | qdisc (mutation : Mutation) (object : Qdisc) (clock : Clock)
  | tclass (mutation : Mutation) (object : Class) (clock : Clock)

namespace Act

def place : Act → Placement
  | .qdisc _ object _ => object.place
  | .tclass _ object _ => object.place

/-- The link of the object. -/
def link (act : Act) : UInt32 := act.place.link

def operation : Act → Operation
  | .qdisc mutation object clock => .mutateQdisc mutation object clock
  | .tclass mutation object clock => .mutateClass mutation object clock

def call : Act → Call Unit
  | .qdisc mutation object clock => mutation.ofQdisc object clock
  | .tclass mutation object clock => mutation.ofClass object clock

/-- The outcome of the call, and the endpoint after it. -/
def run (act : Act) (endpoint : Endpoint) : Except Error Unit × Endpoint :=
  act.call.run Endpoint.transport endpoint

/-- The request, if there is one. -/
def built : Act → Except Error Request
  | .qdisc mutation object clock => mutation.qdiscRequest object clock
  | .tclass mutation object clock => mutation.classRequest object clock

/-- What the replies say. -/
def interpret : Act → List Message → Except Error Unit
  | .qdisc mutation object _ => mutation.interpret "qdisc" object.place.handle
  | .tclass mutation object _ => mutation.interpret "class" object.place.handle

/-- What the kernel does with the request. -/
def handler : Act → TrafficRequest → Handler Unit
  | .qdisc mutation _ _ => mutation.qdiscHandler
  | .tclass mutation _ _ => mutation.classHandler

variable {act : Act} {request : Request} {endpoint other : Endpoint} {link : UInt32}

theorem call_eq (act : Act) : act.call = Call.ofRequest act.built act.interpret := by
  cases act with
  | qdisc mutation object clock => rfl
  | tclass mutation object clock => rfl

theorem run_of_unbuilt {error : Error} (failed : act.built = .error error) (endpoint : Endpoint) :
    act.run endpoint = (.error error, endpoint) := by
  rw [run, call_eq, failed]
  rfl

theorem run_of_built (made : act.built = .ok request) (endpoint : Endpoint) :
    act.run endpoint =
      (act.interpret (endpoint.exchange request).1, (endpoint.exchange request).2) := by
  rw [run, call_eq, made]
  rfl

/-! ### Outcomes -/

theorem interpret_refused_eq (act : Act) (first second : MessageHeader) (refusal : Refusal) :
    act.interpret (Endpoint.replies first (.error refusal)) =
      act.interpret (Endpoint.replies second (.error refusal)) := by
  cases act with
  | qdisc mutation object clock =>
      exact congrArg (Except.mapError _) (Endpoint.checkAll_refused_eq first second refusal)
  | tclass mutation object clock =>
      exact congrArg (Except.mapError _) (Endpoint.checkAll_refused_eq first second refusal)

/-- The kernel reads a request as one about the place of the object, and hands it to the handler. -/
theorem respond_of_built (made : act.built = .ok request) :
    Kernel.respond request = Mutation.serve act.handler request.payload ∧
      ∀ traffic, TrafficRequest.read request.payload = .ok traffic →
        traffic.record.place = act.place := by
  cases act with
  | qdisc mutation object clock =>
      obtain ⟨data, rfl⟩ := Mutation.exists_eq_withBytes made
      refine ⟨Mutation.respond_qdisc rfl rfl, fun traffic read => ?_⟩
      rw [Mutation.record_of_read read, TrafficRecord.place_ofPlace]
      rfl
  | tclass mutation object clock =>
      obtain ⟨data, rfl⟩ := Mutation.exists_eq_withBytes made
      refine ⟨Mutation.respond_class rfl rfl, fun traffic read => ?_⟩
      rw [Mutation.record_of_read read, TrafficRecord.place_ofPlace]
      rfl

theorem interpret_of_ok (made : act.built = .ok request) {reports : List Report} {after : Kernel}
    (accepted : Kernel.respond request endpoint.kernel = .ok reports after) :
    act.interpret (endpoint.exchange request).1 = .ok () := by
  have done := accepted
  rw [(respond_of_built made).1] at done
  obtain ⟨rfl, _⟩ := Mutation.serve_eq_ok.mp done
  cases act with
  | qdisc mutation object clock =>
      obtain ⟨data, rfl⟩ := Mutation.exists_eq_withBytes made
      exact congrArg Prod.fst (Mutation.run_exchange_of_ok rfl "qdisc" object.place.handle accepted)
  | tclass mutation object clock =>
      obtain ⟨data, rfl⟩ := Mutation.exists_eq_withBytes made
      exact congrArg Prod.fst (Mutation.run_exchange_of_ok rfl "class" object.place.handle accepted)

/-! ### Links -/

theorem confined_handler (given : act.operation.GivesHandle) {traffic : TrafficRequest}
    (placed : traffic.record.place = act.place) : (act.handler traffic).Confined act.link := by
  unfold link
  rw [← placed]
  cases act with
  | qdisc mutation object clock =>
      change (mutation.qdiscHandler traffic).Confined traffic.record.place.link
      unfold Mutation.qdiscHandler
      split
      · exact Kernel.confined_deleteQdisc traffic
      · refine Kernel.confined_newQdisc mutation.flags traffic fun creates => ?_
        rw [placed]
        exact given.given creates
  | tclass mutation object clock =>
      change (mutation.classHandler traffic).Confined traffic.record.place.link
      unfold Mutation.classHandler
      split
      · exact Kernel.confined_deleteClass traffic
      · exact Kernel.confined_newClass mutation.flags traffic

theorem confined_respond (given : act.operation.GivesHandle) (made : act.built = .ok request) :
    (Kernel.respond request).Confined act.link := by
  obtain ⟨serves, placed⟩ := respond_of_built made
  rw [serves]
  refine Handler.confined_check_bind (fun _ => rfl) fun _ traffic read => ?_
  exact (confined_handler given (placed traffic read)).bind fun _ => Handler.confined_pure []

/-- A call has the same outcome on two kernels that agree on its link, and they agree again. -/
theorem run_eq_of_onLink_eq (given : act.operation.GivesHandle)
    (same : endpoint.kernel.onLink act.link = other.kernel.onLink act.link) :
    (act.run endpoint).1 = (act.run other).1 ∧
      (act.run endpoint).2.kernel.onLink act.link = (act.run other).2.kernel.onLink act.link := by
  cases made : act.built with
  | error error =>
      rw [run_of_unbuilt made, run_of_unbuilt made]
      exact ⟨rfl, same⟩
  | ok request =>
      have confined := confined_respond given made
      have seen := (confined.onLink endpoint.kernel).symm.trans
        ((congrArg (Kernel.respond request) same).trans (confined.onLink other.kernel))
      rw [run_of_built made, run_of_built made, Endpoint.kernel_exchange, Endpoint.kernel_exchange]
      cases here : Kernel.respond request endpoint.kernel with
      | ok reports after =>
          rw [here] at seen
          cases there : Kernel.respond request other.kernel with
          | ok reports' after' =>
              rw [there] at seen
              obtain ⟨_, kernels⟩ := EStateM.Result.ok.inj seen
              exact ⟨(interpret_of_ok made here).trans (interpret_of_ok made there).symm, kernels⟩
          | error refusal after' =>
              rw [there] at seen
              cases seen
      | error refusal after =>
          rw [here] at seen
          cases there : Kernel.respond request other.kernel with
          | ok reports after' =>
              rw [there] at seen
              cases seen
          | error refusal' after' =>
              rw [there] at seen
              obtain ⟨rfl, kernels⟩ := EStateM.Result.error.inj seen
              rw [Endpoint.exchange_of_error here, Endpoint.exchange_of_error there]
              exact ⟨act.interpret_refused_eq _ _ refusal, kernels⟩

/-- A call leaves the other links as they were. -/
theorem onLink_run_of_ne (given : act.operation.GivesHandle) (apart : link ≠ act.link)
    (endpoint : Endpoint) :
    (act.run endpoint).2.kernel.onLink link = endpoint.kernel.onLink link := by
  cases made : act.built with
  | error error => rw [run_of_unbuilt made]
  | ok request =>
      rw [run_of_built made, Endpoint.kernel_exchange]
      exact (confined_respond given made).elsewhere apart endpoint.kernel

end Act

/-! ## Sessions -/

namespace Endpoint

/-- The endpoint after some mutations. -/
def acted (endpoint : Endpoint) (acts : List Act) : Endpoint :=
  acts.foldl (fun endpoint act => (act.run endpoint).2) endpoint

/-- Some mutations with their outcomes. -/
def trace : Endpoint → List Act → List (Act × Except Error Unit)
  | _, [] => []
  | endpoint, act :: acts => (act, (act.run endpoint).1) :: trace (act.run endpoint).2 acts

theorem map_fst_trace (endpoint : Endpoint) (acts : List Act) :
    (endpoint.trace acts).map Prod.fst = acts := by
  induction acts generalizing endpoint with
  | nil => rfl
  | cons act acts ih => exact congrArg (act :: ·) (ih _)

/-- What concerns one link is what the calls about this link come to without the others. -/
theorem filter_trace {link : UInt32} {acts : List Act}
    (given : ∀ act ∈ acts, act.operation.GivesHandle) {endpoint other : Endpoint}
    (same : endpoint.kernel.onLink link = other.kernel.onLink link) :
    (endpoint.trace acts).filter (·.1.link == link) = other.trace (acts.filter (·.link == link)) ∧
      (endpoint.acted acts).kernel.onLink link =
        (other.acted (acts.filter (·.link == link))).kernel.onLink link := by
  induction acts generalizing endpoint other with
  | nil => exact ⟨rfl, same⟩
  | cons act acts ih =>
      have first := given act List.mem_cons_self
      have rest := fun later member => given later (List.mem_cons_of_mem act member)
      by_cases about : act.link = link
      · subst about
        have chosen : (act :: acts).filter (·.link == act.link) =
            act :: acts.filter (·.link == act.link) :=
          List.filter_cons_of_pos (beq_self_eq_true act.link)
        obtain ⟨outcome, kernels⟩ := Act.run_eq_of_onLink_eq first same
        obtain ⟨later, after⟩ := ih rest kernels
        rw [chosen]
        refine ⟨Eq.trans (List.filter_cons_of_pos (beq_self_eq_true act.link)) ?_, after⟩
        rw [later, outcome]
        rfl
      · have apart : ¬ (act.link == link) = true := fun equal => about (beq_iff_eq.mp equal)
        have passed : (act :: acts).filter (·.link == link) = acts.filter (·.link == link) :=
          List.filter_cons_of_neg apart
        have elsewhere := Act.onLink_run_of_ne first (Ne.symm about) endpoint
        obtain ⟨later, after⟩ := ih rest (elsewhere.trans same)
        rw [passed]
        exact ⟨Eq.trans (List.filter_cons_of_neg apart) later, after⟩

/-- Two kernels that agree on a link: in its entries and their order, and in all that a dump tells of
it. -/
structure Agree (link : UInt32) (kernel other : Kernel) : Prop where
  qdiscs : kernel.qdiscs.filter (·.place.link == link) = other.qdiscs.filter (·.place.link == link)
  classes :
    kernel.classes.filter (·.place.link == link) = other.classes.filter (·.place.link == link)
  reportedQdiscs : kernel.dumpQdiscs.filter (Kernel.reportedLink · == some link) =
    other.dumpQdiscs.filter (Kernel.reportedLink · == some link)
  reportedClasses : ∀ parent, kernel.dumpClasses link parent = other.dumpClasses link parent

theorem agree_of_onLink_eq {link : UInt32} {kernel other : Kernel}
    (same : kernel.onLink link = other.onLink link) : Agree link kernel other where
  qdiscs := congrArg Kernel.qdiscs same
  classes := congrArg Kernel.classes same
  reportedQdiscs := by rw [← Kernel.dumpQdiscs_onLink, ← Kernel.dumpQdiscs_onLink, same]
  reportedClasses parent := by
    rw [← Kernel.dumpClasses_onLink, same, Kernel.dumpClasses_onLink]

/-- Calls about two links may be made in turns. Whatever the state of the kernel, each call has the
outcome that it has when the calls about its link are made alone, and either link is left as these
calls leave it. -/
theorem interleaves_trace {a b : UInt32} (apart : a ≠ b) {first second mixed : List Act}
    (aboutA : ∀ act ∈ first, act.link = a) (aboutB : ∀ act ∈ second, act.link = b)
    (given : ∀ act ∈ mixed, act.operation.GivesHandle)
    (interleaves : Interleaves first second mixed) (endpoint : Endpoint) :
    Interleaves (endpoint.trace first) (endpoint.trace second) (endpoint.trace mixed) ∧
      Agree a (endpoint.acted mixed).kernel (endpoint.acted first).kernel ∧
      Agree b (endpoint.acted mixed).kernel (endpoint.acted second).kernel := by
  have onA : mixed.filter (·.link == a) = first := by
    refine interleaves.filter_eq (fun act member => beq_iff_eq.mpr (aboutA act member)) ?_
    intro act member same
    exact apart ((beq_iff_eq.mp same).symm.trans (aboutB act member))
  have onB : mixed.filter (·.link == b) = second := by
    refine interleaves.swap.filter_eq (fun act member => beq_iff_eq.mpr (aboutB act member)) ?_
    intro act member same
    exact apart ((aboutA act member).symm.trans (beq_iff_eq.mp same))
  obtain ⟨traceA, kernelA⟩ := @filter_trace a mixed given endpoint endpoint rfl
  obtain ⟨traceB, kernelB⟩ := @filter_trace b mixed given endpoint endpoint rfl
  rw [onA] at traceA kernelA
  rw [onB] at traceB kernelB
  refine ⟨?_, agree_of_onLink_eq kernelA, agree_of_onLink_eq kernelB⟩
  -- What is not about the one link is about the other one.
  have rest : (endpoint.trace mixed).filter (!·.1.link == a) =
      (endpoint.trace mixed).filter (·.1.link == b) := by
    refine List.filter_congr fun done member => ?_
    have among := List.mem_map_of_mem (f := Prod.fst) member
    rw [map_fst_trace] at among
    rcases interleaves.mem among with isA | isB
    · rw [aboutA _ isA, beq_self_eq_true, beq_eq_false_iff_ne.mpr apart]
      rfl
    · rw [aboutB _ isB, beq_self_eq_true, beq_eq_false_iff_ne.mpr (Ne.symm apart)]
      rfl
  have split := Interleaves.of_filter (·.1.link == a) (endpoint.trace mixed)
  rw [rest, traceA, traceB] at split
  exact split

/-- On one link a qdisc and a class of it. -/
def setUp : List Act :=
  [.qdisc .add (.ofSettings ⟨2, .ofParts 1 0, .root⟩ (.hfsc ⟨2⟩)) .highResolution,
    .tclass .add (.ofSettings ⟨2, .ofParts 1 1, .root⟩ (.generic "hfsc" none)) .highResolution]

/-- On another link a qdisc of the same handle, which is then deleted. -/
def setUpAndDelete : List Act :=
  [.qdisc .replace (.ofSettings ⟨3, .ofParts 1 0, .root⟩ (.hfsc ⟨5⟩)) .highResolution,
    .qdisc .delete (.ofSettings ⟨3, .none, .root⟩ (.generic "" none)) .highResolution]

theorem interleaves_trace_setUp :
    ∃ mixed, Interleaves setUp setUpAndDelete mixed ∧
      Interleaves ((ofKernel (.ofLinks [⟨2, "eth0"⟩, ⟨3, "eth1"⟩])).trace setUp)
        ((ofKernel (.ofLinks [⟨2, "eth0"⟩, ⟨3, "eth1"⟩])).trace setUpAndDelete)
        ((ofKernel (.ofLinks [⟨2, "eth0"⟩, ⟨3, "eth1"⟩])).trace mixed) ∧
      Agree 2 ((ofKernel (.ofLinks [⟨2, "eth0"⟩, ⟨3, "eth1"⟩])).acted mixed).kernel
        ((ofKernel (.ofLinks [⟨2, "eth0"⟩, ⟨3, "eth1"⟩])).acted setUp).kernel ∧
      Agree 3 ((ofKernel (.ofLinks [⟨2, "eth0"⟩, ⟨3, "eth1"⟩])).acted mixed).kernel
        ((ofKernel (.ofLinks [⟨2, "eth0"⟩, ⟨3, "eth1"⟩])).acted setUpAndDelete).kernel := by
  have inTurns : Interleaves setUp setUpAndDelete _ := .right (.left (.left (.right .nil)))
  have aboutFirst : ∀ act ∈ setUp, act.link = 2 := by decide
  have aboutSecond : ∀ act ∈ setUpAndDelete, act.link = 3 := by decide
  have given : ∀ act ∈ setUpAndDelete ++ setUp, act.operation.GivesHandle := by
    refine List.forall_mem_append.mpr ⟨?_, ?_⟩
    · exact List.forall_mem_cons.mpr ⟨fun _ => rfl, List.forall_mem_singleton.mpr fun creates => by
        rcases creates with add | replace
        · cases add
        · cases replace⟩
    · exact List.forall_mem_cons.mpr ⟨fun _ => rfl, List.forall_mem_singleton.mpr trivial⟩
  have apart : (2 : UInt32) ≠ 3 := by decide
  refine ⟨_, inTurns, interleaves_trace apart aboutFirst aboutSecond (fun act member => ?_) inTurns _⟩
  rcases inTurns.mem member with first | second
  · exact given act (List.mem_append_right _ first)
  · exact given act (List.mem_append_left _ second)

end Endpoint

end TrafficShaping
