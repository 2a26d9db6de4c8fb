import TrafficShaping.Client.Dump
import TrafficShaping.Client.LinkLookup
import TrafficShaping.Proofs.Exchange

/-!
Sessions: calls of a client, one after the other.

Over a whole session the kernel goes through the accepted mutations and nothing else. Each call is
one step of the kernel (`Operation.Step`), which is idle unless the call is a mutation and the kernel
has accepted it. What these steps preserve holds after every session: `Endpoint.holds_session`.
-/

namespace TrafficShaping

/-- A call of the client with what it is about. -/
inductive Operation where
  | mutateQdisc (mutation : Mutation) (qdisc : Qdisc) (clock : Clock)
  | mutateClass (mutation : Mutation) (tclass : Class) (clock : Clock)
  | listQdiscs (link : Option UInt32) (clock : Clock)
  | findQdisc (link : UInt32) (clock : Clock) (condition : Qdisc → Bool)
  | listClasses (link : UInt32) (parent : Handle)
  | resolveLink (link : LinkRef)

namespace Operation

/-- The endpoint after a call. -/
def after (operation : Operation) (endpoint : Endpoint) : Endpoint :=
  match operation with
  | mutateQdisc mutation qdisc clock =>
    ((mutation.ofQdisc qdisc clock).run Endpoint.transport endpoint).2
  | mutateClass mutation tclass clock =>
    ((mutation.ofClass tclass clock).run Endpoint.transport endpoint).2
  | listQdiscs link clock => ((Dump.qdiscs link clock).run Endpoint.transport endpoint).2
  | findQdisc link clock condition =>
    ((Dump.findQdisc link clock condition).run Endpoint.transport endpoint).2
  | listClasses link parent => ((Dump.classes link parent).run Endpoint.transport endpoint).2
  | resolveLink link => (link.resolve.run Endpoint.transport endpoint).2

end Operation

/-- The endpoint after a session. -/
def Endpoint.session (endpoint : Endpoint) (operations : List Operation) : Endpoint :=
  operations.foldl (fun endpoint operation => operation.after endpoint) endpoint

/-! ## Calls that ask -/

namespace Endpoint

theorem kernel_exchange_of_asks (endpoint : Endpoint) {request : Request}
    (asks : request.type = MessageType.getLink ∨ request.type = MessageType.getQdisc ∨
      request.type = MessageType.getClass) :
    (endpoint.exchange request).2.kernel = endpoint.kernel := by
  cases outcome : Kernel.respond request endpoint.kernel with
  | ok reports after =>
      rw [exchange_of_ok outcome]
      exact Kernel.reads_respond asks _ _ _ outcome
  | error refusal after => rw [exchange_of_error outcome]; rfl

end Endpoint

theorem LinkRef.type_of_request {name : String} {request : Request}
    (made : LinkRef.request name = .ok request) : request.type = MessageType.getLink := by
  unfold LinkRef.request at made
  split at made
  · unfold Request.appendText Request.appendAttribute at made
    obtain ⟨header, _, made⟩ := Outcome.bind_eq_ok.mp made
    cases made
    rfl
  · cases made

/-! ## Steps -/

namespace Operation

/-- What a call can do to the kernel. -/
inductive Step : Operation → Kernel → Kernel → Prop
  | idle {operation : Operation} {kernel : Kernel} : Step operation kernel kernel
  | qdisc {mutation : Mutation} {qdisc : Qdisc} {clock : Clock} {kernel after : Kernel}
      {traffic : TrafficRequest} (placed : traffic.record.place = qdisc.place)
      (handled : mutation.qdiscHandler traffic kernel = .ok () after) :
      Step (mutateQdisc mutation qdisc clock) kernel after
  | tclass {mutation : Mutation} {tclass : Class} {clock : Clock} {kernel after : Kernel}
      {traffic : TrafficRequest} (placed : traffic.record.place = tclass.place)
      (handled : mutation.classHandler traffic kernel = .ok () after) :
      Step (mutateClass mutation tclass clock) kernel after

theorem step_of_kernel_eq {operation : Operation} {kernel after : Kernel}
    (same : after = kernel) : Step operation kernel after := same ▸ .idle

theorem kernel_of_runs {handler : TrafficRequest → Handler Unit} {built : Except Error Request}
    {place : Placement} {endpoint : Endpoint} {outcome : Except Error Unit × Endpoint}
    (runs : Mutation.Runs handler built place endpoint outcome) :
    outcome.2.kernel = endpoint.kernel ∨ ∃ traffic : TrafficRequest,
      traffic.record.place = place ∧
        handler traffic endpoint.kernel = .ok () outcome.2.kernel := by
  cases runs with
  | unbuilt _ => exact .inl rfl
  | refused _ _ => exact .inl rfl
  | accepted _ _ placed handled => exact .inr ⟨_, placed, handled⟩

theorem step_after (operation : Operation) (endpoint : Endpoint) :
    Step operation endpoint.kernel (operation.after endpoint).kernel := by
  cases operation with
  | mutateQdisc mutation qdisc clock =>
      rcases kernel_of_runs (mutation.runs_ofQdisc qdisc clock endpoint) with
        same | ⟨traffic, placed, handled⟩
      · exact step_of_kernel_eq same
      · exact .qdisc placed handled
  | mutateClass mutation tclass clock =>
      rcases kernel_of_runs (mutation.runs_ofClass tclass clock endpoint) with
        same | ⟨traffic, placed, handled⟩
      · exact step_of_kernel_eq same
      · exact .tclass placed handled
  | listQdiscs link clock =>
      exact step_of_kernel_eq (endpoint.kernel_exchange_of_asks (.inr (.inl rfl)))
  | findQdisc link clock condition =>
      exact step_of_kernel_eq (endpoint.kernel_exchange_of_asks (.inr (.inl rfl)))
  | listClasses link parent =>
      exact step_of_kernel_eq (endpoint.kernel_exchange_of_asks (.inr (.inr rfl)))
  | resolveLink link =>
      cases link with
      | index number => exact .idle
      | name text =>
          change Step _ _ ((Call.ofRequest (LinkRef.request text) (LinkRef.readIndex text)).run
            Endpoint.transport endpoint).2.kernel
          cases made : LinkRef.request text with
          | error error => exact .idle
          | ok request =>
              have type := LinkRef.type_of_request made
              exact step_of_kernel_eq (endpoint.kernel_exchange_of_asks (.inl type))

end Operation

/-! ## Sessions -/

namespace Endpoint

/-- What every allowed step preserves holds after every session of allowed calls. -/
theorem holds_session {holds : Kernel → Prop} {allowed : Operation → Prop}
    (step : ∀ operation kernel after, allowed operation → operation.Step kernel after →
      holds kernel → holds after) (operations : List Operation) :
    ∀ endpoint : Endpoint, holds endpoint.kernel → (∀ operation ∈ operations, allowed operation) →
      holds (endpoint.session operations).kernel := by
  induction operations with
  | nil => exact fun endpoint start _ => start
  | cons operation operations ih =>
      intro endpoint start all
      refine ih (operation.after endpoint) ?_ fun later member =>
        all later (List.mem_cons_of_mem _ member)
      exact step operation endpoint.kernel _ (all operation List.mem_cons_self)
        (operation.step_after endpoint) start

/-- Whether each call of a session is allowed in the state of the kernel at its time. -/
def Permits (allowed : Kernel → Operation → Prop) : Endpoint → List Operation → Prop
  | _, [] => True
  | endpoint, operation :: operations =>
    allowed endpoint.kernel operation ∧ Permits allowed (operation.after endpoint) operations

/-- What every step preserves that is allowed at its time holds after every session of such calls. -/
theorem holds_session_of_permits {holds : Kernel → Prop} {allowed : Kernel → Operation → Prop}
    (step : ∀ operation kernel after, allowed kernel operation → operation.Step kernel after →
      holds kernel → holds after) (operations : List Operation) :
    ∀ endpoint : Endpoint, holds endpoint.kernel → endpoint.Permits allowed operations →
      holds (endpoint.session operations).kernel := by
  induction operations with
  | nil => exact fun endpoint start _ => start
  | cons operation operations ih =>
      intro endpoint start permits
      refine ih (operation.after endpoint) ?_ permits.2
      exact step operation endpoint.kernel _ permits.1 (operation.step_after endpoint) start

end Endpoint

end TrafficShaping
