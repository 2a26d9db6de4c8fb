import TrafficShaping.Proofs.Exchange
import TrafficShaping.Proofs.LinkLookup
import TrafficShaping.Proofs.Session.Defaults

/-!
The lookup of a link, from the client to the kernel and back.

The kernel reads the name of the request and answers with the first link that has it, or with an
error report that says that there is none (`Kernel.respond_lookup`). Its reply is the first and
only one that decides, so that a lookup finds exactly the links of the kernel
(`LinkRef.run_resolve_of_usable`).
-/

namespace TrafficShaping

open LinkRef

variable {name : String} {endpoint : Endpoint} {link : Link}

/-! ## What the kernel does -/

namespace Kernel

/-- What the kernel reports of a link. -/
def linkReport (link : Link) : Bytes :=
  Record.toBytes (LinkRecord.ofIndex link.index) ++
    (Attribute.ofText LinkRecord.nameTag link.name).write.toOption.getD []

theorem getLink_lookup (kernel : Kernel) (usable : ¬ Unusable name) :
    kernel.getLink (lookup name).payload =
      match kernel.links.find? (·.name == name) with
      | some link => .ok (MessageType.newLink, linkReport link)
      | none => .error .missingDevice := by
  have named : Tagged.find? [⟨LinkRecord.nameTag, Text.Utf8.encode name ++ [0]⟩]
      LinkRecord.nameTag = some (Text.Utf8.encode name ++ [0]) := Tagged.find?_cons_self _ []
  unfold getLink lookup
  simp only [LinkRecord.lawful_layout.readFront_toBytes, parse_nameRecord usable, named,
    readText_name usable, Except.mapError, Except.toOption, Option.bind_some, bind, Except.bind]
  unfold linkReport
  cases kernel.links.find? (·.name == name) with
  | none => rfl
  | some link => rfl

theorem respond_lookup (kernel : Kernel) (usable : ¬ Unusable name) :
    respond (lookup name) kernel =
      match kernel.links.find? (·.name == name) with
      | some link => .ok [(MessageType.newLink, linkReport link)] kernel
      | none => .error .missingDevice kernel := by
  change
    (Handler.check (·.getLink (lookup name).payload) >>= fun report => pure [report]) kernel = _
  rw [Handler.check_bind, getLink_lookup kernel usable]
  cases kernel.links.find? (·.name == name) with
  | none => rfl
  | some link => rfl

end Kernel

/-! ## What the client makes of it -/

namespace LinkRef

theorem tells_reported {header : MessageHeader}
    (single : MessageFlag.isSet header.flags MessageFlag.dump = false) (name : String)
    (link : Link) :
    Tells name (Endpoint.replies header (.ok [(MessageType.newLink, Kernel.linkReport link)]))
      (.ok link.index) := by
  have decisive : (Endpoint.replies header
      (.ok [(MessageType.newLink, Kernel.linkReport link)])).find? decides =
        some (Endpoint.reply header MessageType.newLink 0 (Kernel.linkReport link)) := by
    unfold Endpoint.replies
    dsimp only
    rw [single]
    exact List.find?_cons_of_pos rfl
  have same : (LinkRecord.ofIndex link.index).linkIndex = link.index := UInt32.toUInt32_toInt32 _
  exact same ▸ .found decisive rfl rfl

theorem tells_refused (name : String) (header : MessageHeader) :
    Tells name (Endpoint.replies header (.error .missingDevice))
      (.error (.interfaceNotFound name)) := by
  have nonzero : -Refusal.missingDevice.errno ≠ 0 := by decide
  have absent : (-Refusal.missingDevice.errno).abs ∈ [Errno.noEntry, Errno.noDevice] := by decide
  have fails : (Endpoint.refuse header .missingDevice).fails = true :=
    Message.fails_of_append rfl rfl nonzero
  have decided : decides (Endpoint.refuse header .missingDevice) = true :=
    Bool.or_eq_true_iff.mpr (.inr fails)
  exact .missing (List.find?_cons_of_pos decided) rfl rfl absent

/-- What comes of looking a name up among links: the index of the first link that has it. -/
def indexAmong (links : List Link) (name : String) : Except Error UInt32 :=
  match links.find? (·.name == name) with
  | some link => .ok link.index
  | none => .error (.interfaceNotFound name)

theorem run_resolve_of_usable (usable : ¬ Unusable name) (endpoint : Endpoint) :
    (resolve (.name name)).run Endpoint.transport endpoint =
      (indexAmong endpoint.kernel.links name,
        endpoint.received (lookup name) endpoint.kernel) := by
  have responds := Kernel.respond_lookup endpoint.kernel usable
  rw [resolve_of_usable usable]
  unfold indexAmong
  change (readIndex name (endpoint.exchange (lookup name)).1,
    (endpoint.exchange (lookup name)).2) = _
  cases found : endpoint.kernel.links.find? (·.name == name) with
  | some link =>
      rw [found] at responds
      rw [Endpoint.exchange_of_ok responds]
      have single : MessageFlag.isSet (endpoint.headerOf (lookup name)).flags MessageFlag.dump =
          false := by
        change MessageFlag.isSet (MessageFlag.request ||| MessageFlag.acknowledge) _ = false
        decide
      exact Prod.ext (readIndex_eq_of_tells (tells_reported single name link)) rfl
  | none =>
      rw [found] at responds
      rw [Endpoint.exchange_of_error responds]
      exact Prod.ext (readIndex_eq_of_tells (tells_refused name _)) rfl

/-- How the link of a name is found. -/
structure Resolves (name : String) : Prop where
  /-- Over any transport, nothing is sent and there is no such link exactly when no link can have
  the name. -/
  unsent_iff : ∀ {σ : Type} (transport : Transport σ) (state : σ) (sent : List Request),
    (resolve (.name name)).run transport.recorded (state, sent) =
      (.error (.interfaceNotFound name), state, sent) ↔ Unusable name
  /-- Any other name is asked for once. An error of the transport is the outcome as it is. -/
  sent : ¬ Unusable name → ∃ request, Asks name request ∧
    ∀ {σ : Type} (transport : Transport σ) (state : σ) (sent : List Request),
      (resolve (.name name)).run transport.recorded (state, sent) =
        ((transport state request).1.bind (resolve (.name name)).outcome,
          (transport state request).2, sent ++ [request])
  /-- The outcome is the one that the replies tell. -/
  told : ¬ Unusable name → ∀ replies outcome,
    (resolve (.name name)).outcome replies = outcome ↔ Tells name replies outcome
  /-- The kernel tells the index of the first of its links that has the name, if there is one, and
  is not changed. -/
  known : ¬ Unusable name → ∀ endpoint : Endpoint,
    (resolve (.name name)).run Endpoint.transport endpoint =
      (indexAmong endpoint.kernel.links name,
        endpoint.received (lookup name) endpoint.kernel)
  /-- So does a kernel that has received nothing before, whatever links it is given. -/
  given : ¬ Unusable name → ∀ links : List Link,
    ((resolve (.name name)).run Endpoint.transport (.ofKernel (.ofLinks links))).1 =
      indexAmong links name

theorem run_recorded_of_usable (usable : ¬ Unusable name) {σ : Type} (transport : Transport σ)
    (state : σ) (sent : List Request) :
    (resolve (.name name)).run transport.recorded (state, sent) =
      ((transport state (lookup name)).1.bind (resolve (.name name)).outcome,
        (transport state (lookup name)).2, sent ++ [lookup name]) := by
  rw [resolve_of_usable usable]
  rfl

/-- Every name is resolved so. -/
theorem resolves_name (name : String) : Resolves name where
  unsent_iff {σ} transport state sent := by
    constructor
    · intro quiet
      by_contra usable
      rw [run_recorded_of_usable usable] at quiet
      have same : sent ++ [lookup name] = sent := congrArg (fun outcome => outcome.2.2) quiet
      exact absurd same (by simp)
    · intro unusable
      rw [resolve_of_unusable unusable]
      rfl
  sent usable := ⟨lookup name, asks_lookup usable, run_recorded_of_usable usable⟩
  told usable replies outcome := by
    rw [← readIndex_eq_iff, resolve_of_usable usable]
    rfl
  known := run_resolve_of_usable
  given usable links := by
    rw [run_resolve_of_usable usable]
    exact congrArg (indexAmong · name) (Kernel.links_ofLinks links)

/-- Two links share a name, and one has the greatest index there is. -/
def sharedName : List Link := [⟨1, "lo"⟩, ⟨0xFFFFFFFF, "eth0"⟩, ⟨3, "eth0"⟩]

/-- A report that a privilege is missing. -/
def notPermitted : ErrorReport := ⟨-1, .ofType MessageType.getLink 5⟩

/-- A message that is no answer, and the report. -/
def denied : List Message :=
  [⟨.ofType MessageType.done 0, []⟩, ⟨.ofType MessageType.error 0, Record.toBytes notPermitted⟩]

theorem resolves_name_sharedName :
    ¬ Unusable "eth0" ∧ Unusable "eth\u00a00" ∧
      ((resolve (.name "eth0")).run Endpoint.transport (.ofKernel (.ofLinks sharedName))).1 =
        .ok 0xFFFFFFFF ∧
      ((resolve (.name "eth1")).run Endpoint.transport (.ofKernel (.ofLinks sharedName))).1 =
        .error (.interfaceNotFound "eth1") ∧
      (resolve (.name "eth0")).run Endpoint.transport.recorded (.ofKernel .empty, []) ≠
        (.error (.interfaceNotFound "eth0"), .ofKernel .empty, []) ∧
      ∃ text, (resolve (.name "eth0")).outcome denied =
        .error (.context "resolving interface eth0" (.rejected .permissionDenied 1 text)) := by
  have usable : ¬ Unusable "eth0" := isName_eq_true_iff.mp (by decide +kernel)
  have unknown : ¬ Unusable "eth1" := isName_eq_true_iff.mp (by decide +kernel)
  have barred : Unusable "eth\u00a00" :=
    @Unusable.barred _ '\u00a0' (by decide) (.inr (.inr (by decide)))
  have other : notPermitted.code.abs ∉ [Errno.noEntry, Errno.noDevice] := by decide
  have words : description "eth0" = "resolving interface eth0" := by decide +kernel
  have tells : Tells "eth0" denied _ :=
    @Tells.refused "eth0" denied _ notPermitted [] rfl rfl (List.append_nil _).symm other
  rw [words] at tells
  refine ⟨usable, barred, (resolves_name "eth0").given usable sharedName,
    (resolves_name "eth1").given unknown sharedName,
    mt ((resolves_name "eth0").unsent_iff Endpoint.transport _ []).mp usable, _,
    ((resolves_name "eth0").told usable denied _).mpr tells⟩

end LinkRef

end TrafficShaping
