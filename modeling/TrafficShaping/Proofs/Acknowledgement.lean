import TrafficShaping.Proofs.Replies
import TrafficShaping.Proofs.Request

/-!
What the replies to a mutation come to.

A mutation for which there is no request is over with a fault of the configuration, and any other
sends one request. Of its replies only error reports count: it has succeeded when all of them are
complete and have the code zero, and otherwise the first that is not so decides
(`Mutation.Verdict`). A report that is too short is an error as it is, and a code is put under the
name of what was going on (`Mutation.settles`).
-/

namespace TrafficShaping.Mutation

variable {mutation : Mutation} {error : Error}

/-! ## Without a request -/

theorem Conveys.exists_fault {α : Type} {built : Except Error Request} {place : Placement}
    {kind : String} {options : Except Error (Option Bytes)} {read : Bytes → Except Error α}
    {decode : Option Bytes → Except Error α}
    (conveys : Conveys built place kind options read decode) (failed : built = .error error) :
    ∃ fault, error = .config fault := by
  by_cases unwritable : Unwritable kind options
  · obtain ⟨fault, refused⟩ := conveys.refused unwritable
    exact ⟨fault, Except.error.inj (failed.symm.trans refused)⟩
  · obtain ⟨_, _, _, made, _⟩ := conveys.made unwritable
    cases failed.symm.trans made

theorem exists_fault_of_qdiscRequest {qdisc : Qdisc} {clock : Clock}
    (failed : mutation.qdiscRequest qdisc clock = .error error) :
    ∃ fault, error = .config fault := by
  by_cases deletes : mutation = .delete
  · subst deletes
    obtain ⟨_, made, _⟩ := exists_request_delete delete.qdiscType qdisc.place qdisc.kindName
      (qdisc.settings.encode clock)
    cases made.symm.trans failed
  · exact (conveys_qdiscRequest deletes qdisc clock).exists_fault failed

theorem exists_fault_of_classRequest {tclass : Class} {clock : Clock}
    (failed : mutation.classRequest tclass clock = .error error) :
    ∃ fault, error = .config fault := by
  by_cases deletes : mutation = .delete
  · subst deletes
    obtain ⟨_, made, _⟩ := exists_request_delete delete.classType tclass.place tclass.kindName
      (tclass.settings.encode clock)
    cases made.symm.trans failed
  · exact (conveys_classRequest deletes tclass clock).exists_fault failed

/-! ## The verdict of the replies -/

/-- What is going on, in words. -/
def description (mutation : Mutation) (object : String) (handle : Handle) : String :=
  s!"{mutation.gerund} {object} {handle.text}"

/-- The outcome that replies give to what is going on. -/
structure Verdict (description : String) (replies : List Message) (outcome : Except Error Unit) :
    Prop where
  /-- Success means that every error report is complete and acknowledges. -/
  acknowledged : outcome = .ok () ↔ ∀ reply ∈ replies, reply.header.isError = true →
    ErrorReport.size ≤ reply.payload.length ∧ reply.code = 0
  /-- The first reply that fails may be too short. -/
  cut : ∀ {first : Message}, replies.find? Message.fails = some first →
    first.payload.length < ErrorReport.size →
      outcome = .error (.truncated "nlmsgerr" ErrorReport.size first.payload.length)
  /-- Otherwise it has a code, which is a rejection under the name of what was going on. The number
  is the code without its sign, and what the rejection means depends on nothing else. -/
  refused : ∀ {first : Message}, replies.find? Message.fails = some first →
    ErrorReport.size ≤ first.payload.length → first.code ≠ Int32.minValue →
      ∃ (errno : Int32) (error : Error) (text : String),
        errno.toInt = first.code.toInt.natAbs ∧ outcome = .error error ∧
        error = .context description (.rejected (.ofErrno errno) errno text) ∧
        error.errno? = some errno ∧ error.rejection? = some (.ofErrno errno)

theorem verdict_interpret (mutation : Mutation) (object : String) (handle : Handle)
    (replies : List Message) :
    Verdict (mutation.description object handle) replies
      (mutation.interpret object handle replies) where
  acknowledged := by
    cases fate : replies.find? Message.fails with
    | none =>
        have pass := Message.find?_fails_eq_none_iff.mp fate
        rw [interpret, Message.checkAll_of_all_pass pass]
        exact ⟨fun _ reply member => Message.fails_eq_false_iff.mp (pass reply member),
          fun _ => rfl⟩
    | some first =>
        rw [interpret, Message.checkAll_of_find? fate]
        constructor
        · intro done
          cases done
        · intro all
          have passes := Message.fails_eq_false_iff.mpr (all first (List.mem_of_find?_eq_some fate))
          cases passes.symm.trans (List.find?_some fate)
  cut found short := by
    rw [interpret, Message.checkAll_of_find? found, Message.failure_of_lt short]
    rfl
  refused found long notLeast := by
    obtain ⟨text, failure⟩ := Message.exists_failure_of_le long
    refine ⟨_, _, text, Error.toInt_abs_code notLeast, ?_, rfl, rfl, rfl⟩
    rw [interpret, Message.checkAll_of_find? found, failure]
    rfl

/-! ## Calls -/

/-- How a call goes that is to send a request and leaves the verdict to the replies. -/
structure Settles (call : Call Unit) (built : Except Error Request) (description : String) :
    Prop where
  /-- Without a request the call is over before the transport has heard of it. -/
  unsent : ∀ {error : Error}, built = .error error → (∃ fault, error = .config fault) ∧
    ∀ {σ : Type} (transport : Transport σ) (state : σ) (sent : List Request),
      call.run transport.recorded (state, sent) = (.error error, state, sent)
  /-- A request is sent once. An error of the transport is the outcome as it is, and any replies
  give their verdict. -/
  sent : ∀ {request : Request}, built = .ok request →
    (∀ {σ : Type} (transport : Transport σ) (state : σ) (sent : List Request),
      call.run transport.recorded (state, sent) =
        ((transport state request).1.bind call.outcome, (transport state request).2,
          sent ++ [request])) ∧
    ∀ replies, Verdict description replies (call.outcome replies)

theorem settles_ofRequest {built : Except Error Request}
    (faults : ∀ error, built = .error error → ∃ fault, error = .config fault)
    (mutation : Mutation) (object : String) (handle : Handle) :
    Settles (.ofRequest built (mutation.interpret object handle)) built
      (mutation.description object handle) where
  unsent := by
    rintro error rfl
    exact ⟨faults error rfl, fun _ _ _ => rfl⟩
  sent := by
    rintro request rfl
    exact ⟨fun _ _ _ => rfl, verdict_interpret mutation object handle⟩

/-- Every mutation of a qdisc or a class is over for want of a request, or it sends one and has the
outcome that the transport or the replies give it. -/
theorem settles (mutation : Mutation) (clock : Clock) (qdisc : Qdisc) (tclass : Class) :
    Settles (mutation.ofQdisc qdisc clock) (mutation.qdiscRequest qdisc clock)
        (mutation.description "qdisc" qdisc.place.handle) ∧
      Settles (mutation.ofClass tclass clock) (mutation.classRequest tclass clock)
        (mutation.description "class" tclass.place.handle) :=
  ⟨settles_ofRequest (fun _ => exists_fault_of_qdiscRequest) mutation "qdisc" qdisc.place.handle,
    settles_ofRequest (fun _ => exists_fault_of_classRequest) mutation "class"
      tclass.place.handle⟩

/-- An error report on a request for a qdisc. -/
def reportOf (code : Int32) : Message :=
  ⟨.ofType MessageType.error 0,
    Record.toBytes (⟨code, .ofType MessageType.newQdisc 5⟩ : ErrorReport)⟩

theorem settles_reportOf :
    ∃ request, add.qdiscRequest shortOptions .highResolution = .ok request ∧
      (add.ofQdisc shortOptions .highResolution).outcome [reportOf 0] = .ok () ∧
      ∃ text, (add.ofQdisc shortOptions .highResolution).outcome
        [reportOf 0, reportOf (-17), reportOf (-19)] =
          .error (.context "adding qdisc 8001:" (.rejected .alreadyExists 17 text)) := by
  obtain ⟨settles, _⟩ :=
    settles add .highResolution shortOptions (.ofSettings shortOptions.place (.generic "drr" none))
  have found : [reportOf 0, reportOf (-17), reportOf (-19)].find? Message.fails =
      some (reportOf (-17)) := by decide
  obtain ⟨request, made⟩ : ∃ request, add.qdiscRequest shortOptions .highResolution = .ok request :=
    ⟨_, rfl⟩
  obtain ⟨_, verdict⟩ := settles.sent made
  obtain ⟨errno, _, text, value, failed, rfl, _⟩ :=
    (verdict _).refused found (by decide) (by decide)
  have words : add.description "qdisc" shortOptions.place.handle = "adding qdisc 8001:" := by
    decide +kernel
  have number : errno = 17 := Int32.toInt_inj.mp value
  rw [words, number] at failed
  exact ⟨request, made, (verdict _).acknowledged.mpr (by decide), text, failed⟩

end TrafficShaping.Mutation
