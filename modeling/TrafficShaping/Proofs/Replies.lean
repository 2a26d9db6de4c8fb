import TrafficShaping.Client.Call
import TrafficShaping.Proofs.Error
import TrafficShaping.Proofs.Layout

/-!
Which reply decides over a call.

A message fails a call when it is an error report that is too short or whose code is not zero
(`Message.fails`), and it does so with an error of its own (`Message.failure`). Of some replies the
first that fails decides, and none does exactly when the replies pass the check that every call
begins with: `Message.checkAll_eq`. What a call sends is seen through a transport that keeps the
requests (`Transport.recorded`).
-/

namespace TrafficShaping

/-! ## What is sent -/

/-- A transport that goes on as another one and keeps the requests it was given, in order. -/
def Transport.recorded {σ : Type} (transport : Transport σ) : Transport (σ × List Request) :=
  fun (state, sent) request =>
    let (replies, state) := transport state request
    (replies, state, sent ++ [request])

/-- What a call makes of some replies, whatever it has sent for them. -/
def Call.outcome {α : Type} (call : Call α) (replies : List Message) : Except Error α :=
  (call.run (fun (_ : Unit) _ => (.ok replies, ())) ()).1

/-! ## Error reports -/

namespace ErrorReport

variable {payload : Bytes}

/-- The text of the rejection that is reported: that of the error number, and behind it the one that
the kernel gives. -/
def wording (report : ErrorReport) (payload : Bytes) (flags : UInt16) : String :=
  match report.text? payload flags with
  | some text => s!"{Errno.describe report.code.abs}: {text}"
  | none => Errno.describe report.code.abs

theorem rejection?_of_eq_zero {report : ErrorReport} (zero : report.code = 0) (payload : Bytes)
    (flags : UInt16) : report.rejection? payload flags = none := by
  unfold rejection? isAcknowledgement
  rw [zero]
  rfl

theorem rejection?_of_ne_zero {report : ErrorReport} (nonzero : report.code ≠ 0) (payload : Bytes)
    (flags : UInt16) :
    report.rejection? payload flags =
      some (.ofCodeWithText report.code (report.wording payload flags)) := by
  unfold rejection? isAcknowledgement wording
  rw [beq_eq_false_iff_ne.mpr nonzero]
  cases report.text? payload flags with
  | some text => rfl
  | none => rfl

theorem read_of_lt (short : payload.length < size) :
    Record.read ErrorReport payload = .error (.truncated "nlmsgerr" size payload.length) :=
  lawful_layout.readAs_of_lt "nlmsgerr" short

end ErrorReport

namespace Message

/-- The code of an error report: the first four bytes as a signed word. -/
def code (message : Message) : Int32 :=
  (UInt32.ofNat (Bytes.toNat (message.payload.take 4))).toInt32

/-- Whether a message fails a call: an error report that is too short, or whose code is not zero. -/
def fails (message : Message) : Bool :=
  message.header.isError && (message.payload.length < ErrorReport.size || message.code != 0)

/-- The error with which a message fails a call. -/
def failure (message : Message) : Error :=
  match Record.read ErrorReport message.payload with
  | .error fault => fault
  | .ok report =>
    .ofCodeWithText report.code (report.wording message.payload message.header.flags)

variable {message : Message} {replies : List Message}

theorem failure_of_lt (short : message.payload.length < ErrorReport.size) :
    message.failure = .truncated "nlmsgerr" ErrorReport.size message.payload.length := by
  unfold failure
  rw [ErrorReport.read_of_lt short]

/-- The code of a report is the one at the front. -/
theorem code_of_append {report : ErrorReport} {rest : Bytes}
    (whole : message.payload = Record.toBytes report ++ rest) : message.code = report.code := by
  have front : message.payload.take 4 = Bytes.ofNat 4 report.code.toUInt32.toNat := by
    rw [whole]
    exact List.take_left' (Bytes.length_ofNat 4 _)
  have small : report.code.toUInt32.toNat % Bytes.bound 4 = report.code.toUInt32.toNat :=
    Nat.mod_eq_of_lt report.code.toUInt32.toNat_lt
  rw [code, front, Bytes.toNat_ofNat, small, UInt32.ofNat_toNat]
  exact Int32.toInt32_toUInt32 _

/-- A report that is long enough is read. -/
theorem exists_read_of_le (long : ErrorReport.size ≤ message.payload.length) :
    ∃ report, Record.read ErrorReport message.payload = .ok report ∧
      report.code = message.code := by
  obtain ⟨report, rest, read, whole⟩ :=
    ErrorReport.lawful_layout.exists_readAs_of_le "nlmsgerr" long
  exact ⟨report, read, (code_of_append whole).symm⟩

theorem exists_failure_of_le (long : ErrorReport.size ≤ message.payload.length) :
    ∃ text, message.failure = .ofCodeWithText message.code text := by
  obtain ⟨report, read, code⟩ := exists_read_of_le long
  unfold failure
  rw [read, ← code]
  exact ⟨_, rfl⟩

/-- A message passes when it is no error report, or a complete one with the code zero. -/
theorem fails_eq_false_iff :
    message.fails = false ↔
      (message.header.isError = true →
        ErrorReport.size ≤ message.payload.length ∧ message.code = 0) := by
  unfold fails
  cases message.header.isError with
  | false => simp
  | true => simp

theorem fails_eq_false_of_append {report : ErrorReport} {rest : Bytes}
    (whole : message.payload = Record.toBytes report ++ rest) (zero : report.code = 0) :
    message.fails = false := by
  refine fails_eq_false_iff.mpr fun _ => ⟨?_, (code_of_append whole).trans zero⟩
  rw [whole, List.length_append, ErrorReport.lawful_layout.length_toBytes]
  exact Nat.le_add_right _ _

theorem fails_of_append {report : ErrorReport} {rest : Bytes}
    (reports : message.header.isError = true)
    (whole : message.payload = Record.toBytes report ++ rest) (nonzero : report.code ≠ 0) :
    message.fails = true := by
  cases fate : message.fails with
  | true => rfl
  | false =>
      obtain ⟨_, zero⟩ := fails_eq_false_iff.mp fate reports
      exact absurd ((code_of_append whole).symm.trans zero) nonzero

/-- A message that does not fail reports nothing, and one that does reports its failure, if it is
not too short even for that. -/
theorem rejection?_eq (message : Message) :
    message.rejection? =
      if message.fails then
        if message.payload.length < ErrorReport.size then .error message.failure
        else .ok (some message.failure)
      else .ok none := by
  unfold rejection? fails
  cases message.header.isError with
  | false => rfl
  | true =>
      rcases Nat.lt_or_ge message.payload.length ErrorReport.size with short | long
      · rw [failure_of_lt short, ErrorReport.read_of_lt short, decide_eq_true short]
        simp only [Bool.true_or, Bool.true_and, if_true, if_pos short]
        rfl
      · obtain ⟨report, read, code⟩ := exists_read_of_le long
        have whole := Nat.not_lt.mpr long
        rw [read, failure, read, decide_eq_false whole, ← code]
        simp only [Bool.false_or, Bool.true_and, if_true, if_neg whole]
        change Except.ok (report.rejection? _ _) = _
        by_cases zero : report.code = 0
        · rw [ErrorReport.rejection?_of_eq_zero zero, zero]
          rfl
        · rw [ErrorReport.rejection?_of_ne_zero zero, if_pos (bne_iff_ne.mpr zero)]

theorem checkAll_cons_of_fails (fails : message.fails = true) (rest : List Message) :
    checkAll (message :: rest) = .error message.failure := by
  unfold checkAll
  rw [rejection?_eq, if_pos fails]
  split
  · rfl
  · rfl

theorem checkAll_cons_of_not_fails (passes : message.fails = false) (rest : List Message) :
    checkAll (message :: rest) = checkAll rest := by
  have passed : ¬ message.fails = true := by simp [passes]
  rw [checkAll, rejection?_eq, if_neg passed]
  rfl

/-- The first reply that fails decides. -/
theorem checkAll_eq (replies : List Message) :
    checkAll replies =
      match replies.find? fails with
      | some first => .error first.failure
      | none => .ok () := by
  induction replies with
  | nil => rfl
  | cons first rest ih =>
      cases fate : first.fails with
      | true => rw [checkAll_cons_of_fails fate, List.find?_cons_of_pos fate]
      | false => rw [checkAll_cons_of_not_fails fate, List.find?_cons_of_neg (by simp [fate]), ih]

theorem find?_fails_eq_none_iff :
    replies.find? fails = none ↔ ∀ reply ∈ replies, reply.fails = false := by
  simp only [List.find?_eq_none, Bool.not_eq_true]

theorem checkAll_of_find? {first : Message} (found : replies.find? fails = some first) :
    checkAll replies = .error first.failure := by
  rw [checkAll_eq, found]

theorem checkAll_of_all_pass (pass : ∀ reply ∈ replies, reply.fails = false) :
    checkAll replies = .ok () := by
  rw [checkAll_eq, find?_fails_eq_none_iff.mpr pass]

/-- Without error reports nothing fails. -/
theorem checkAll_of_isError (quiet : ∀ reply ∈ replies, reply.header.isError = false) :
    checkAll replies = .ok () := by
  refine checkAll_of_all_pass fun reply member => fails_eq_false_iff.mpr fun reports => ?_
  cases (quiet reply member).symm.trans reports

end Message

end TrafficShaping
