import TrafficShaping.Proofs.Attribute.Grammar
import TrafficShaping.Proofs.Attribute.Order
import TrafficShaping.Proofs.Replies
import TrafficShaping.Proofs.Report

/-!
What a message that reports an error is read as, whatever stands behind the report.

The attributes with the text of the kernel stand right behind the report when the message is capped,
and behind the payload of the request, filled up to a multiple of four, when it is not
(`ErrorReport.behind`). Their place is computed from a length in the message itself. The text is
found in both places (`ErrorReport.text?_behind`), a length that reaches too far hides it, and only
a message that is too short for the report is refused: `Message.Reported` puts this together.
-/

namespace TrafficShaping

namespace ErrorReport

/-- Attributes with a text: that of the first attribute of its tag, up to the first zero byte. -/
structure Tells (trees : List Attribute) (text : String) : Prop where
  nonempty : text ≠ ""
  free : '\x00' ∉ text.toList
  first : ∃ before tree rest more, trees = before ++ tree :: rest ∧
    (∀ other ∈ before, other.tag ≠ textTag) ∧ tree.tag = textTag ∧
    tree.payload = .ok (Text.Utf8.encode text ++ 0 :: more)

/-- What stands behind a report: the payload of the request, unless the message is capped, and
attributes. -/
def behind (flags : UInt16) (echoed attributes : Bytes) : Bytes :=
  if MessageFlag.isSet flags MessageFlag.capped then attributes
  else Bytes.padded echoed ++ attributes

variable {report : ErrorReport} {flags : UInt16} {trees : List Attribute} {text : String}
  {echoed data : Bytes}

theorem Tells.find?_found (tells : Tells trees text) :
    ∃ more, Tagged.find? (trees.map Attribute.found) textTag =
      some (Text.Utf8.encode text ++ 0 :: more) := by
  obtain ⟨before, tree, rest, more, rfl, absent, tag, payload⟩ := tells.first
  have found : tree.found = ⟨textTag, Text.Utf8.encode text ++ 0 :: more⟩ := by
    rw [Attribute.found, tag, payload]
    rfl
  have absent' : ∀ record ∈ before.map Attribute.found, record.tag ≠ textTag := by
    intro record among
    obtain ⟨other, here, rfl⟩ := List.mem_map.mp among
    exact absent other here
  refine ⟨more, ?_⟩
  rw [List.map_append, List.map_cons, found]
  exact Tagged.find?_append_cons absent' _ _

/-- The attributes are found behind what is repeated of the request. -/
theorem attributes_behind (listed : MessageFlag.isSet flags MessageFlag.reportAttributes = true)
    (length : echoed.length = report.request.payloadLength)
    (written : Attribute.writeAll trees = .ok data) :
    report.attributes (Record.toBytes report ++ behind flags echoed data) flags =
      trees.map Attribute.found := by
  have spells := Tagged.parse_eq_ok_iff.mp (Attribute.parse_writeAll_eq written)
  have size : (Record.toBytes report).length = size := lawful_layout.length_toBytes report
  unfold attributes behind
  rw [if_pos listed]
  dsimp only
  rw [← List.drop_drop, List.drop_left' size]
  -- The same flag decides what stands there and what is passed over.
  split
  · exact spells.scan
  · rw [List.drop_left' (by rw [Bytes.length_padded, length])]
    exact spells.scan

theorem text?_behind (listed : MessageFlag.isSet flags MessageFlag.reportAttributes = true)
    (length : echoed.length = report.request.payloadLength)
    (written : Attribute.writeAll trees = .ok data) (tells : Tells trees text) :
    report.text? (Record.toBytes report ++ behind flags echoed data) flags = some text := by
  obtain ⟨more, found⟩ := tells.find?_found
  have some : ¬ text.isEmpty = true := mt String.isEmpty_iff.mp tells.nonempty
  unfold text?
  rw [attributes_behind listed length written, found]
  change (Payload.readText _).toOption.bind _ = _
  rw [Payload.readText_encode_append tells.free more]
  exact if_neg some

/-- Attributes that would begin behind the end of the message are none. -/
theorem text?_of_le (reaches : ¬ MessageFlag.isSet flags MessageFlag.capped = true)
    {rest : Bytes} (short : rest.length ≤ Bytes.align report.request.payloadLength) :
    report.text? (Record.toBytes report ++ rest) flags = none := by
  have size : (Record.toBytes report).length = size := lawful_layout.length_toBytes report
  have attributes : report.attributes (Record.toBytes report ++ rest) flags = [] := by
    unfold attributes
    rw [if_neg reaches]
    dsimp only
    split
    · rw [← List.drop_drop, List.drop_left' size, List.drop_eq_nil_of_le short]
      exact Tagged.Spells.nil.scan
    · rfl
  unfold text?
  rw [attributes]
  rfl

/-- Without the flag for attributes it does not matter what stands behind the report. -/
theorem text?_of_not_listed
    (plain : ¬ MessageFlag.isSet flags MessageFlag.reportAttributes = true) (payload : Bytes) :
    report.text? payload flags = none := by
  unfold text? attributes
  rw [if_neg plain]
  rfl

end ErrorReport

/-! ## Messages -/

namespace Message

open ErrorReport (Tells behind)

/-- The message that reports an error, with some bytes behind the report. -/
def ofReport (header : MessageHeader) (report : ErrorReport) (rest : Bytes) : Message :=
  ⟨header, Record.toBytes report ++ rest⟩

variable {header : MessageHeader} {report : ErrorReport}

theorem rejection?_ofReport (reports : header.isError = true) (rest : Bytes) :
    (ofReport header report rest).rejection? =
      .ok (report.rejection? (Record.toBytes report ++ rest) header.flags) := by
  have read := ErrorReport.lawful_layout.read_toBytes_append report rest
  unfold rejection? ofReport
  rw [if_pos reports, read]
  rfl

theorem rejection?_ofReport_of_silent (reports : header.isError = true)
    (nonzero : report.code ≠ 0) {rest : Bytes}
    (silent : report.text? (Record.toBytes report ++ rest) header.flags = none) :
    (ofReport header report rest).rejection? = .ok (some (.ofCode report.code)) := by
  rw [rejection?_ofReport reports, ErrorReport.rejection?_of_ne_zero nonzero,
    ErrorReport.wording, silent]
  rfl

theorem rejection?_eq_error_iff {payload : Bytes} (reports : header.isError = true)
    (fault : Error) :
    rejection? ⟨header, payload⟩ = .error fault ↔
      payload.length < ErrorReport.size ∧
        fault = .truncated "nlmsgerr" ErrorReport.size payload.length := by
  unfold rejection?
  rw [if_pos reports]
  dsimp only
  rcases Nat.lt_or_ge payload.length ErrorReport.size with short | long
  · rw [ErrorReport.read_of_lt short]
    exact ⟨fun failed => ⟨short, (Except.error.inj failed).symm⟩, fun ⟨_, same⟩ => same ▸ rfl⟩
  · obtain ⟨report, -, read, -⟩ :=
      ErrorReport.lawful_layout.exists_readAs_of_le "nlmsgerr" long
    have read : Record.read ErrorReport payload = .ok report := read
    rw [read]
    exact ⟨fun failed => (nomatch failed), fun ⟨short, _⟩ => absurd short (Nat.not_lt.mpr long)⟩

/-- What a message with some header that reports an error is read as. -/
structure Reported (header : MessageHeader) : Prop where
  /-- The text of the kernel is put behind the description of the error number, which also decides
  what the rejection means. Whether the message is capped or repeats the payload of the request
  makes no difference. -/
  text : MessageFlag.isSet header.flags MessageFlag.reportAttributes = true →
    ∀ ⦃report echoed trees data text⦄, report.code ≠ 0 → report.code ≠ Int32.minValue →
    echoed.length = report.request.payloadLength → Attribute.writeAll trees = .ok data →
    Tells trees text →
    ∃ (errno : Int32) (error : Error),
      errno.toInt = report.code.toInt.natAbs ∧ 0 < errno.toInt ∧
      (ofReport header report (behind header.flags echoed data)).rejection? = .ok (some error) ∧
      error = .rejected (.ofErrno errno) errno s!"{Errno.describe errno}: {text}" ∧
      error.errno? = some errno ∧ error.rejection? = some (.ofErrno errno)
  /-- Without the flag for attributes what stands behind the report does not matter. -/
  plain : MessageFlag.isSet header.flags MessageFlag.reportAttributes = false →
    ∀ report rest other,
      (ofReport header report rest).rejection? = (ofReport header report other).rejection?
  /-- It does not matter for an acknowledgement either. -/
  acknowledged : ∀ ⦃report⦄, report.code = 0 → ∀ rest,
    (ofReport header report rest).rejection? = .ok none
  /-- Only a message that is too short for a report is refused. -/
  short : ∀ payload fault, rejection? ⟨header, payload⟩ = .error fault ↔
    payload.length < 20 ∧ fault = .truncated "nlmsgerr" 20 payload.length
  /-- A request that would reach to the end of the message or past it leaves the error without a
  text. -/
  beyond : MessageFlag.isSet header.flags MessageFlag.capped = false →
    ∀ ⦃report rest⦄, report.code ≠ 0 →
    rest.length ≤ Bytes.align report.request.payloadLength →
    (ofReport header report rest).rejection? = .ok (some (.ofCode report.code))

theorem reported_of_isError (reports : header.isError = true) : Reported header where
  text := by
    intro listed report echoed trees data text nonzero notLeast length written tells
    have value := Error.toInt_abs_code notLeast
    have positive : 0 < report.code.abs.toInt := by
      have zero : report.code.toInt ≠ (0 : Int32).toInt := mt Int32.toInt_inj.mp nonzero
      rw [Int32.toInt_zero] at zero
      omega
    have told := ErrorReport.text?_behind listed length written tells
    refine ⟨_, _, value, positive, ?_, rfl, rfl, rfl⟩
    rw [rejection?_ofReport reports, ErrorReport.rejection?_of_ne_zero nonzero,
      ErrorReport.wording, told]
    rfl
  plain := by
    intro plain report rest other
    have silent payload : report.text? payload header.flags = none :=
      ErrorReport.text?_of_not_listed (Bool.eq_false_iff.mp plain) payload
    by_cases zero : report.code = 0
    · rw [rejection?_ofReport reports, rejection?_ofReport reports,
        ErrorReport.rejection?_of_eq_zero zero, ErrorReport.rejection?_of_eq_zero zero]
    · rw [rejection?_ofReport_of_silent reports zero (silent _),
        rejection?_ofReport_of_silent reports zero (silent _)]
  acknowledged := by
    intro report zero rest
    rw [rejection?_ofReport reports, ErrorReport.rejection?_of_eq_zero zero]
  short := fun _ => rejection?_eq_error_iff reports
  beyond := by
    intro uncapped report rest nonzero short
    exact rejection?_ofReport_of_silent reports nonzero
      (ErrorReport.text?_of_le (Bool.eq_false_iff.mp uncapped) short)

/-- A report that arguments are invalid, for a request with a payload of five bytes. -/
def missingTable : ErrorReport := ⟨-22, ⟨21, MessageType.newClass, MessageFlag.request, 7, 0⟩⟩

/-- Attributes with a text behind another attribute. -/
def missingTableText : List Attribute :=
  [.nested 0x8002 [.ofUInt32 1 8], .ofText ErrorReport.textTag "HTB: rate table is missing"]

/-- The header of a message that reports an error, capped and with attributes. -/
def cappedHeader : MessageHeader :=
  .ofType MessageType.error (MessageFlag.capped ||| MessageFlag.reportAttributes)

/-- The header of one that repeats the request. -/
def repeatingHeader : MessageHeader := .ofType MessageType.error MessageFlag.reportAttributes

theorem reported_of_isError_missingTable :
    ∃ data error, Attribute.writeAll missingTableText = .ok data ∧
      (ofReport cappedHeader missingTable data).rejection? = .ok (some error) ∧
      (ofReport repeatingHeader missingTable ([1, 2, 3, 4, 5, 0, 0, 0] ++ data)).rejection? =
        .ok (some error) ∧
      error = .rejected .invalidArgument 22
        "Invalid argument (os error 22): HTB: rate table is missing" := by
  obtain ⟨data, written⟩ : ∃ data, Attribute.writeAll missingTableText = .ok data := ⟨_, rfl⟩
  have tells : Tells missingTableText "HTB: rate table is missing" := by
    refine ⟨by decide, by decide, [.nested 0x8002 [.ofUInt32 1 8]], _, [], [], rfl, ?_, rfl, rfl⟩
    exact List.forall_mem_singleton.mpr (by decide)
  have nonzero : missingTable.code ≠ 0 := by decide
  have notLeast : missingTable.code ≠ Int32.minValue := by decide
  have length : ([1, 2, 3, 4, 5] : Bytes).length = missingTable.request.payloadLength := rfl
  have capped : Reported cappedHeader := reported_of_isError rfl
  have repeating : Reported repeatingHeader := reported_of_isError rfl
  have number {errno : Int32} (value : errno.toInt = missingTable.code.toInt.natAbs) :
      errno = 22 := Int32.toInt_inj.mp value
  obtain ⟨_, _, value, -, first, rfl, -⟩ :=
    capped.text rfl nonzero notLeast length written tells
  cases number value
  obtain ⟨_, _, value, -, second, rfl, -⟩ :=
    repeating.text rfl nonzero notLeast length written tells
  cases number value
  exact ⟨data, _, written, first, second, by decide⟩

end Message

end TrafficShaping
