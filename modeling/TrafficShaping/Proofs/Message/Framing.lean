import TrafficShaping.Outcome
import TrafficShaping.Wire.Request

/-!
The messages of a datagram.

`Message.Joined` says which byte strings put some messages one after the other, without reading
them, and such a datagram is split into these messages (`Message.Joined.split_eq`). Any other byte
string is split too: `Message.Laid` says at which offsets its messages start and which slices of it
are their payloads, up to a tail that is too short for a header or to the first wrong length. There
is exactly one such reading of a byte string, and it is the one that splitting gives
(`Message.laid_iff_split`). The calls of an iterator yield it item by item
(`Message.call_eq_getElem?_split`).
-/

namespace TrafficShaping

namespace MessageHeader

@[simp] theorem length_toBytes (header : MessageHeader) : (Record.toBytes header).length = size :=
  lawful_layout.length_toBytes header

end MessageHeader

namespace Message

/-- The error for a length that does not cover the header, or covers more than there is. -/
def fault (header : MessageHeader) : Error := .wireFormat (.messageLength header.length.toNat)

/-- The number of bytes behind a payload up to the next multiple of four. -/
def fillLength (payload : Bytes) : Nat := Bytes.align payload.length - payload.length

/-- A message takes up a multiple of four bytes, however long its payload is. -/
theorem align_size_add (payload : Bytes) :
    Bytes.align (MessageHeader.size + payload.length) =
      MessageHeader.size + payload.length + fillLength payload := by
  have grid := Bytes.le_align payload.length
  have header : MessageHeader.size % 4 = 0 := rfl
  rw [Bytes.align_add header, fillLength]
  omega

/-! ## One step -/

section Step

variable {data rest : Bytes} {header : MessageHeader} {payload : Bytes}

theorem split_of_short (short : data.length < MessageHeader.size) : split data = [] := by
  have missing : (Record.layout : Layout MessageHeader).read? data = none := by
    cases read : (Record.layout : Layout MessageHeader).read? data with
    | none => rfl
    | some front =>
        have length := MessageHeader.lawful_layout.length_eq read
        change data.length = MessageHeader.size + _ at length
        omega
  rw [split]
  split
  · rfl
  · next found => cases missing.symm.trans found

theorem take_of_wrong (wrong : header.length.toNat < MessageHeader.size ∨
    MessageHeader.size + rest.length < header.length.toNat) :
    take header rest = .error (fault header) := by
  unfold take
  dsimp only
  split
  · rfl
  · next covers =>
      have uncut : Bytes.splitExact? header.payloadLength rest = none := by
        rw [Bytes.splitExact?_eq_none, MessageHeader.payloadLength]
        omega
      rw [uncut]
      rfl

theorem take_of_length (length : header.length.toNat = MessageHeader.size + payload.length)
    (rest : Bytes) :
    take header (payload ++ rest) = .ok (⟨header, payload⟩, rest.drop (fillLength payload)) := by
  have covers : ¬ header.length.toNat < MessageHeader.size := by omega
  have width : payload.length = header.payloadLength := by
    rw [MessageHeader.payloadLength, length]
    omega
  unfold take
  rw [if_neg covers, Bytes.splitExact?_append width]
  rfl

theorem split_of_wrong (wrong : header.length.toNat < MessageHeader.size ∨
    MessageHeader.size + rest.length < header.length.toNat) :
    split (Record.toBytes header ++ rest) = [.error (fault header)] := by
  have headed := MessageHeader.lawful_layout.read?_write header rest
  have taken := take_of_wrong wrong
  rw [split]
  split
  · next missing => cases headed.symm.trans missing
  · next found =>
      cases headed.symm.trans found
      split
      · next failed =>
          cases taken.symm.trans failed
          rfl
      · next cut => cases taken.symm.trans cut

theorem split_of_length (length : header.length.toNat = MessageHeader.size + payload.length)
    (rest : Bytes) :
    split (Record.toBytes header ++ (payload ++ rest)) =
      .ok ⟨header, payload⟩ :: split (rest.drop (fillLength payload)) := by
  have headed := MessageHeader.lawful_layout.read?_write header (payload ++ rest)
  have taken := take_of_length length rest
  rw [split]
  split
  · next missing => cases headed.symm.trans missing
  · next found =>
      cases headed.symm.trans found
      split
      · next failed => cases taken.symm.trans failed
      · next cut =>
          cases taken.symm.trans cut
          rfl

/-- What can be at the front of a byte string: less than a header, a header with a wrong length, or
a message. -/
inductive Front : Bytes → Prop
  | short {data : Bytes} (short : data.length < MessageHeader.size) : Front data
  | wrong {header : MessageHeader} {rest : Bytes}
      (wrong : header.length.toNat < MessageHeader.size ∨
        MessageHeader.size + rest.length < header.length.toNat) :
      Front (Record.toBytes header ++ rest)
  | message {header : MessageHeader} {payload rest : Bytes}
      (length : header.length.toNat = MessageHeader.size + payload.length) :
      Front (Record.toBytes header ++ (payload ++ rest))

theorem front (data : Bytes) : Front data := by
  rcases Nat.lt_or_ge data.length MessageHeader.size with short | enough
  · exact .short short
  · obtain ⟨⟨header, rest⟩, headed⟩ :=
      Option.isSome_iff_exists.mp (MessageHeader.lawful_layout.isSome_read? enough)
    obtain rfl := MessageHeader.lawful_layout.eq_write_of_read? headed
    by_cases wrong : header.length.toNat < MessageHeader.size ∨
        MessageHeader.size + rest.length < header.length.toNat
    · exact .wrong wrong
    · obtain ⟨covers, fits⟩ := not_or.mp wrong
      rw [← List.take_append_drop (header.length.toNat - MessageHeader.size) rest]
      refine .message ?_
      rw [List.length_take]
      omega

end Step

/-! ## Messages that are put together -/

/-- Messages one after the other, each of them filled up to a multiple of four bytes. The filling of
the last one may be cut off, in part or as a whole. -/
inductive Joined : List Request → Bytes → Prop
  | nil : Joined [] []
  | last {frame : Request} {filling : Bytes}
      (cut : filling.length ≤ fillLength frame.payload) : Joined [frame] (frame.finish ++ filling)
  | cons {frame : Request} {frames : List Request} {filling rest : Bytes}
      (filled : filling.length = fillLength frame.payload) (later : Joined frames rest) :
      Joined (frame :: frames) (frame.finish ++ (filling ++ rest))

/-- A message as it arrives when it has been finished. -/
def ofRequest (frame : Request) : Message := ⟨frame.header frame.length, frame.payload⟩

theorem length_ofRequest {frame : Request} (fits : frame.length < UInt32.size) :
    (ofRequest frame).header.length.toNat = MessageHeader.size + frame.payload.length :=
  UInt32.toNat_ofNat_of_lt' fits

/-- A datagram is split into the messages that it was put together from. -/
theorem Joined.split_eq {frames : List Request} {data : Bytes} (joined : Joined frames data)
    (fits : ∀ frame ∈ frames, frame.length < UInt32.size) :
    split data = frames.map fun frame => .ok (ofRequest frame) := by
  induction joined with
  | nil => exact split_of_short (by decide)
  | @last frame filling cut =>
      have length := length_ofRequest (fits frame List.mem_cons_self)
      rw [Request.finish, List.append_assoc]
      refine (split_of_length length filling).trans ?_
      rw [List.drop_eq_nil_of_le cut, split_of_short (by decide)]
      rfl
  | @cons frame frames filling rest filled _ ih =>
      have length := length_ofRequest (fits frame List.mem_cons_self)
      have later := ih fun frame member => fits frame (List.mem_cons_of_mem _ member)
      rw [Request.finish, List.append_assoc]
      refine (split_of_length length (filling ++ rest)).trans ?_
      rw [List.drop_left' filled, later]
      rfl

/-! ## Messages that are found -/

/-- The messages of a byte string from an offset on: where each of them starts, its header and the
slice that is its payload. The next one starts on the first multiple of four behind it. -/
inductive Laid (data : Bytes) : Nat → List (Except Error Message) → Prop
  /-- A tail that is too short for a header is passed over. -/
  | tail {start : Nat} (short : data.length < start + MessageHeader.size) : Laid data start []
  /-- A wrong length is reported, and that is the end. -/
  | fault {start : Nat} {header : MessageHeader} (aligned : start % 4 = 0)
      (headed : data.extract start (start + MessageHeader.size) = Record.toBytes header)
      (wrong : header.length.toNat < MessageHeader.size ∨
        data.length < start + header.length.toNat) :
      Laid data start [.error (fault header)]
  | message {start : Nat} {header : MessageHeader} {items : List (Except Error Message)}
      (aligned : start % 4 = 0)
      (headed : data.extract start (start + MessageHeader.size) = Record.toBytes header)
      (covers : MessageHeader.size ≤ header.length.toNat)
      (fits : start + header.length.toNat ≤ data.length)
      (later : Laid data (start + Bytes.align header.length.toNat) items) :
      Laid data start
        (.ok ⟨header, data.extract (start + MessageHeader.size) (start + header.length.toNat)⟩ ::
          items)

section Offsets

variable {data front slice rest : Bytes} {start : Nat}

theorem extract_eq_of_drop (whole : data.drop start = slice ++ rest) :
    data.extract start (start + slice.length) = slice := by
  rw [List.extract_eq_take_drop, whole, Nat.add_sub_cancel_left, List.take_left]

theorem drop_add_of_drop (whole : data.drop start = front ++ rest) :
    data.drop (start + front.length) = rest := by
  rw [← List.drop_drop, whole, List.drop_left]

/-- A slice that has been found stands at its offset. -/
theorem drop_eq_of_extract {stop : Nat} (found : data.extract start stop = slice) :
    data.drop start = slice ++ data.drop (start + (stop - start)) := by
  rw [← found, List.extract_eq_take_drop, ← List.drop_drop, List.take_append_drop]

end Offsets

/-- Splitting what is behind an offset gives the messages from there on. -/
theorem laid_split_drop (data : Bytes) {start : Nat} (aligned : start % 4 = 0) :
    Laid data start (split (data.drop start)) := by
  induction left : data.length - start using Nat.strongRecOn generalizing start with
  | ind size ih =>
      generalize whole : data.drop start = behind
      have length := congrArg List.length whole
      rw [List.length_drop] at length
      cases front behind with
      | short short =>
          rw [split_of_short short]
          have positive : MessageHeader.size = 16 := rfl
          exact .tail (by omega)
      | @wrong header rest wrong =>
          have headed := extract_eq_of_drop whole
          rw [MessageHeader.length_toBytes] at headed
          rw [List.length_append, MessageHeader.length_toBytes] at length
          have positive : MessageHeader.size = 16 := rfl
          rw [split_of_wrong wrong]
          exact .fault aligned headed (by omega)
      | @message header payload rest exact =>
          have headed := extract_eq_of_drop whole
          have body := drop_add_of_drop whole
          rw [MessageHeader.length_toBytes] at headed body
          have sliced := extract_eq_of_drop body
          have later := drop_add_of_drop body
          rw [List.length_append, List.length_append, MessageHeader.length_toBytes] at length
          have positive : MessageHeader.size = 16 := rfl
          have filled : Bytes.align header.length.toNat =
              header.length.toNat + fillLength payload := by
            rw [exact]
            exact align_size_add payload
          have next : data.drop (start + Bytes.align header.length.toNat) =
              rest.drop (fillLength payload) := by
            rw [← later, List.drop_drop, filled]
            congr 1
            omega
          have stop : start + MessageHeader.size + payload.length = start + header.length.toNat := by
            omega
          rw [stop] at sliced
          rw [split_of_length exact, ← next]
          conv => rhs; rw [← sliced]
          refine .message aligned headed (by omega) (by omega) (ih _ ?_ ?_ rfl)
          · omega
          · have grid := Bytes.align_mod_four header.length.toNat
            omega

/-- There is no other way to read a byte string. -/
theorem Laid.eq_split {data : Bytes} {start : Nat} {items : List (Except Error Message)}
    (laid : Laid data start items) : items = split (data.drop start) := by
  have positive : MessageHeader.size = 16 := rfl
  induction laid with
  | tail short =>
      refine (split_of_short ?_).symm
      rw [List.length_drop]
      omega
  | @fault start header _ headed wrong =>
      have whole := drop_eq_of_extract headed
      have length := congrArg List.length whole
      rw [List.length_append, MessageHeader.length_toBytes, List.length_drop] at length
      rw [whole, split_of_wrong (by omega)]
  | @message start header items _ headed covers fits _ ih =>
      have whole := drop_eq_of_extract headed
      rw [Nat.add_sub_cancel_left] at whole
      generalize sliced : data.extract (start + MessageHeader.size)
        (start + header.length.toNat) = payload
      have body := drop_eq_of_extract sliced
      have length : header.length.toNat = MessageHeader.size + payload.length := by
        rw [← sliced, List.extract_eq_take_drop, List.length_take, List.length_drop]
        omega
      have filled : Bytes.align header.length.toNat =
          header.length.toNat + fillLength payload := by
        rw [length]
        exact align_size_add payload
      rw [whole, body, split_of_length length, ih, List.drop_drop, filled]
      congr 3
      omega

theorem laid_iff_split {data : Bytes} {items : List (Except Error Message)} :
    Laid data 0 items ↔ split data = items :=
  ⟨fun laid => laid.eq_split.symm, fun same => same ▸ laid_split_drop data rfl⟩

/-- Every item takes up a header at least. -/
theorem Laid.length_le {data : Bytes} {start : Nat} {items : List (Except Error Message)}
    (laid : Laid data start items) : items.length ≤ (data.length - start) / MessageHeader.size := by
  have positive : MessageHeader.size = 16 := rfl
  rw [Nat.le_div_iff_mul_le (by decide), positive]
  induction laid with
  | tail short => exact Nat.zero_le _
  | @fault start header _ headed _ =>
      have length := congrArg List.length headed
      rw [List.extract_eq_take_drop, List.length_take, List.length_drop,
        MessageHeader.length_toBytes] at length
      rw [List.length_singleton]
      omega
  | @message start header items _ _ covers fits _ ih =>
      have grid := Bytes.le_align header.length.toNat
      rw [List.length_cons]
      omega

/-! ## Messages until the end -/

/-- How the items of a byte string end, and what comes of reading them all. -/
inductive Ends (data : Bytes) : List (Except Error Message) → Prop
  | sound {messages : List Message} (parsed : parseAll data = .ok messages) :
      Ends data (messages.map .ok)
  /-- Only the last item can be an error. -/
  | faulty {messages : List Message} {error : Error} (failed : parseAll data = .error error) :
      Ends data (messages.map .ok ++ [.error error])

theorem Laid.exists_map_ok {data : Bytes} {start : Nat} {items : List (Except Error Message)}
    (laid : Laid data start items) : ∃ messages : List Message,
      items = messages.map .ok ∨ ∃ error, items = messages.map .ok ++ [.error error] := by
  induction laid with
  | tail _ => exact ⟨[], .inl rfl⟩
  | fault _ _ _ => exact ⟨[], .inr ⟨_, rfl⟩⟩
  | message _ _ _ _ _ ih =>
      obtain ⟨messages, rfl | ⟨error, rfl⟩⟩ := ih
      · exact ⟨_ :: messages, .inl rfl⟩
      · exact ⟨_ :: messages, .inr ⟨error, rfl⟩⟩

theorem mapM_id_ok (messages : List Message) :
    (messages.map .ok : List (Except Error Message)).mapM id = .ok messages := by
  induction messages with
  | nil => rfl
  | cons first rest ih =>
      rw [List.map_cons, List.mapM_cons, ih]
      rfl

theorem mapM_id_error (messages : List Message) (error : Error) :
    (messages.map .ok ++ [.error error] : List (Except Error Message)).mapM id = .error error := by
  induction messages with
  | nil => rfl
  | cons first rest ih =>
      rw [List.map_cons, List.cons_append, List.mapM_cons, ih]
      rfl

theorem ends_split (data : Bytes) : Ends data (split data) := by
  obtain ⟨messages, same | ⟨error, same⟩⟩ := (laid_iff_split.mpr rfl : Laid data 0 _).exists_map_ok
  · rw [same]
    refine .sound ?_
    rw [parseAll, same, mapM_id_ok]
  · rw [same]
    refine .faulty ?_
    rw [parseAll, same, mapM_id_error]

theorem Ends.isOk_eq {data : Bytes} {items : List (Except Error Message)} (ends : Ends data items) :
    (parseAll data).isOk = items.all Except.isOk := by
  cases ends with
  | sound parsed =>
      rw [parsed, List.all_map]
      exact (List.all_eq_true.mpr fun _ _ => rfl).symm
  | faulty failed =>
      rw [failed, List.all_append]
      exact (Bool.and_false _).symm

/-- Reading a datagram gives the messages that it was put together from. -/
theorem Joined.parseAll_eq {frames : List Request} {data : Bytes} (joined : Joined frames data)
    (fits : ∀ frame ∈ frames, frame.length < UInt32.size) :
    parseAll data = .ok (frames.map ofRequest) := by
  have whole : split data = (frames.map ofRequest).map .ok := by
    rw [joined.split_eq fits, List.map_map]
    rfl
  rw [parseAll, whole, mapM_id_ok]

/-! ## Calls -/

/-- One call of an iterator over the messages of a byte string: the next item, and the bytes that are
left for later calls. There are none left after a wrong length. -/
def next (data : Bytes) : Option (Except Error Message) × Bytes :=
  match (Record.layout : Layout MessageHeader).read? data with
  | none => (none, data)
  | some (header, rest) =>
    match take header rest with
    | .error error => (some (.error error), [])
    | .ok (message, later) => (some (.ok message), later)

/-- What a call yields, where calls are counted from zero. -/
def call : Nat → Bytes → Option (Except Error Message)
  | 0, data => (next data).1
  | n + 1, data => call n (next data).2

theorem next_snd_of_none {data : Bytes} (ended : (next data).1 = none) : (next data).2 = data := by
  unfold next at ended ⊢
  split
  · rfl
  · next header rest headed =>
      rw [headed] at ended
      dsimp only at ended
      split at ended
      · cases ended
      · cases ended

/-- Splitting takes the item of one call after the other. -/
theorem split_eq_next (data : Bytes) :
    split data =
      match (next data).1 with
      | none => []
      | some item => item :: split (next data).2 := by
  have nothing : split [] = [] := split_of_short (by decide)
  rw [split, next]
  split
  · next missing => rw [missing]
  · next header rest headed =>
      rw [headed]
      split
      · next error failed =>
          dsimp only
          rw [failed]
          exact congrArg _ nothing.symm
      · next message later taken =>
          dsimp only
          rw [taken]

/-- The calls yield the items one by one, and nothing from then on. -/
theorem call_eq_getElem?_split (n : Nat) (data : Bytes) : call n data = (split data)[n]? := by
  induction n generalizing data with
  | zero =>
      rw [call, split_eq_next]
      cases (next data).1 with
      | none => rfl
      | some item => rfl
  | succ n ih =>
      have step := split_eq_next data
      rw [call, ih]
      cases yielded : (next data).1 with
      | none =>
          rw [yielded] at step
          rw [next_snd_of_none yielded, step]
          rfl
      | some item =>
          rw [yielded] at step
          rw [step]
          rfl

/-! ## Datagrams -/

/-- What the items of a byte string are. -/
structure Framed (data : Bytes) (items : List (Except Error Message)) : Prop where
  /-- They are laid out from the first byte on. -/
  laid : Laid data 0 items
  eq_of_laid : ∀ {others}, Laid data 0 others → others = items
  length_le : items.length ≤ data.length / MessageHeader.size
  /-- Only the last can be an error. -/
  ends : Ends data items
  isOk_eq : (parseAll data).isOk = items.all Except.isOk
  /-- The calls of an iterator yield them, and then nothing more. -/
  call_eq : ∀ n, call n data = items[n]?

/-- Messages that are put together are found again, with their headers and payloads. Whatever the
bytes are, the items that are found are slices of it, one after the other. -/
theorem parseAll_joined_and_framed_split :
    (∀ {frames : List Request} {data : Bytes}, Joined frames data →
      (∀ frame ∈ frames, frame.length < UInt32.size) →
      parseAll data = .ok (frames.map ofRequest)) ∧
    ∀ data : Bytes, Framed data (split data) := by
  refine ⟨Joined.parseAll_eq, fun data => ?_⟩
  have laid : Laid data 0 (split data) := laid_iff_split.mpr rfl
  exact {
    laid := laid
    eq_of_laid := fun other => (laid_iff_split.mp other).symm
    length_le := laid.length_le
    ends := ends_split data
    isOk_eq := (ends_split data).isOk_eq
    call_eq := fun n => call_eq_getElem?_split n data }

/-- A message with three bytes of filling, and one whose filling is cut to the first of two bytes. -/
def unevenFrames : List Request := [⟨36, 5, 1, 9, [7, 7, 7, 7, 7]⟩, ⟨38, 0x301, 2, 0, [1, 2]⟩]

theorem parseAll_joined_and_framed_split_unevenFrames :
    ∃ data, Joined unevenFrames data ∧ (∀ frame ∈ unevenFrames, frame.length < UInt32.size) ∧
      data.length = 43 ∧ parseAll data = .ok (unevenFrames.map ofRequest) ∧
      Framed data (split data) := by
  have fits : ∀ frame ∈ unevenFrames, frame.length < UInt32.size := by decide
  have last : Joined [⟨38, 0x301, 2, 0, [1, 2]⟩]
      (Request.finish ⟨38, 0x301, 2, 0, [1, 2]⟩ ++ [0]) := .last (by decide)
  have filled : ([0, 0, 0] : Bytes).length = fillLength [7, 7, 7, 7, 7] := rfl
  have joined : Joined unevenFrames _ := .cons filled last
  obtain ⟨parsed, framed⟩ := parseAll_joined_and_framed_split
  exact ⟨_, joined, fits, rfl, parsed joined fits, framed _⟩

end Message

end TrafficShaping
