import TrafficShaping.Text.Utf8

/-!
Every text is read back from its bytes, and from no others.

A character is written in one to four bytes, and `takeChar_utf8EncodeChar` reads it again from any
bytes that begin with those: the bounds on the second byte, which keep out overlong forms,
surrogates and what lies past the last code point, hold for every character. `decode_encode` follows
by induction on the text.

The same bounds make the bytes of a character the only ones it is taken from,
`utf8EncodeChar_append_of_takeChar`, and `encode_of_decode` follows by induction on what is read.
-/

namespace TrafficShaping.Text.Utf8

/-! ## Bytes -/

theorem ofNat_lt_iff {n : Nat} (byte : n < 256) (bound : UInt8) :
    UInt8.ofNat n < bound ↔ n < bound.toNat := by
  rw [UInt8.lt_iff_toNat_lt, UInt8.toNat_ofNat_of_lt' byte]

theorem ofNat_le_iff {n : Nat} (byte : n < 256) (bound : UInt8) :
    UInt8.ofNat n ≤ bound ↔ n ≤ bound.toNat := by
  rw [UInt8.le_iff_toNat_le, UInt8.toNat_ofNat_of_lt' byte]

theorem le_ofNat_iff {n : Nat} (byte : n < 256) (bound : UInt8) :
    bound ≤ UInt8.ofNat n ↔ bound.toNat ≤ n := by
  rw [UInt8.le_iff_toNat_le, UInt8.toNat_ofNat_of_lt' byte]

theorem ofNat_eq_iff {n : Nat} (byte : n < 256) (other : UInt8) :
    UInt8.ofNat n = other ↔ n = other.toNat := by
  rw [← UInt8.toNat_inj, UInt8.toNat_ofNat_of_lt' byte]

/-! ## Characters -/

section Forms

variable {a x y z good : Nat} {later : Bytes}

/-- Six bits in a continuation byte are read when the byte is within the tighter bounds, where these
apply. -/
theorem continuation_ofNat {p q : Prop} [Decidable p] [Decidable q] (low high : UInt8)
    (six : x < 64) (above : p → low.toNat ≤ x + 0x80) (below : q → x + 0x80 ≤ high.toNat) :
    continuation (if p then low else 0x80) (if q then high else 0xBF) good
      (UInt8.ofNat (x + 0x80) :: later) = .ok (x, later) := by
  have byte : x + 0x80 < 256 := by omega
  have bits : (x + 0x80) % 64 = x := by omega
  rw [continuation, if_pos, UInt8.toNat_ofNat_of_lt' byte, bits]
  constructor
  · rw [le_ofNat_iff byte]
    split
    · exact above ‹_›
    · exact Nat.le_add_left 0x80 x
  · rw [ofNat_le_iff byte]
    split
    · exact below ‹_›
    · change x + 0x80 ≤ 0xBF
      omega

theorem continuation_any (six : x < 64) :
    continuation 0x80 0xBF good (UInt8.ofNat (x + 0x80) :: later) = .ok (x, later) :=
  continuation_ofNat (p := False) (q := False) 0x80 0xBF six False.elim False.elim

theorem takeChar_one (seven : a < 0x80) :
    takeChar (UInt8.ofNat a) later = .ok (Char.ofNat a, later) := by
  have byte : a < 256 := by omega
  have form : UInt8.ofNat a < 0x80 := (ofNat_lt_iff byte 0x80).mpr seven
  rw [takeChar, if_pos form, UInt8.toNat_ofNat_of_lt' byte]

theorem takeChar_two (five : a < 32) (least : 2 ≤ a) (six : x < 64) :
    takeChar (UInt8.ofNat (a + 0xC0)) (UInt8.ofNat (x + 0x80) :: later) =
      .ok (Char.ofNat (a * 64 + x), later) := by
  have byte : a + 0xC0 < 256 := by omega
  have bits : (a + 0xC0) % 32 = a := by omega
  unfold takeChar
  simp only [ofNat_lt_iff byte, ofNat_le_iff byte, le_ofNat_iff byte, UInt8.toNat_ofNat_of_lt' byte,
    bits, UInt8.reduceToNat]
  rw [if_neg (by omega), if_pos (by omega), continuation_any six]
  rfl

theorem takeChar_three (four : a < 16) (sixX : x < 64) (sixY : y < 64) (least : a = 0 → 32 ≤ x)
    (noSurrogate : a = 13 → x < 32) :
    takeChar (UInt8.ofNat (a + 0xE0)) (UInt8.ofNat (x + 0x80) :: UInt8.ofNat (y + 0x80) :: later) =
      .ok (Char.ofNat ((a * 64 + x) * 64 + y), later) := by
  have byte : a + 0xE0 < 256 := by omega
  have bits : (a + 0xE0) % 16 = a := by omega
  have second : continuation (if a + 0xE0 = 0xE0 then 0xA0 else 0x80)
      (if a + 0xE0 = 0xED then 0x9F else 0xBF) 1
      (UInt8.ofNat (x + 0x80) :: UInt8.ofNat (y + 0x80) :: later) =
        .ok (x, UInt8.ofNat (y + 0x80) :: later) := by
    apply continuation_ofNat _ _ sixX
    · intro first
      change 0xA0 ≤ x + 0x80
      omega
    · intro first
      change x + 0x80 ≤ 0x9F
      omega
  unfold takeChar
  simp only [ofNat_lt_iff byte, ofNat_le_iff byte, le_ofNat_iff byte, ofNat_eq_iff byte,
    UInt8.toNat_ofNat_of_lt' byte, bits, UInt8.reduceToNat]
  rw [if_neg (by omega), if_neg (by omega), if_pos (by omega), second]
  change (continuation 0x80 0xBF 2 (UInt8.ofNat (y + 0x80) :: later) >>= fun _ => _) = _
  rw [continuation_any sixY]
  rfl

theorem takeChar_four (three : a < 5) (sixX : x < 64) (sixY : y < 64) (sixZ : z < 64)
    (least : a = 0 → 16 ≤ x) (last : a = 4 → x < 16) :
    takeChar (UInt8.ofNat (a + 0xF0))
        (UInt8.ofNat (x + 0x80) :: UInt8.ofNat (y + 0x80) :: UInt8.ofNat (z + 0x80) :: later) =
      .ok (Char.ofNat (((a * 64 + x) * 64 + y) * 64 + z), later) := by
  have byte : a + 0xF0 < 256 := by omega
  have bits : (a + 0xF0) % 8 = a := by omega
  have second : continuation (if a + 0xF0 = 0xF0 then 0x90 else 0x80)
      (if a + 0xF0 = 0xF4 then 0x8F else 0xBF) 1
      (UInt8.ofNat (x + 0x80) :: UInt8.ofNat (y + 0x80) :: UInt8.ofNat (z + 0x80) :: later) =
        .ok (x, UInt8.ofNat (y + 0x80) :: UInt8.ofNat (z + 0x80) :: later) := by
    apply continuation_ofNat _ _ sixX
    · intro first
      change 0x90 ≤ x + 0x80
      omega
    · intro first
      change x + 0x80 ≤ 0x8F
      omega
  unfold takeChar
  simp only [ofNat_lt_iff byte, ofNat_le_iff byte, le_ofNat_iff byte, ofNat_eq_iff byte,
    UInt8.toNat_ofNat_of_lt' byte, bits, UInt8.reduceToNat]
  rw [if_neg (by omega), if_neg (by omega), if_neg (by omega), if_pos (by omega), second]
  change (continuation 0x80 0xBF 2
    (UInt8.ofNat (y + 0x80) :: UInt8.ofNat (z + 0x80) :: later) >>= fun _ => _) = _
  rw [continuation_any sixY]
  change (continuation 0x80 0xBF 3 (UInt8.ofNat (z + 0x80) :: later) >>= fun _ => _) = _
  rw [continuation_any sixZ]
  rfl

theorem toNat_val_ofNat {v : Nat} (valid : v < 0xD800 ∨ 0xDFFF < v ∧ v < 0x110000) :
    (Char.ofNat v).val.toNat = v := by
  rw [Char.ofNat, dif_pos valid]
  rfl

theorem utf8EncodeChar_one (seven : a < 0x80) :
    String.utf8EncodeChar (Char.ofNat a) = [UInt8.ofNat a] := by
  unfold String.utf8EncodeChar
  rw [toNat_val_ofNat (by omega)]
  exact if_pos (by omega)

theorem utf8EncodeChar_two (five : a < 32) (least : 2 ≤ a) (six : x < 64) :
    String.utf8EncodeChar (Char.ofNat (a * 64 + x)) =
      [UInt8.ofNat (a + 0xC0), UInt8.ofNat (x + 0x80)] := by
  have upper : (a * 64 + x) / 64 % 32 = a := by omega
  have lower : (a * 64 + x) % 64 = x := by omega
  unfold String.utf8EncodeChar
  rw [toNat_val_ofNat (by omega)]
  dsimp only
  rw [if_neg (by omega), if_pos (by omega), upper, lower]

theorem utf8EncodeChar_three (four : a < 16) (sixX : x < 64) (sixY : y < 64)
    (least : a = 0 → 32 ≤ x) (noSurrogate : a = 13 → x < 32) :
    String.utf8EncodeChar (Char.ofNat ((a * 64 + x) * 64 + y)) =
      [UInt8.ofNat (a + 0xE0), UInt8.ofNat (x + 0x80), UInt8.ofNat (y + 0x80)] := by
  have upper : ((a * 64 + x) * 64 + y) / 4096 % 16 = a := by omega
  have middle : ((a * 64 + x) * 64 + y) / 64 % 64 = x := by omega
  have lower : ((a * 64 + x) * 64 + y) % 64 = y := by omega
  unfold String.utf8EncodeChar
  rw [toNat_val_ofNat (by omega)]
  dsimp only
  rw [if_neg (by omega), if_neg (by omega), if_pos (by omega), upper, middle, lower]

theorem utf8EncodeChar_four (three : a < 5) (sixX : x < 64) (sixY : y < 64) (sixZ : z < 64)
    (least : a = 0 → 16 ≤ x) (last : a = 4 → x < 16) :
    String.utf8EncodeChar (Char.ofNat (((a * 64 + x) * 64 + y) * 64 + z)) =
      [UInt8.ofNat (a + 0xF0), UInt8.ofNat (x + 0x80), UInt8.ofNat (y + 0x80),
        UInt8.ofNat (z + 0x80)] := by
  have upper : (((a * 64 + x) * 64 + y) * 64 + z) / 262144 % 8 = a := by omega
  have second : (((a * 64 + x) * 64 + y) * 64 + z) / 4096 % 64 = x := by omega
  have third : (((a * 64 + x) * 64 + y) * 64 + z) / 64 % 64 = y := by omega
  have lower : (((a * 64 + x) * 64 + y) * 64 + z) % 64 = z := by omega
  unfold String.utf8EncodeChar
  rw [toNat_val_ofNat (by omega)]
  dsimp only
  rw [if_neg (by omega), if_neg (by omega), if_neg (by omega), upper, second, third, lower]

end Forms

/-- A character is not a surrogate and not past the last code point. -/
theorem val_of_char (c : Char) :
    c.val.toNat < 0xD800 ∨ 0xDFFF < c.val.toNat ∧ c.val.toNat < 0x110000 := c.valid

/-- The bytes of a character are those that `takeChar` takes. -/
theorem takeChar_utf8EncodeChar (c : Char) (later : Bytes) :
    ∃ first rest, String.utf8EncodeChar c ++ later = first :: rest ∧
      takeChar first rest = .ok (c, later) := by
  have valid := val_of_char c
  have own : Char.ofNat c.val.toNat = c := Char.ofNat_toNat c
  unfold String.utf8EncodeChar
  generalize c.val.toNat = v at valid own ⊢
  dsimp only
  split
  · refine ⟨_, _, rfl, ?_⟩
    refine (takeChar_one (by omega)).trans ?_
    rw [own]
    rfl
  split
  · refine ⟨_, _, rfl, ?_⟩
    refine (takeChar_two (by omega) (by omega) (by omega)).trans ?_
    have whole : v / 64 % 32 * 64 + v % 64 = v := by omega
    rw [whole, own]
    rfl
  split
  · refine ⟨_, _, rfl, ?_⟩
    refine (takeChar_three (by omega) (by omega) (by omega) (by omega) (by omega)).trans ?_
    have whole : (v / 4096 % 16 * 64 + v / 64 % 64) * 64 + v % 64 = v := by omega
    rw [whole, own]
    rfl
  · refine ⟨_, _, rfl, ?_⟩
    refine (takeChar_four (by omega) (by omega) (by omega) (by omega) (by omega)
      (by omega)).trans ?_
    have whole :
        ((v / 262144 % 8 * 64 + v / 4096 % 64) * 64 + v / 64 % 64) * 64 + v % 64 = v := by omega
    rw [whole, own]
    rfl

section Taken

variable {first : UInt8} {x good : Nat} {data rest later : Bytes} {c : Char}

theorem ofNat_eq_of_toNat {n : Nat} {b : UInt8} (same : n = b.toNat) : UInt8.ofNat n = b := by
  rw [same, UInt8.ofNat_toNat]

theorem exists_eq_cons_of_continuation {low high : UInt8}
    (read : continuation low high good data = .ok (x, rest)) :
    ∃ b : UInt8, data = b :: rest ∧ low.toNat ≤ b.toNat ∧ b.toNat ≤ high.toNat ∧
      x = b.toNat % 64 := by
  cases data with
  | nil => cases read
  | cons b tail =>
      rw [continuation] at read
      split at read
      · next within =>
          cases read
          exact ⟨b, rfl, UInt8.le_iff_toNat_le.mp within.1, UInt8.le_iff_toNat_le.mp within.2, rfl⟩
      · cases read

/-- A continuation byte holds the six bits that are read from it, and is within the tighter bounds
where these apply. -/
theorem eq_cons_of_continuation {p q : Prop} [Decidable p] [Decidable q] {low high : UInt8}
    (inside : 0x80 ≤ low.toNat ∧ high.toNat ≤ 0xBF)
    (read : continuation (if p then low else 0x80) (if q then high else 0xBF) good data =
      .ok (x, rest)) :
    data = UInt8.ofNat (x + 0x80) :: rest ∧ x < 64 ∧ (p → low.toNat ≤ x + 0x80) ∧
      (q → x + 0x80 ≤ high.toNat) := by
  obtain ⟨b, rfl, above, below, rfl⟩ := exists_eq_cons_of_continuation read
  simp only [apply_ite UInt8.toNat, UInt8.reduceToNat] at above below
  have least : 0x80 ≤ b.toNat := by
    split at above <;> omega
  have largest : b.toNat ≤ 0xBF := by
    split at below <;> omega
  have bits : b.toNat % 64 + 0x80 = b.toNat := by omega
  rw [bits, UInt8.ofNat_toNat]
  refine ⟨rfl, by omega, fun tight => ?_, fun tight => ?_⟩
  · rwa [if_pos tight] at above
  · rwa [if_pos tight] at below

theorem eq_cons_of_continuation_any (read : continuation 0x80 0xBF good data = .ok (x, rest)) :
    data = UInt8.ofNat (x + 0x80) :: rest ∧ x < 64 := by
  obtain ⟨split, six, _⟩ := @eq_cons_of_continuation _ _ _ _ False False _ _ 0x80 0xBF
    (by decide) read
  exact ⟨split, six⟩

/-- A character is taken from its own bytes only. -/
theorem utf8EncodeChar_append_of_takeChar (taken : takeChar first rest = .ok (c, later)) :
    String.utf8EncodeChar c ++ later = first :: rest := by
  -- One case for each form, in the order of the first bytes; those that start none come last.
  unfold takeChar at taken
  simp only [UInt8.lt_iff_toNat_lt, UInt8.le_iff_toNat_le, ← UInt8.toNat_inj,
    UInt8.reduceToNat] at taken
  split at taken
  · next form =>
      cases taken
      rw [utf8EncodeChar_one form, ofNat_eq_of_toNat rfl]
      rfl
  split at taken
  · next form =>
      obtain ⟨⟨x, rest₁⟩, h₁, built⟩ := Outcome.bind_eq_ok.mp taken
      obtain ⟨rfl, six⟩ := eq_cons_of_continuation_any h₁
      cases built
      rw [utf8EncodeChar_two (by omega) (by omega) six, ofNat_eq_of_toNat (b := first) (by omega)]
      rfl
  split at taken
  · next form =>
      obtain ⟨⟨x, rest₁⟩, h₁, later₁⟩ := Outcome.bind_eq_ok.mp taken
      obtain ⟨⟨y, rest₂⟩, h₂, built⟩ := Outcome.bind_eq_ok.mp later₁
      obtain ⟨rfl, sixX, least, noSurrogate⟩ := eq_cons_of_continuation (by decide) h₁
      obtain ⟨rfl, sixY⟩ := eq_cons_of_continuation_any h₂
      cases built
      simp only [UInt8.reduceToNat] at least noSurrogate
      rw [utf8EncodeChar_three (by omega) sixX sixY (by omega) (by omega),
        ofNat_eq_of_toNat (b := first) (by omega)]
      rfl
  split at taken
  · next form =>
      obtain ⟨⟨x, rest₁⟩, h₁, later₁⟩ := Outcome.bind_eq_ok.mp taken
      obtain ⟨⟨y, rest₂⟩, h₂, later₂⟩ := Outcome.bind_eq_ok.mp later₁
      obtain ⟨⟨z, rest₃⟩, h₃, built⟩ := Outcome.bind_eq_ok.mp later₂
      obtain ⟨rfl, sixX, least, last⟩ := eq_cons_of_continuation (by decide) h₁
      obtain ⟨rfl, sixY⟩ := eq_cons_of_continuation_any h₂
      obtain ⟨rfl, sixZ⟩ := eq_cons_of_continuation_any h₃
      cases built
      simp only [UInt8.reduceToNat] at least last
      rw [utf8EncodeChar_four (by omega) sixX sixY sixZ (by omega) (by omega),
        ofNat_eq_of_toNat (b := first) (by omega)]
      rfl
  · cases taken

end Taken

/-! ## Texts -/

theorem decodeFrom_flatMap (chars : List Char) (index : Nat) (read : List Char) :
    decodeFrom index read (chars.flatMap String.utf8EncodeChar) = .ok (read.reverse ++ chars) := by
  induction chars generalizing index read with
  | nil =>
      rw [List.flatMap_nil, decodeFrom, List.append_nil]
  | cons c later ih =>
      obtain ⟨first, rest, whole, taken⟩ :=
        takeChar_utf8EncodeChar c (later.flatMap String.utf8EncodeChar)
      rw [List.flatMap_cons, whole, decodeFrom]
      split
      · rename_i failed
        rw [taken] at failed
        cases failed
      · rename_i found
        rw [taken] at found
        cases found
        rw [ih, List.reverse_cons, List.append_assoc]
        rfl

/-- A text is read back from its bytes. -/
@[simp] theorem decode_encode (text : String) : decode (encode text) = .ok text := by
  unfold decode encode
  rw [decodeFrom_flatMap]
  exact congrArg Except.ok String.ofList_toList

theorem flatMap_of_decodeFrom {index : Nat} {read chars : List Char} {data : Bytes}
    (decoded : decodeFrom index read data = .ok chars) :
    chars.flatMap String.utf8EncodeChar = read.reverse.flatMap String.utf8EncodeChar ++ data := by
  induction index, read, data using decodeFrom.induct with
  | case1 index read =>
      rw [decodeFrom] at decoded
      cases decoded
      rw [List.append_nil]
  | case2 index read first rest length failed =>
      rw [decodeFrom] at decoded
      split at decoded
      · cases decoded
      · next taken => cases failed.symm.trans taken
  | case3 index read first rest c later taken ih =>
      rw [decodeFrom] at decoded
      split at decoded
      · cases decoded
      · next taken' =>
          cases taken.symm.trans taken'
          rw [ih decoded, List.reverse_cons, List.flatMap_append, List.append_assoc,
            List.flatMap_singleton, utf8EncodeChar_append_of_takeChar taken]

/-- A text is read from its own bytes only. -/
theorem encode_of_decode {data : Bytes} {text : String} (decoded : decode data = .ok text) :
    encode text = data := by
  obtain ⟨chars, read, rfl⟩ := Outcome.map_eq_ok.mp decoded
  rw [encode, String.toList_ofList]
  exact flatMap_of_decodeFrom read

theorem ne_zero_of_mem_utf8EncodeChar {c : Char} {b : UInt8} (nonzero : c ≠ '\x00')
    (member : b ∈ String.utf8EncodeChar c) : b ≠ 0 := by
  have positive : c.val.toNat ≠ 0 := by
    intro zero
    exact nonzero (Char.ext (UInt32.toNat_inj.mp zero))
  have ofNat_ne : ∀ {n : Nat}, n < 256 → n ≠ 0 → UInt8.ofNat n ≠ 0 := fun byte other zero =>
    other ((ofNat_eq_iff byte 0).mp zero)
  unfold String.utf8EncodeChar at member
  generalize c.val.toNat = v at positive member
  dsimp only at member
  split at member
  · cases List.mem_singleton.mp member
    exact ofNat_ne (by omega) positive
  split at member
  · simp only [List.mem_cons, List.not_mem_nil, or_false] at member
    rcases member with rfl | rfl
    · exact ofNat_ne (by omega) (by omega)
    · exact ofNat_ne (by omega) (by omega)
  split at member
  · simp only [List.mem_cons, List.not_mem_nil, or_false] at member
    rcases member with rfl | rfl | rfl
    · exact ofNat_ne (by omega) (by omega)
    · exact ofNat_ne (by omega) (by omega)
    · exact ofNat_ne (by omega) (by omega)
  · simp only [List.mem_cons, List.not_mem_nil, or_false] at member
    rcases member with rfl | rfl | rfl | rfl
    · exact ofNat_ne (by omega) (by omega)
    · exact ofNat_ne (by omega) (by omega)
    · exact ofNat_ne (by omega) (by omega)
    · exact ofNat_ne (by omega) (by omega)

/-- The bytes of a text have no zero byte that is not a character of it. -/
theorem ne_zero_of_mem_encode {text : String} (free : '\x00' ∉ text.toList) :
    ∀ b ∈ encode text, b ≠ 0 := by
  intro b member
  obtain ⟨c, there, own⟩ := List.mem_flatMap.mp member
  have nonzero : c ≠ '\x00' := by
    rintro rfl
    exact free there
  exact ne_zero_of_mem_utf8EncodeChar nonzero own

end TrafficShaping.Text.Utf8
