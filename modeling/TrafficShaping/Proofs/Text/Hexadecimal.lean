import TrafficShaping.Outcome
import TrafficShaping.Text.Hexadecimal

/-!
Hexadecimal numerals are read back.

Digits are read from the front and written from the back, so that reading is taken apart behind the
digits read first (`readDigits_append`), and `read_write` follows by induction on what is written.
The numerals written consist of digits (`exists_of_mem_write`): there is no sign in them, nor
anything that could end them.
-/

namespace TrafficShaping.Text.Hexadecimal

variable {bound n : Nat}

/-! ## Digits -/

theorem digitValue?_digit (small : n < 16) : digitValue? (digit n) = some n := by
  have each : ∀ m < 16, digitValue? (digit m) = some m := by decide
  exact each n small

theorem readDigits_digit {value : Nat} (small : n < 16) (below : value * 16 + n < bound) :
    readDigits bound value [digit n] = .ok (value * 16 + n) := by
  rw [readDigits, digitValue?_digit small]
  exact if_pos below

theorem readDigits_append (front back : List Char) (value : Nat) :
    readDigits bound value (front ++ back) =
      readDigits bound value front >>= fun upper => readDigits bound upper back := by
  induction front generalizing value with
  | nil => rfl
  | cons c front ih =>
      rw [List.cons_append, readDigits, readDigits]
      split
      · rfl
      · split
        · exact ih _
        · rfl

/-! ## Numerals -/

theorem write_ne_nil (n : Nat) : write n ≠ [] := by
  rw [write]
  split
  · exact List.cons_ne_nil _ _
  · exact List.append_ne_nil_of_right_ne_nil _ (List.cons_ne_nil _ _)

theorem exists_of_mem_write {c : Char} (among : c ∈ write n) :
    ∃ digit, digitValue? c = some digit := by
  fun_induction write n with
  | case1 n single =>
      rw [List.mem_singleton.mp among]
      exact ⟨n, digitValue?_digit single⟩
  | case2 n many ih =>
      rcases List.mem_append.mp among with upper | last
      · exact ih upper
      · rw [List.mem_singleton.mp last]
        exact ⟨n % 16, digitValue?_digit (Nat.mod_lt n (by decide))⟩

/-- A character that is no digit does not occur in a numeral. -/
theorem notMem_write {c : Char} (other : digitValue? c = none) (n : Nat) : c ∉ write n := by
  intro among
  obtain ⟨digit, value⟩ := exists_of_mem_write among
  cases other.symm.trans value

theorem readDigits_write (below : n < bound) : readDigits bound 0 (write n) = .ok n := by
  fun_induction write n with
  | case1 n single =>
      have whole : 0 * 16 + n = n := by omega
      rw [readDigits_digit single (whole.symm ▸ below), whole]
  | case2 n many ih =>
      -- The digits before the last one are the numeral of the quotient, which is smaller still.
      have last : n % 16 < 16 := Nat.mod_lt n (by decide)
      have whole : n / 16 * 16 + n % 16 = n := Nat.div_add_mod' n 16
      rw [readDigits_append, ih (by omega)]
      refine (readDigits_digit last (whole.symm ▸ below)).trans ?_
      rw [whole]

theorem read_of_unsigned {text : List Char} (nonempty : text ≠ []) (unsigned : '+' ∉ text) :
    read bound text = readDigits bound 0 text := by
  unfold read
  split
  · exact absurd rfl nonempty
  · exact absurd List.mem_cons_self unsigned
  · exact absurd List.mem_cons_self unsigned
  · rfl

/-- A number below the bound is read back from its numeral. -/
theorem read_write (below : n < bound) : read bound (write n) = .ok n := by
  rw [read_of_unsigned (write_ne_nil n) (notMem_write rfl n), readDigits_write below]

end TrafficShaping.Text.Hexadecimal
