/-!
Hexadecimal numerals.

They are written in lower case without leading zeros. They are read in either case, with any number
of leading zeros and at most one plus sign in front, and only below a bound.
-/

namespace TrafficShaping.Text.Hexadecimal

/-- Why a text is not a numeral below the bound. -/
inductive Fault where
  /-- There is nothing to read. -/
  | empty
  /-- A character is not a digit, or a sign has no digits. -/
  | invalidDigit
  /-- The number reaches the bound before the first character that is not a digit. -/
  | tooLarge
  deriving DecidableEq, Repr

/-- The wording of a fault. -/
def Fault.message : Fault → String
  | .empty => "cannot parse integer from empty string"
  | .invalidDigit => "invalid digit found in string"
  | .tooLarge => "number too large to fit in target type"

/-- The value of a digit. -/
def digitValue? (c : Char) : Option Nat :=
  if '0' ≤ c ∧ c ≤ '9' then some (c.toNat - '0'.toNat)
  else if 'a' ≤ c ∧ c ≤ 'f' then some (c.toNat - 'a'.toNat + 10)
  else if 'A' ≤ c ∧ c ≤ 'F' then some (c.toNat - 'A'.toNat + 10)
  else none

/-- The number spelled by the digits already read, whose value is `value`, and those that follow. -/
def readDigits (bound value : Nat) : List Char → Except Fault Nat
  | [] => .ok value
  | c :: rest =>
    match digitValue? c with
    | none => .error .invalidDigit
    | some digit =>
      if value * 16 + digit < bound then readDigits bound (value * 16 + digit) rest
      else .error .tooLarge

/-- The numeral in `text`, which must be below `bound`. -/
def read (bound : Nat) (text : List Char) : Except Fault Nat :=
  match text with
  | [] => .error .empty
  | ['+'] => .error .invalidDigit
  | '+' :: digits => readDigits bound 0 digits
  | digits => readDigits bound 0 digits

/-- The digit of value `n`, for `n` below sixteen. -/
def digit (n : Nat) : Char :=
  if n < 10 then Char.ofNat ('0'.toNat + n) else Char.ofNat ('a'.toNat + (n - 10))

/-- The numeral of `n`. -/
def write (n : Nat) : List Char :=
  if n < 16 then [digit n] else write (n / 16) ++ [digit (n % 16)]

end TrafficShaping.Text.Hexadecimal
