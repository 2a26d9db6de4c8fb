/-!
The characters that Unicode calls white space (property `White_Space`), and the words of a text
that stand between them.
-/

namespace TrafficShaping.Text

/-- The ranges of code points with the property `White_Space`, in order. -/
def blankRanges : List (Nat × Nat) :=
  [(0x0009, 0x000D), (0x0020, 0x0020), (0x0085, 0x0085), (0x00A0, 0x00A0), (0x1680, 0x1680),
    (0x2000, 0x200A), (0x2028, 0x2029), (0x202F, 0x202F), (0x205F, 0x205F), (0x3000, 0x3000)]

/-- A character with the property `White_Space`. -/
def isBlank (c : Char) : Bool :=
  blankRanges.any fun range => range.1 ≤ c.toNat && c.toNat ≤ range.2

/-- A text cut into the run of characters that are not blank at its start, which may be empty, and
the words after that run. -/
def splitWords : List Char → List Char × List (List Char)
  | [] => ([], [])
  | c :: rest =>
    let (first, later) := splitWords rest
    if isBlank c then ([], if first.isEmpty then later else first :: later)
    else (c :: first, later)

/-- The maximal runs of characters that are not blank, in order. -/
def words (text : String) : List String :=
  let (first, later) := splitWords text.toList
  (if first.isEmpty then later else first :: later).map String.ofList

end TrafficShaping.Text
