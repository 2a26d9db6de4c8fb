import TrafficShaping.Text.Hexadecimal
import TrafficShaping.Wire.Layout

/-!
Handles of qdiscs and classes.

A handle is a word of 32 bits: the upper half is the major number, which belongs to a qdisc, and the
lower half the minor number, which is zero for the qdisc itself. Four values stand for places that
no object owns, and have names of their own in text. `Handle.text` writes a handle and
`Handle.parse` reads one.
-/

namespace TrafficShaping

/-- A handle. -/
structure Handle where
  raw : UInt32
  deriving DecidableEq, Repr

namespace Handle

/-- The parent of a qdisc that is attached to the link itself. -/
def root : Handle := ⟨0xFFFFFFFF⟩

/-- No handle: the kernel chooses one, or there is no parent. -/
def none : Handle := ⟨0⟩

/-- The parent of the ingress qdisc. -/
def ingress : Handle := ⟨0xFFFFFFF1⟩

/-- The parent of the clsact qdisc. -/
def clsact : Handle := ⟨0xFFFFFFF2⟩

/-- The handle of a major and a minor number. -/
def ofParts (major minor : UInt16) : Handle := ⟨(major.toUInt32 <<< 16) ||| minor.toUInt32⟩

/-- The upper half. -/
def major (handle : Handle) : UInt16 := (handle.raw >>> 16).toUInt16

/-- The lower half. -/
def minor (handle : Handle) : UInt16 := (handle.raw &&& 0xFFFF).toUInt16

/-- The handle of the qdisc that owns the major number. -/
def qdisc (handle : Handle) : Handle := ofParts handle.major 0

/-- Whether the handle is the parent of root qdiscs. -/
def isRoot (handle : Handle) : Bool := handle = root

/-- Whether the handle is the parent of ingress qdiscs. -/
def isIngress (handle : Handle) : Bool := handle = ingress

/-- Whether the handle is the parent of clsact qdiscs. -/
def isClsact (handle : Handle) : Bool := handle = clsact

/-- Whether there is no handle. -/
def isNone (handle : Handle) : Bool := handle = none

/-- A handle as one word. -/
def layout : Layout Handle := Layout.uint32.map Handle.mk Handle.raw

/-! ## Text -/

/-- The names of the handles that stand for places. -/
def names : List (String × Handle) :=
  [("root", root), ("ingress", ingress), ("clsact", clsact), ("none", none)]

/-- The name of a place, or the two numbers in hexadecimal around a colon, where a zero minor number
is left out. -/
def text (handle : Handle) : String :=
  match names.find? (fun entry => entry.2 == handle) with
  | some (name, _) => name
  | Option.none =>
    let major := Text.Hexadecimal.write handle.major.toNat
    let minor := if handle.minor = 0 then [] else Text.Hexadecimal.write handle.minor.toNat
    String.ofList (major ++ ':' :: minor)

/-- The two numbers around the first colon, each below `2 ^ 16`, where the second may be missing. -/
def parseParts? (text : List Char) : Option Handle :=
  match text.dropWhile (· != ':') with
  | [] => Option.none
  | _ :: minor => do
    let major ← (Text.Hexadecimal.read UInt16.size (text.takeWhile (· != ':'))).toOption
    let minor ← if minor.isEmpty then some 0 else (Text.Hexadecimal.read UInt16.size minor).toOption
    some (ofParts (UInt16.ofNat major) (UInt16.ofNat minor))

/-- The handle that a text names, exactly as written. -/
def parse (text : String) : Except Error Handle :=
  match names.lookup text with
  | some handle => .ok handle
  | Option.none =>
    match parseParts? text.toList with
    | some handle => .ok handle
    | Option.none => .error (.handle text)

end Handle

end TrafficShaping
