import TrafficShaping.Error

/-!
What an error means, whatever it is put under.

The operations that an error is put under are layers around it, and all questions about its meaning
are put to what is below the layers (`Error.sameMeaning_of_root_eq`). A rejection gets a layer for
each operation and no other error does, also when there are layers around that one already
(`Error.inContextOf_of_isSome`, `Error.inContextOf_of_eq_none`). Nothing in this looks at whether a
rejection means what its number says. One that is made from a code has the number of the code, in
which the sign is lost (`Error.means_same_and_ofCode_neg`).
-/

namespace TrafficShaping.Error

variable {a b error : Error} {operation : String} {operations : List String}

/-! ## Meaning -/

/-- Whether two errors mean the same, however they are worded. -/
structure SameMeaning (a b : Error) : Prop where
  root_eq : a.root = b.root
  errno?_eq : a.errno? = b.errno?
  isNotFound_eq : a.isNotFound = b.isNotFound
  isAlreadyExists_eq : a.isAlreadyExists = b.isAlreadyExists
  isInvalidArgument_eq : a.isInvalidArgument = b.isInvalidArgument
  isPermissionDenied_eq : a.isPermissionDenied = b.isPermissionDenied
  isNoKernelSupport_eq : a.isNoKernelSupport = b.isNoKernelSupport
  isWireFormat_eq : a.isWireFormat = b.isWireFormat

/-- The meaning is that of the error below all layers. -/
theorem sameMeaning_of_root_eq (same : a.root = b.root) : SameMeaning a b := by
  have rejection : a.rejection? = b.rejection? := by
    unfold rejection?
    rw [same]
  have classed (meaning : Rejection) :
      decide (a.rejection? = some meaning) = decide (b.rejection? = some meaning) := by
    rw [rejection]
  constructor
  case root_eq => exact same
  case errno?_eq =>
    unfold errno?
    rw [same]
  case isNotFound_eq =>
    unfold isNotFound
    rw [same]
  case isAlreadyExists_eq => exact classed .alreadyExists
  case isInvalidArgument_eq => exact classed .invalidArgument
  case isPermissionDenied_eq => exact classed .permissionDenied
  case isNoKernelSupport_eq => exact classed .noKernelSupport
  case isWireFormat_eq =>
    unfold isWireFormat
    rw [same]

/-! ## Layers -/

/-- The error after some operations in turn have added their context. -/
def inContextOf (error : Error) (operations : List String) : Error :=
  operations.foldl withContext error

/-- The error with one more layer for each of some operations, the last one outermost. -/
def under (error : Error) (operations : List String) : Error :=
  operations.foldl (fun cause operation => .context operation cause) error

/-- The names of operations as they introduce an error below them. -/
def introduction (operations : List String) : String :=
  String.join (operations.reverse.map (· ++ ": "))

theorem withContext_of_isSome (rejected : error.errno?.isSome = true) (operation : String) :
    error.withContext operation = .context operation error :=
  if_pos rejected

theorem withContext_of_eq_none (here : error.errno? = none) (operation : String) :
    error.withContext operation = error := by
  unfold withContext
  rw [here]
  rfl

theorem root_withContext (error : Error) (operation : String) :
    (error.withContext operation).root = error.root := by
  unfold withContext
  split
  · rfl
  · rfl

theorem root_inContextOf (error : Error) (operations : List String) :
    (error.inContextOf operations).root = error.root := by
  induction operations generalizing error with
  | nil => rfl
  | cons first later ih => exact (ih (error.withContext first)).trans (root_withContext error first)

/-- A rejection gets a layer for each operation. -/
theorem inContextOf_of_isSome (rejected : error.errno?.isSome = true) :
    error.inContextOf operations = error.under operations := by
  induction operations generalizing error with
  | nil => rfl
  | cons first later ih =>
      change (error.withContext first).inContextOf later = _
      rw [withContext_of_isSome rejected]
      -- Below the new layer it is the same rejection.
      exact ih rejected

/-- An error that is no rejection gets no layer. -/
theorem inContextOf_of_eq_none (here : error.errno? = none) :
    error.inContextOf operations = error := by
  induction operations with
  | nil => rfl
  | cons first later ih =>
      change (error.withContext first).inContextOf later = _
      rw [withContext_of_eq_none here, ih]

theorem message_context (operation : String) (cause : Error) :
    (context operation cause).message = operation ++ ": " ++ cause.message := rfl

theorem message_under (error : Error) (operations : List String) :
    (error.under operations).message = introduction operations ++ error.message := by
  induction operations generalizing error with
  | nil => exact (String.empty_append).symm
  | cons first later ih =>
      have front : introduction (first :: later) = introduction later ++ (first ++ ": ") := by
        unfold introduction
        rw [List.reverse_cons, List.map_append, String.join_append]
        exact congrArg _ (String.join_cons.trans String.append_empty)
      change ((context first error).under later).message = _
      rw [ih, message_context, front, String.append_assoc, String.append_assoc, String.append_assoc]

/-! ## Codes -/

/-- Whether an error is a rejection of one of the five named sorts. A missing link counts as
something that is not found. -/
def sorts (error : Error) : List Bool :=
  [error.isNotFound, error.isAlreadyExists, error.isInvalidArgument, error.isPermissionDenied,
    error.isNoKernelSupport]

theorem count_sorts_le_one (error : Error) : error.sorts.count true ≤ 1 := by
  have classed : ∀ meaning : Rejection, [decide (meaning = .notFound),
      decide (some meaning = some .alreadyExists), decide (some meaning = some .invalidArgument),
      decide (some meaning = some .permissionDenied),
      decide (some meaning = some .noKernelSupport)].count true ≤ 1 := by
    intro meaning
    cases meaning <;> decide
  have missing : [true, false, false, false, false].count true ≤ 1 := by decide
  have other : [false, false, false, false, false].count true ≤ 1 := by decide
  unfold sorts isNotFound isAlreadyExists isInvalidArgument isPermissionDenied isNoKernelSupport
    rejection?
  cases error.root with
  | rejected meaning _ _ => exact classed meaning
  | interfaceNotFound _ => exact missing
  | transport _ => exact other
  | wireFormat _ => exact other
  | context _ _ => exact other
  | config _ => exact other
  | handle _ => exact other

theorem toInt_abs_code {code : Int32} (notLeast : code ≠ Int32.minValue) :
    code.abs.toInt = code.toInt.natAbs :=
  BitVec.toInt_abs_eq_natAbs_of_ne_intMin fun least => notLeast (Int32.toBitVec_inj.mp least)

theorem toInt_neg_code {code : Int32} (notLeast : code ≠ Int32.minValue) :
    (-code).toInt = -code.toInt := by
  have lower := Int32.le_toInt code
  have upper := Int32.toInt_lt code
  have least : code.toInt ≠ Int32.minValue.toInt := mt Int32.toInt_inj.mp notLeast
  rw [Int32.toInt_minValue] at least
  rw [Int32.toInt_neg, Int.bmod_eq_of_le (by omega) (by omega)]

theorem abs_neg_code {code : Int32} (notLeast : code ≠ Int32.minValue) :
    (-code).abs = code.abs := by
  have neg := toInt_neg_code notLeast
  have notLeast' : -code ≠ Int32.minValue := by
    have upper := Int32.toInt_lt code
    intro least
    rw [least, Int32.toInt_minValue] at neg
    omega
  rw [← Int32.toInt_inj, toInt_abs_code notLeast', toInt_abs_code notLeast, neg, Int.natAbs_neg]

theorem ofCode_neg {code : Int32} (notLeast : code ≠ Int32.minValue) :
    ofCode (-code) = ofCode code := by
  unfold ofCode ofCodeWithText
  rw [abs_neg_code notLeast]

/-! ## Contexts and codes -/

/-- Whatever operations an error is put under, and whatever layers it has before, it means the same.
A rejection gets one layer for each operation and its text one introduction, the last operation
first; any other error stays as it is. This holds of a rejection of any meaning with any number. A
code and its negative give one rejection, of the number of the code and of at most one of the named
sorts. -/
theorem means_same_and_ofCode_neg :
    (∀ (error : Error) (operations : List String),
      SameMeaning (error.inContextOf operations) error ∧
      (error.errno?.isSome = true → error.inContextOf operations = error.under operations ∧
        (error.inContextOf operations).message = introduction operations ++ error.message) ∧
      (error.errno? = none → error.inContextOf operations = error)) ∧
    ∀ code : Int32, code ≠ Int32.minValue → ofCode (-code) = ofCode code ∧
      (∃ errno, (ofCode code).errno? = some errno ∧ errno.toInt = code.toInt.natAbs) ∧
      (ofCode code).sorts.count true ≤ 1 := by
  constructor
  · intro error operations
    refine ⟨sameMeaning_of_root_eq (root_inContextOf error operations), fun rejected => ?_,
      inContextOf_of_eq_none⟩
    have layers : error.inContextOf operations = error.under operations :=
      inContextOf_of_isSome rejected
    exact ⟨layers, (congrArg message layers).trans (message_under error operations)⟩
  · intro code notLeast
    exact ⟨ofCode_neg notLeast, ⟨_, rfl, toInt_abs_code notLeast⟩, count_sorts_le_one (ofCode code)⟩

/-- A link that is gone, met in adding a qdisc. -/
def missingLink : Error := .context "adding qdisc 1:" (ofCode (-19))

/-- A rejection that has no meaning of its own, with the number of one that has, below zero. -/
def unclassifiedNumber : Error := .rejected .unclassified (-2) "gone"

/-- A fault of a configuration under an operation, where no operation of the library puts it. -/
def wrappedFault : Error := .context "loading a profile" (.config .reorderWithoutLatency)

theorem means_same_and_ofCode_neg_missingLink :
    (-19 : Int32) ≠ Int32.minValue ∧ ofCode 19 = ofCode (-19) ∧
      missingLink.errno? = some 19 ∧
      (missingLink.inContextOf ["setting up eth0", "booting"]).isNotFound = true ∧
      (missingLink.inContextOf ["setting up eth0", "booting"]).message =
        "booting: setting up eth0: adding qdisc 1:: not found: No such device (os error 19) " ++
          "(errno 19)" ∧
      (unclassifiedNumber.inContextOf ["booting"]).errno? = some (-2) ∧
      (unclassifiedNumber.inContextOf ["booting"]).isNotFound = false ∧
      (unclassifiedNumber.inContextOf ["booting"]).message =
        "booting: kernel error: gone (errno -2)" ∧
      wrappedFault.errno? = none ∧ wrappedFault.inContextOf ["booting"] = wrappedFault := by
  obtain ⟨layered, coded⟩ := means_same_and_ofCode_neg
  have notLeast : (-19 : Int32) ≠ Int32.minValue := by decide
  obtain ⟨same, put, _⟩ := layered missingLink ["setting up eth0", "booting"]
  obtain ⟨_, words⟩ := put rfl
  obtain ⟨odd, putOdd, _⟩ := layered unclassifiedNumber ["booting"]
  obtain ⟨_, oddWords⟩ := putOdd rfl
  obtain ⟨_, _, left⟩ := layered wrappedFault ["booting"]
  refine ⟨notLeast, (coded (-19) notLeast).1, rfl, same.isNotFound_eq.trans rfl, ?_,
    odd.errno?_eq.trans rfl, odd.isNotFound_eq.trans rfl, ?_, rfl, left rfl⟩
  · rw [words]
    decide +kernel
  · rw [oddWords]
    decide +kernel

end TrafficShaping.Error
