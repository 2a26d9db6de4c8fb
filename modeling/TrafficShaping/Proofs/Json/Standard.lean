import TrafficShaping.Json.Standard

/-!
The codec that follows the declarations conforms.

It writes and reads by recursion on the declaration, so what is documented of each sort of
declaration is one step of the recursion; for the fields of a record it is all steps
(`Json.Fields.write_eq`, `Json.Fields.read?_eq`).
-/

namespace TrafficShaping.Json

theorem Fields.write_eq : {names : List String} → {α : Type} → (fields : Fields names α) →
    (values : α) → fields.write values = fields.members Declaration.write values
  | _, _, .nil, _ => rfl
  | _, _, .required name type later _, (value, rest) =>
    congrArg ((name, type.write value) :: ·) (later.write_eq rest)
  | _, _, .optional name type later _, (some value, rest) =>
    congrArg ((name, type.write value) :: ·) (later.write_eq rest)
  | _, _, .optional name _ later _, (none, rest) =>
    congrArg ((name, null) :: ·) (later.write_eq rest)

theorem Fields.read?_eq : {names : List String} → {α : Type} → (fields : Fields names α) →
    (members : List (String × Json)) →
      fields.read? members = fields.parts? Declaration.read? members
  | _, _, .nil, _ => rfl
  | _, _, .required _ _ later _, members => by
    rw [Fields.read?, Fields.parts?, later.read?_eq members]
  | _, _, .optional _ _ later _, members => by
    rw [Fields.read?, Fields.parts?, later.read?_eq members]

theorem Codec.conforms_standard : Codec.standard.Conforms where
  write_word _ _ := rfl
  write_text _ := rfl
  write_list _ _ := rfl
  write_array _ _ _ := rfl
  write_transparent _ _ _ _ _ := rfl
  write_record fields _ parts _ value := congrArg object (fields.write_eq (parts value))
  read?_word _ _ low high := if_pos ⟨low, high⟩
  read?_text _ := rfl
  read?_list _ _ := rfl
  read?_array _ _ _ := rfl
  read?_transparent _ _ _ _ _ := rfl
  read?_record fields build _ _ members _ := congrArg (Option.map build) (fields.read?_eq members)
  writeVariant_eq _ _ := rfl
  readVariant?_single _ _ _ := rfl

end TrafficShaping.Json
