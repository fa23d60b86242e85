import GuestBridge.Value

/-!
# Struct values

A `StructValue` is a type name with named field values, each a single value or again a struct.
Fields keep the order in which they were given, and of fields with one name the first counts
(`get?`). `same` compares field by field in order, as `Value.same` compares values.
-/

namespace GuestBridge

/-- The value of a field: a single value, or a struct of the named type. -/
inductive FieldValue where
  | scalar (value : Value)
  | struct (typeName : String) (fields : List (String × FieldValue))
  deriving Repr

/-- A struct of the named type with its field values. -/
structure StructValue where
  typeName : String
  fields : List (String × FieldValue)
  deriving Repr

namespace FieldValue

/-- A struct as the value of a field. -/
def ofStruct (v : StructValue) : FieldValue :=
  .struct v.typeName v.fields

mutual

/-- The values agree. -/
def same : FieldValue → FieldValue → Bool
  | .scalar a, .scalar b => a.same b
  | .struct n fs, .struct m gs => n == m && sameFields fs gs
  | _, _ => false

/-- The fields agree in number, order, names and values. -/
def sameFields : List (String × FieldValue) → List (String × FieldValue) → Bool
  | [], [] => true
  | (n, v) :: fs, (m, w) :: gs => n == m && same v w && sameFields fs gs
  | _, _ => false

end

end FieldValue

namespace StructValue

/-- The structs agree. -/
def same (a b : StructValue) : Bool :=
  (FieldValue.ofStruct a).same (.ofStruct b)

/-- The value of the first field of a name. -/
def get? (v : StructValue) (name : String) : Option FieldValue :=
  (v.fields.find? fun f => f.1 = name).map Prod.snd

/-- The single value of the first field of a name. -/
def scalar? (v : StructValue) (name : String) : Option Value :=
  match v.get? name with
  | some (.scalar value) => some value
  | _ => none

end StructValue

end GuestBridge
