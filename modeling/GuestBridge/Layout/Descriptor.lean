import GuestBridge.Value

/-!
# Type descriptors

A `TypeDescriptor` is one of the twelve primitive types or a struct, which places its fields at byte
offsets and holds the descriptor of each. `boundaryKind` is the kind of value a type has where it
crosses into a guest: a struct travels as its address. Types are told apart by their names alone
(`sameType`).
-/

namespace GuestBridge

/-- The types every registry holds from the start. -/
inductive Primitive where
  | void
  | i32
  | u32
  | i64
  | u64
  | bool
  | f32
  | f64
  | string
  | code
  | rgba
  | handle
  deriving DecidableEq, Repr

namespace Primitive

def all : List Primitive :=
  [void, i32, u32, i64, u64, bool, f32, f64, string, code, rgba, handle]

def name : Primitive → String
  | void => "void"
  | i32 => "i32"
  | u32 => "u32"
  | i64 => "i64"
  | u64 => "u64"
  | bool => "bool"
  | f32 => "f32"
  | f64 => "f64"
  | string => "string"
  | code => "code"
  | rgba => "rgba"
  | handle => "extern"

/-- The bytes of a primitive type. A text takes the eight bytes of its address and length. -/
def size : Primitive → UInt32
  | void => 0
  | i32 | u32 | bool | f32 | rgba | handle => 4
  | i64 | u64 | f64 | string | code => 8

/-- The kind of its values at the boundary; the empty type has none. -/
def boundaryKind : Primitive → Option Kind
  | void => none
  | i32 => some .i32
  | u32 | bool | rgba | handle => some .u32
  | i64 => some .i64
  | u64 => some .u64
  | f32 => some .f32
  | f64 => some .f64
  | string | code => some .string

/-- Its values are kept elsewhere, by address and length. -/
def isSlice : Primitive → Bool
  | string | code => true
  | _ => false

end Primitive

/-- Whether a type is primitive or a struct. -/
inductive TypeKind where
  | primitive
  | struct
  deriving DecidableEq, Repr

namespace TypeKind

/-- The name of a sort of types in documents. -/
def tag : TypeKind → String
  | primitive => "primitive"
  | struct => "struct"

def ofTag? (tag : String) : Option TypeKind :=
  [primitive, struct].find? fun k => k.tag = tag

end TypeKind

/-- A field of a struct: its name, its byte offset and what it holds. -/
structure Field (τ : Type) where
  name : String
  offset : UInt32
  type : τ
  deriving DecidableEq, Repr

/-- A primitive type, or a struct with the descriptors of its fields. -/
inductive TypeDescriptor where
  | primitive (p : Primitive)
  | struct (name : String) (size : UInt32) (fields : List (Field TypeDescriptor))

/-- A field whose type is described. -/
abbrev FieldDescriptor := Field TypeDescriptor

namespace TypeDescriptor

def name : TypeDescriptor → String
  | primitive p => p.name
  | struct name _ _ => name

def size : TypeDescriptor → UInt32
  | primitive p => p.size
  | struct _ size _ => size

def fields : TypeDescriptor → List FieldDescriptor
  | primitive _ => []
  | struct _ _ fields => fields

def isStruct : TypeDescriptor → Bool
  | primitive _ => false
  | struct .. => true

/-- The sort of a type. -/
def typeKind (d : TypeDescriptor) : TypeKind :=
  if d.isStruct then .struct else .primitive

/-- The field of a name. -/
def field? (d : TypeDescriptor) (name : String) : Option FieldDescriptor :=
  d.fields.find? fun f => f.name = name

/-- The byte offset of the field of a name. -/
def offset? (d : TypeDescriptor) (field : String) : Option UInt32 :=
  (d.field? field).map Field.offset

/-- The kind of the values of the type at the boundary. -/
def boundaryKind : TypeDescriptor → Option Kind
  | primitive p => p.boundaryKind
  | struct .. => some .u32

/-- Values of the type are kept elsewhere, by address and length. -/
def isSlice : TypeDescriptor → Bool
  | primitive p => p.isSlice
  | struct .. => false

/-- The descriptors name the same type. -/
def sameType (a b : TypeDescriptor) : Bool :=
  a.name = b.name

/-- A field as it is listed in the text of a struct. -/
def fieldText (f : FieldDescriptor) : String :=
  let type := f.type.name
  let name := f.name
  let offset := f.offset.toNat
  s!" {name}: {type} @{offset}"

/-- The name of a primitive type, or a struct with its fields. -/
def text : TypeDescriptor → String
  | primitive p => p.name
  | struct name size fields =>
      let bytes := size.toNat
      let listed := ",".intercalate (fields.map fieldText)
      s!"struct {name} ({bytes} bytes) \x7b{listed} \x7d"

end TypeDescriptor

end GuestBridge
