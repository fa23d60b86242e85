import GuestBridge.Bytes
import GuestBridge.Fallible
import GuestBridge.Layout.Descriptor
import GuestBridge.Layout.StructValue
import GuestBridge.Text.Utf8

/-!
# Structs in memory

`encodeStruct` lays a struct value out as its descriptor says, and `decodeStruct` reads one back.
Every field of the descriptor has to be given with exactly its kind. A text is not laid out in
place: a `SliceAccess` stores it somewhere and answers its address and length, which are laid out
instead. Its state is kept when encoding or decoding fails.
-/

namespace GuestBridge

/-- Stores texts and fetches them by address and length. -/
structure SliceAccess (ρ ε : Type) where
  store : String → Fallible ρ ε (UInt32 × UInt32)
  load : UInt32 → UInt32 → Fallible ρ ε String

/-- What was met where a field value was wanted. -/
inductive FoundValue where
  | scalar (kind : Kind)
  | struct (name : String)
  | nothing
  deriving DecidableEq, Repr

def FoundValue.text : FoundValue → String
  | scalar kind => kind.name
  | struct name => name
  | nothing => "no value"

/-- Why a struct is not encoded or decoded; `indirect` carries the cause of a failed slice. -/
inductive CodecError (ε : Type) where
  | notAStruct (name : String)
  | wrongStruct (expected actual : String)
  | missingField (type field : String)
  | unknownField (type field : String)
  | fieldType (type field expected : String) (actual : FoundValue)
  | truncated (type : String) (needed available : Nat)
  | indirect (type field : String) (cause : ε)
  deriving DecidableEq, Repr

/-- The wording of a codec failure, given that of slices. -/
def CodecError.message {ε : Type} (wording : ε → String) : CodecError ε → String
  | notAStruct name => s!"type `{name}` is not a struct"
  | wrongStruct expected actual => s!"expected a `{expected}` value, got `{actual}`"
  | missingField type field => s!"struct `{type}` is missing field `{field}`"
  | unknownField type field => s!"struct `{type}` has no field `{field}`"
  | fieldType type field expected actual =>
      let found := actual.text
      s!"field `{type}.{field}` expects {expected}, got {found}"
  | truncated type needed available => s!"struct `{type}` needs {needed} bytes, got {available}"
  | indirect type field cause =>
      let reason := wording cause
      s!"field `{type}.{field}`: {reason}"

/-- A computation with slices. -/
abbrev SliceM (ρ ε : Type) := Fallible ρ (CodecError ε)

/-- A slice operation on behalf of a field. -/
def forField {ρ ε α : Type} (type field : String) (op : Fallible ρ ε α) : SliceM ρ ε α :=
  ExceptT.adapt (CodecError.indirect type field) op

/-! ## Single values -/

/-- The bytes of a single value; a text is laid out through its slice instead. -/
def Value.bytes : Value → Bytes
  | .u32 v => Bytes.ofUInt32 v
  | .u64 v => Bytes.ofUInt64 v
  | .i32 v => Bytes.ofUInt32 v.toUInt32
  | .i64 v => Bytes.ofUInt64 v.toUInt64
  | .f32 v => Bytes.toLittleEndian 4 v.bits.toNat
  | .f64 v => Bytes.toLittleEndian 8 v.bits.toNat
  | .string v => Text.encode v

/-- The value of a kind that the bytes hold. -/
def Value.ofBytes (kind : Kind) (raw : Bytes) : Value :=
  match kind with
  | .u32 => .u32 raw.toUInt32
  | .u64 => .u64 raw.toUInt64
  | .i32 => .i32 raw.toUInt32.toInt32
  | .i64 => .i64 raw.toUInt64.toInt64
  | .f32 => .f32 ⟨BitVec.ofNat 32 (Bytes.ofLittleEndian (raw.take 4))⟩
  | .f64 => .f64 ⟨BitVec.ofNat 64 (Bytes.ofLittleEndian (raw.take 8))⟩
  | .string => .string (Text.decodeLossy raw)

/-! ## Encoding -/

/-- A buffer of `size` zero bytes overwritten by each part at its offset. -/
def assemble (size : Nat) (parts : List (Nat × Bytes)) : Bytes :=
  parts.foldl (fun buffer part => buffer.splice part.1 part.2) (List.replicate size 0)

variable {ρ ε : Type}

mutual

/-- The bytes of a struct value. The value has to name the type, and every field it has must be one
of the type; a field it has twice counts once. -/
def encodeType (slices : SliceAccess ρ ε) : TypeDescriptor → StructValue → SliceM ρ ε Bytes
  | .primitive p, _ => throw (.notAStruct p.name)
  | .struct name size fields, v => do
      if v.typeName ≠ name then throw (.wrongStruct name v.typeName)
      match v.fields.find? fun given => !fields.any fun f => f.name = given.1 with
      | some (field, _) => throw (.unknownField name field)
      | none => pure ()
      let parts ← encodeFields slices name v fields
      return assemble size.toNat parts

/-- The offset and bytes of each field, in the order of the type. -/
def encodeFields (slices : SliceAccess ρ ε) (owner : String) (v : StructValue) :
    List FieldDescriptor → SliceM ρ ε (List (Nat × Bytes))
  | [] => return []
  | f :: rest => do
      let part ← encodeField slices owner v f
      let parts ← encodeFields slices owner v rest
      return (f.offset.toNat, part) :: parts

/-- The bytes of one field. -/
def encodeField (slices : SliceAccess ρ ε) (owner : String) (v : StructValue) :
    FieldDescriptor → SliceM ρ ε Bytes
  | ⟨name, _, type⟩ =>
      match v.get? name with
      | none => throw (.missingField owner name)
      | some (.struct inner fields) =>
          if type.isStruct then encodeType slices type ⟨inner, fields⟩
          else throw (.fieldType owner name type.name (.struct inner))
      | some (.scalar value) =>
          match value with
          | .string text =>
              if type.isSlice then do
                let (address, length) ← forField owner name (slices.store text)
                return Bytes.ofUInt32 address ++ Bytes.ofUInt32 length
              else throw (.fieldType owner name type.name (.scalar .string))
          | value =>
              if !type.isStruct && type.boundaryKind == some value.kind then return value.bytes
              else throw (.fieldType owner name type.name (.scalar value.kind))

end

/-- Lays a struct value out as the descriptor says. -/
def encodeStruct (slices : SliceAccess ρ ε) (type : TypeDescriptor) (v : StructValue) :
    SliceM ρ ε Bytes :=
  encodeType slices type v

/-! ## Decoding -/

mutual

/-- Reads a struct of the type at the start of the bytes. -/
def decodeType (slices : SliceAccess ρ ε) : TypeDescriptor → Bytes → SliceM ρ ε StructValue
  | .primitive p, _ => throw (.notAStruct p.name)
  | .struct name size fields, raw => do
      if raw.length < size.toNat then throw (.truncated name size.toNat raw.length)
      let values ← decodeFields slices name raw fields
      return ⟨name, values⟩

/-- Reads each field, in the order of the type. -/
def decodeFields (slices : SliceAccess ρ ε) (owner : String) (raw : Bytes) :
    List FieldDescriptor → SliceM ρ ε (List (String × FieldValue))
  | [] => return []
  | f :: rest => do
      let value ← decodeField slices owner raw f
      let values ← decodeFields slices owner raw rest
      return (f.name, value) :: values

/-- Reads one field at its place. -/
def decodeField (slices : SliceAccess ρ ε) (owner : String) (raw : Bytes) :
    FieldDescriptor → SliceM ρ ε FieldValue
  | ⟨name, offset, type⟩ => do
      let part := raw.slice offset.toNat type.size.toNat
      if type.isStruct then
        let v ← decodeType slices type part
        return .ofStruct v
      else if type.isSlice then
        let address := part.toUInt32
        let length := Bytes.toUInt32 (part.drop 4)
        let text ← forField owner name (slices.load address length)
        return .scalar (.string text)
      else
        match type.boundaryKind with
        | some kind => return .scalar (.ofBytes kind part)
        | none => throw (.fieldType owner name type.name .nothing)

end

/-- Reads a struct laid out as the descriptor says from the start of the bytes. -/
def decodeStruct (slices : SliceAccess ρ ε) (type : TypeDescriptor) (raw : Bytes) :
    SliceM ρ ε StructValue :=
  decodeType slices type raw

end GuestBridge
