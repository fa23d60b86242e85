import GuestBridge.Call.Signature
import GuestBridge.Json.Decoder
import GuestBridge.Layout.StructValue

/-!
# Documents of values

A value is written as an object with its kind and its content; a floating-point number without a
finite value has the content null. It is read from such an object, with the kind before or after the
content, or from an array of the two. The value of a field is read as a single value if it can be,
and else as a struct; the whole of it has to be in order, since it is kept until then.
-/

namespace GuestBridge

open Json (Decoder)

/-! ## Writing -/

/-- Documents write 64-bit numbers without an exponent from ten to the minus fifth up to ten to the
sixteenth. -/
def doubleStyle : FloatStyle := ⟨.even, fun e => -5 ≤ e && e < 16, true⟩

/-- Documents write 32-bit numbers without an exponent from ten to the minus sixth up to ten to the
thirteenth. -/
def singleStyle : FloatStyle := ⟨.even, fun e => -6 ≤ e && e < 13, true⟩

/-- A number in a style; null if it is not finite. -/
def FloatStyle.toJson {f : Format} (style : FloatStyle) (x : Binary f) : Json :=
  if x.isFinite then .number (style.numeral x) else .null

def Value.contentJson : Value → Json
  | .u32 v => .number (.ofNat v.toNat)
  | .u64 v => .number (.ofNat v.toNat)
  | .i32 v => .number (.ofInt v.toInt)
  | .i64 v => .number (.ofInt v.toInt)
  | .f32 v => singleStyle.toJson v
  | .f64 v => doubleStyle.toJson v
  | .string v => .text v

def Value.toJson (v : Value) : Json :=
  .ofMembers [("kind", .text v.kind.tag), ("value", v.contentJson)]

mutual

def FieldValue.toJson : FieldValue → Json
  | .scalar v => v.toJson
  | .struct name fields =>
      .ofMembers [("type_name", .text name), ("fields", .array (fieldsToJson fields))]

def fieldsToJson : List (String × FieldValue) → List Json
  | [] => []
  | (name, v) :: rest => .array [.text name, FieldValue.toJson v] :: fieldsToJson rest

end

def StructValue.toJson (v : StructValue) : Json :=
  (FieldValue.ofStruct v).toJson

def kindsToJson (kinds : List Kind) : Json :=
  .array (kinds.map fun k => .text k.tag)

def Signature.toJson (s : Signature) : Json :=
  .ofMembers [("params", kindsToJson s.params), ("results", kindsToJson s.results)]

/-! ## Reading -/

namespace Decode

open Json.Decode

def kind : Decoder Kind := tagged Kind.ofTag?

def wireType : Decoder WireType := tagged WireType.ofTag?

/-- The content of a value of the kind. -/
def content (k : Kind) : Decoder Value := fun depth j =>
  match k with
  | .u32 => (uint32 depth j).map .u32
  | .u64 => (uint64 depth j).map .u64
  | .i32 => (int32 depth j).map .i32
  | .i64 => (int64 depth j).map .i64
  | .f32 => (single depth j).map .f32
  | .f64 => (double depth j).map .f64
  | .string => (text depth j).map .string

/-- The kind at the front of an array: its name, or in a part that was kept also its number in the
order of declaration. -/
def leadingKind (kept : Bool) : Json → Option Kind
  | .string (some s) => Kind.ofTag? s
  | .number n => if kept then n.integer?.bind fun i =>
      if 0 ≤ i then Kind.all[i.toNat]? else none
    else none
  | _ => none

/-- The members of a value in the order in which they were given. -/
def valueMembers (depth : Nat) : List (String × Json) → Option Value
  | [("kind", k), ("value", v)] => (kind depth k).bind fun k => content k depth v
  | [("value", v), ("kind", k)] =>
      if v.isSound depth then (kind depth k).bind fun k => content k depth v else none
  | _ => none

/-- A value, in a part that was kept or not. -/
def valueIn (kept : Bool) : Decoder Value
  | depth + 1, .object members =>
      (Json.fieldMembers ["kind", "value"] members).bind (valueMembers depth)
  | depth + 1, .array [k, v] => (leadingKind kept k).bind fun k => content k depth v
  | _, _ => none

def value : Decoder Value := valueIn false

mutual

/-- A field value in a part that was kept. The first argument bounds the steps. -/
def keptField : Nat → Decoder FieldValue
  | 0, _, _ => none
  | steps + 1, depth, j =>
      match valueIn true depth j with
      | some v => some (.scalar v)
      | none => (structIn steps depth j).map .ofStruct

/-- A struct value whose field values are kept whole. -/
def structIn : Nat → Decoder StructValue
  | 0, _, _ => none
  | steps + 1, depth, j => do
      let r ← Json.record ["type_name", "fields"] depth j
      let name ← r.required "type_name" text
      let fields ← r.required "fields" (list (pair text fun depth j =>
        if j.isSound depth then keptField steps depth j else none))
      return ⟨name, fields⟩

end

def structValue : Decoder StructValue := fun depth j =>
  structIn (2 * depth + 2) depth j

def fieldValue : Decoder FieldValue := fun depth j =>
  if j.isSound depth then keptField (2 * depth + 2) depth j else none

def signature : Decoder Signature := fun depth j => do
  let r ← Json.record ["params", "results"] depth j
  let params ← r.required "params" (list kind)
  let results ← r.required "results" (list kind)
  return ⟨params, results⟩

end Decode

end GuestBridge
