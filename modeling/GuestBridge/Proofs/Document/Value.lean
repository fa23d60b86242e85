import GuestBridge.Document.Value
import GuestBridge.Proofs.Json.Decoding

/-!
# Reading values back

A struct value without floating-point numbers is read back from its document, as a struct value and
as the value of a field, if the document does not nest deeper than documents may; a single value is
read back as the value of a field (`read_written_values`).

The value of a field may be of either form, and the form of a single value is tried first.  A struct
is never taken for one, since it has none of the members of a single value
(`valueIn_struct_eq_none`).  How deep a struct nests is told by its document (`Json.levels`), and
that bounds the steps in which it is read.
-/

namespace GuestBridge

namespace Json

mutual

/-- How many arrays and objects of the document stand inside one another. -/
def levels : Json → Nat
  | array items => itemLevels items + 1
  | object members => memberLevels members + 1
  | _ => 0

/-- The most levels of an item. -/
def itemLevels : List Json → Nat
  | [] => 0
  | j :: rest => max (levels j) (itemLevels rest)

/-- The most levels of a member. -/
def memberLevels : List (Option String × Json) → Nat
  | [] => 0
  | (_, j) :: rest => max (levels j) (memberLevels rest)

end

theorem levels_le_itemLevels {j : Json} {items : List Json} (h : j ∈ items) :
    j.levels ≤ itemLevels items := by
  induction items with
  | nil => cases h
  | cons i items ih =>
      rw [itemLevels]
      rcases List.mem_cons.1 h with rfl | h
      · exact Nat.le_max_left _ _
      · exact (ih h).trans (Nat.le_max_right _ _)

end Json

open Json

/-! ## Single values -/

/-- The kinds of floating-point numbers. -/
def Kind.isFloat : Kind → Bool
  | .f32 | .f64 => true
  | _ => false

theorem Kind.ofTag?_tag (k : Kind) : ofTag? k.tag = some k := by
  cases k <;> rfl

namespace Value

/-- The content of a value is read by its kind, so two kinds with one number are told apart. -/
theorem holds_contentJson {v : Value} (h : v.kind.isFloat = false) :
    Holds (Decode.content v.kind) 0 v.contentJson v := by
  cases v with
  | u32 n => exact (holds_uint32 n).map Value.u32
  | u64 n => exact (holds_uint64 n).map Value.u64
  | i32 n => exact (holds_int32 n).map Value.i32
  | i64 n => exact (holds_int64 n).map Value.i64
  | f32 x => cases h
  | f64 x => cases h
  | string s => exact (holds_text s).map Value.string

theorem holds_toJson {v : Value} (h : v.kind.isFloat = false) (kept : Bool) :
    Holds (Decode.valueIn kept) 1 v.toJson v := by
  have hcontent := holds_contentJson h
  refine .of_succ (fun depth hdepth => areSoundMembers_eq_true_iff.2 ?_) fun depth hdepth => ?_
  · simp [(holds_text v.kind.tag).sound, hcontent.sound]
  · have hkind : Decode.kind depth (.text v.kind.tag) = some v.kind := Kind.ofTag?_tag v.kind
    have hmembers : fieldMembers ["kind", "value"]
        ([("kind", Json.text v.kind.tag), ("value", v.contentJson)].map fun m => (some m.1, m.2)) =
          some [("kind", Json.text v.kind.tag), ("value", v.contentJson)] :=
      fieldMembers_map (by simp)
    rw [toJson, ofMembers, Decode.valueIn, hmembers, Option.bind_some, Decode.valueMembers, hkind,
      Option.bind_some, hcontent.decoded depth hdepth]

end Value

/-! ## Structs -/

namespace FieldValue

/-- The single value stands somewhere inside. -/
inductive HasLeaf : FieldValue → Value → Prop where
  | scalar (x : Value) : HasLeaf (.scalar x) x
  | field {typeName : String} {fields : List (String × FieldValue)} {f : String × FieldValue}
      {x : Value} (hf : f ∈ fields) (h : HasLeaf f.2 x) : HasLeaf (.struct typeName fields) x

/-- No leaf is a floating-point number. -/
def FloatFree (v : FieldValue) : Prop :=
  ∀ x, v.HasLeaf x → x.kind.isFloat = false

@[simp]
theorem floatFree_scalar_iff {x : Value} : (scalar x).FloatFree ↔ x.kind.isFloat = false := by
  refine ⟨fun h => h x (.scalar x), fun h y hy => ?_⟩
  cases hy
  exact h

@[simp]
theorem floatFree_struct_iff {typeName : String} {fields : List (String × FieldValue)} :
    (struct typeName fields).FloatFree ↔ ∀ f ∈ fields, f.2.FloatFree := by
  refine ⟨fun h f hf x hx => h x (.field hf hx), fun h x hx => ?_⟩
  cases hx with
  | field hf hx => exact h _ hf x hx

end FieldValue

theorem fieldsToJson_eq_map (fields : List (String × FieldValue)) :
    fieldsToJson fields = fields.map fun f => .array [.text f.1, f.2.toJson] := by
  induction fields with
  | nil => rfl
  | cons f fields ih => rw [fieldsToJson, ih, List.map_cons]

theorem levels_toJson_struct (typeName : String) (fields : List (String × FieldValue)) :
    (FieldValue.struct typeName fields).toJson.levels = itemLevels (fieldsToJson fields) + 2 := by
  simp [FieldValue.toJson, ofMembers, levels, memberLevels, Json.text]

/-- A field nests three levels deeper than its struct. -/
theorem levels_field_lt (typeName : String) {fields : List (String × FieldValue)}
    {f : String × FieldValue} (h : f ∈ fields) :
    f.2.toJson.levels + 3 ≤ (FieldValue.struct typeName fields).toJson.levels := by
  have hmem : Json.array [.text f.1, f.2.toJson] ∈ fieldsToJson fields := by
    rw [fieldsToJson_eq_map]
    exact List.mem_map_of_mem h
  have hle := levels_le_itemLevels hmem
  have hlevels : (Json.array [.text f.1, f.2.toJson]).levels = f.2.toJson.levels + 1 := by
    simp [levels, itemLevels, Json.text]
  rw [levels_toJson_struct]
  omega

/-- A struct has none of the members of a single value. -/
theorem valueIn_struct_eq_none (kept : Bool) (depth : Nat) (typeName : String)
    (fields : List (String × FieldValue)) :
    Decode.valueIn kept depth (FieldValue.struct typeName fields).toJson = none := by
  cases depth with
  | zero => rfl
  | succ depth =>
      have hmembers : fieldMembers ["kind", "value"]
          ([("type_name", text typeName), ("fields", .array (fieldsToJson fields))].map
            fun m => (some m.1, m.2)) = some [] := by
        rw [fieldMembers_map] <;> simp
      rw [FieldValue.toJson, ofMembers, Decode.valueIn, hmembers]
      rfl

namespace Decode

/-- The value of a field, which is kept whole until its form is known. -/
def wholeField (steps : Nat) : Decoder FieldValue := fun depth j =>
  if j.isSound depth then keptField steps depth j else none

theorem holds_wholeField {steps levels : Nat} {j : Json} {v : FieldValue}
    (h : Holds (keptField steps) levels j v) : Holds (wholeField steps) levels j v :=
  ⟨h.sound, fun depth hdepth => by
    rw [wholeField, if_pos (h.sound depth hdepth), h.decoded depth hdepth]⟩

theorem structIn_succ (steps : Nat) :
    structIn (steps + 1) = fun depth j => record ["type_name", "fields"] depth j >>= fun r => do
      let name ← r.required "type_name" Json.Decode.text
      let fields ← r.required "fields"
        (Json.Decode.list (Json.Decode.pair Json.Decode.text (wholeField steps)))
      return ⟨name, fields⟩ := by
  funext depth j
  rw [structIn]
  rfl

/-- A struct is read with its fields if each of them is. -/
theorem holds_structIn {steps : Nat} {v : StructValue}
    (h : ∀ f ∈ v.fields, Holds (keptField steps) f.2.toJson.levels f.2.toJson f.2) :
    Holds (structIn (steps + 1)) v.toJson.levels v.toJson v := by
  obtain ⟨typeName, fields⟩ := v
  have hname := holds_text typeName
  have hfields : Holds (Json.Decode.list (Json.Decode.pair Json.Decode.text (wholeField steps)))
      (itemLevels (fieldsToJson fields) + 1) (.array (fieldsToJson fields)) fields := by
    have hlevels : ∀ f ∈ fields, f.2.toJson.levels + 1 ≤ itemLevels (fieldsToJson fields) := by
      intro f hf
      have hlt := levels_field_lt typeName hf
      rw [levels_toJson_struct] at hlt
      omega
    rw [fieldsToJson_eq_map] at hlevels ⊢
    exact holds_list fun f hf =>
      (holds_pair ((holds_text f.1).mono (Nat.zero_le _)) (holds_wholeField (h f hf))).mono
        (hlevels f hf)
  rw [StructValue.toJson, FieldValue.ofStruct, levels_toJson_struct, FieldValue.toJson,
    structIn_succ]
  refine holds_record rfl (by decide) ?_ fun depth hdepth => ?_
  · simp +contextual [hname.sound, hfields.sound]
  · simp [Record.required, Record.get?, hname.decoded, hfields.decoded, hdepth]

theorem keptField_scalar {steps depth : Nat} {j : Json} {x : Value}
    (h : valueIn true depth j = some x) : keptField (steps + 1) depth j = some (.scalar x) := by
  rw [keptField, h]

theorem keptField_struct {steps depth : Nat} {j : Json} (h : valueIn true depth j = none) :
    keptField (steps + 1) depth j = (structIn steps depth j).map .ofStruct := by
  rw [keptField, h]

theorem levels_toJson_scalar (x : Value) : (FieldValue.scalar x).toJson.levels = 1 := by
  have hcontent : x.contentJson.levels = 0 := by
    cases x with
    | f32 x => rw [Value.contentJson, FloatStyle.toJson]; split <;> rfl
    | f64 x => rw [Value.contentJson, FloatStyle.toJson]; split <;> rfl
    | _ => rfl
  simp [FieldValue.toJson, Value.toJson, ofMembers, levels, memberLevels, Json.text, hcontent]

mutual

theorem holds_keptField : ∀ (v : FieldValue) {steps : Nat}, v.FloatFree →
    2 * v.toJson.levels + 1 ≤ steps →
    Holds (keptField steps) v.toJson.levels v.toJson v
  | .scalar x, steps + 1, hfloat, _ => by
      have hx := Value.holds_toJson (FieldValue.floatFree_scalar_iff.1 hfloat) true
      rw [levels_toJson_scalar]
      exact ⟨hx.sound, fun depth hdepth => keptField_scalar (hx.decoded depth hdepth)⟩
  | .struct typeName fields, steps + 2, hfloat, hsteps => by
      -- one step tells that this is no single value, and one more reads the struct
      have hfields : ∀ f ∈ fields, Holds (keptField steps) f.2.toJson.levels f.2.toJson f.2 := by
        refine holds_keptFields fields (FieldValue.floatFree_struct_iff.1 hfloat) fun f hf => ?_
        have hlevels := levels_field_lt typeName hf
        omega
      have hstruct := holds_structIn (v := ⟨typeName, fields⟩) hfields
      refine ⟨hstruct.sound, fun depth hdepth => ?_⟩
      rw [keptField_struct (valueIn_struct_eq_none true depth typeName fields)]
      exact (hstruct.map FieldValue.ofStruct).decoded depth hdepth

theorem holds_keptFields : ∀ (fields : List (String × FieldValue)) {steps : Nat},
    (∀ f ∈ fields, f.2.FloatFree) → (∀ f ∈ fields, 2 * f.2.toJson.levels + 1 ≤ steps) →
    ∀ f ∈ fields, Holds (keptField steps) f.2.toJson.levels f.2.toJson f.2
  | [], _, _, _ => nofun
  | f :: fields, _, hfloat, hsteps => by
      rw [List.forall_mem_cons] at hfloat hsteps ⊢
      exact ⟨holds_keptField f.2 hfloat.1 hsteps.1, holds_keptFields fields hfloat.2 hsteps.2⟩

end

/-- The value of a field is read back, whichever form it has. -/
theorem holds_fieldValue {v : FieldValue} (hfloat : v.FloatFree) :
    Holds fieldValue v.toJson.levels v.toJson v := by
  have hsound := (holds_keptField v hfloat (Nat.le_refl _)).sound
  refine ⟨hsound, fun depth hdepth => ?_⟩
  have hkept : Holds (keptField (2 * depth + 2)) v.toJson.levels v.toJson v :=
    holds_keptField v hfloat (by omega)
  exact (holds_wholeField hkept).decoded depth hdepth

theorem holds_structValue {v : StructValue} (hfloat : (FieldValue.ofStruct v).FloatFree) :
    Holds structValue v.toJson.levels v.toJson v := by
  have hfields : ∀ steps, 2 * v.toJson.levels ≤ steps + 1 →
      ∀ f ∈ v.fields, Holds (keptField steps) f.2.toJson.levels f.2.toJson f.2 := by
    intro steps hsteps
    refine holds_keptFields v.fields (FieldValue.floatFree_struct_iff.1 hfloat) fun f hf => ?_
    have hlevels : f.2.toJson.levels + 3 ≤ v.toJson.levels := levels_field_lt v.typeName hf
    omega
  refine ⟨(holds_structIn (hfields _ (Nat.le_succ _))).sound, fun depth hdepth => ?_⟩
  exact (holds_structIn (hfields (2 * depth + 1) (by omega))).decoded depth hdepth

end Decode

/-- A struct value without floating-point numbers whose document nests at most 127 levels deep is
read back from it, with all its fields in order: as a struct value, and as the value of a field,
which is then a struct.  A single value that is no floating-point number is read back as the value
of a field, which is then that value. -/
theorem read_written_values :
    (∀ v : StructValue, (FieldValue.ofStruct v).FloatFree → v.toJson.levels ≤ 127 →
      decode? Decode.structValue (Text.encode v.toJson.write) = some v ∧
      decode? Decode.fieldValue (Text.encode v.toJson.write) = some (.ofStruct v)) ∧
    ∀ x : Value, x.kind.isFloat = false →
      decode? Decode.fieldValue (Text.encode x.toJson.write) = some (.scalar x) := by
  refine ⟨fun v hfloat hlevels => ?_, fun x hx => ?_⟩
  · exact ⟨(Decode.holds_structValue hfloat).decode?_write hlevels,
      (Decode.holds_fieldValue hfloat).decode?_write hlevels⟩
  · have hfloat : (FieldValue.scalar x).FloatFree := FieldValue.floatFree_scalar_iff.2 hx
    have hlevels : (FieldValue.scalar x).toJson.levels ≤ maxDepth := by
      rw [Decode.levels_toJson_scalar]
      decide
    exact (Decode.holds_fieldValue hfloat).decode?_write hlevels

/-- A struct with two fields of one name and of one number, and a struct inside. -/
def twins : StructValue :=
  ⟨"twins", [("n", .scalar (.i64 5)), ("n", .scalar (.u64 5)),
    ("kind", .struct "\"" [("value", .scalar (.string "u32"))])]⟩

theorem read_written_values_twins :
    (FieldValue.ofStruct twins).FloatFree ∧ twins.toJson.levels ≤ 127 ∧
      (decode? Decode.structValue (Text.encode twins.toJson.write) = some twins ∧
      decode? Decode.fieldValue (Text.encode twins.toJson.write) = some (.ofStruct twins)) ∧
      decode? Decode.fieldValue (Text.encode (Value.i32 (-5)).toJson.write) =
        some (.scalar (.i32 (-5))) := by
  have hfloat : (FieldValue.ofStruct twins).FloatFree := by
    simp [FieldValue.ofStruct, twins, Value.kind, Kind.isFloat]
  have hlevels : twins.toJson.levels ≤ 127 := by decide
  exact ⟨hfloat, hlevels, read_written_values.1 twins hfloat hlevels,
    read_written_values.2 (.i32 (-5)) rfl⟩

end GuestBridge
