import GuestBridge.Proofs.Layout.Codec

/-!
# The shape of a struct value

`TypeDescriptor.Accepts` says which struct values a type takes: those with the fields of the type,
each of its type, in any order and some of them repeated.  `TypeDescriptor.Describes` says which
values have exactly the fields of the type in their order.  `FieldValue.at?` follows a path of field
names to a single value.

Whatever is encoded is accepted (`accepts_of_encodeType`), and arranging an accepted value makes it
one that the type describes and keeps what stands at the end of every path
(`arrange_of_accepts`).
-/

namespace GuestBridge

/-! ## Paths -/

/-- The single value at the end of a path of field names. Of fields with one name the path takes the
first. -/
def FieldValue.at? : FieldValue → List String → Option Value
  | .scalar value, [] => some value
  | .struct typeName fields, name :: path =>
      match StructValue.get? ⟨typeName, fields⟩ name with
      | some v => v.at? path
      | none => none
  | _, _ => none

/-! ## Values of a type -/

mutual

/-- A struct value of the type: it names the type, has no other fields than the type, and its first
field of each name is of the type of that field. -/
def TypeDescriptor.Accepts : TypeDescriptor → StructValue → Prop
  | .primitive _, _ => False
  | .struct name _ fields, v =>
      v.typeName = name ∧ (∀ given ∈ v.fields, ∃ f ∈ fields, f.name = given.1) ∧
        AcceptsFields v fields

@[inherit_doc TypeDescriptor.Accepts]
def AcceptsFields (v : StructValue) : List FieldDescriptor → Prop
  | [] => True
  | f :: rest => AcceptsField v f ∧ AcceptsFields v rest

@[inherit_doc TypeDescriptor.Accepts]
def AcceptsField (v : StructValue) : FieldDescriptor → Prop
  | ⟨name, _, type⟩ =>
      match v.get? name with
      | none => False
      | some (.struct inner fields) => type.Accepts ⟨inner, fields⟩
      | some (.scalar value) => type.isStruct = false ∧ type.boundaryKind = some value.kind

end

mutual

/-- A value of the type with nothing left to arrange: a single value of its kind, or a struct that
names the type and has exactly its fields, in their order, each described by its type in turn. -/
def TypeDescriptor.Describes : TypeDescriptor → FieldValue → Prop
  | .primitive p, .scalar value => p.boundaryKind = some value.kind
  | .struct name _ fields, .struct typeName values =>
      typeName = name ∧ DescribesFields fields values
  | _, _ => False

@[inherit_doc TypeDescriptor.Describes]
def DescribesFields : List FieldDescriptor → List (String × FieldValue) → Prop
  | [], [] => True
  | f :: rest, value :: values => DescribesField f value ∧ DescribesFields rest values
  | _, _ => False

@[inherit_doc TypeDescriptor.Describes]
def DescribesField : FieldDescriptor → String × FieldValue → Prop
  | ⟨name, _, type⟩, value => value.1 = name ∧ type.Describes value.2

end

/-! ## What is encoded is accepted -/

theorem TypeDescriptor.boundaryKind_of_isSlice {d : TypeDescriptor} (h : d.isSlice = true) :
    d.boundaryKind = some .string := by
  cases d with
  | struct name size fields => cases h
  | primitive p => cases p <;> first | rfl | cases h

section Encode

variable {ρ ε : Type} {slices : SliceAccess ρ ε} {s s' : ρ}

theorem acceptsField_struct {v w : StructValue} {f : FieldDescriptor}
    (hget : v.get? f.name = some (.ofStruct w)) (hw : f.type.Accepts w) : AcceptsField v f := by
  obtain ⟨name, offset, type⟩ := f
  rw [AcceptsField, hget]
  exact hw

theorem acceptsField_scalar {v : StructValue} {value : Value} {f : FieldDescriptor}
    (hget : v.get? f.name = some (.scalar value)) (hstruct : f.type.isStruct = false)
    (hkind : f.type.boundaryKind = some value.kind) : AcceptsField v f := by
  obtain ⟨name, offset, type⟩ := f
  rw [AcceptsField, hget]
  exact ⟨hstruct, hkind⟩

mutual

theorem accepts_of_encodeType : ∀ (type : TypeDescriptor) {v : StructValue} {s s' : ρ}
    {bytes : Bytes}, (encodeType slices type v).from s = (.ok bytes, s') → type.Accepts v
  | .primitive p, v, s, s', bytes, h => by
      rw [encodeType] at h
      cases h
  | .struct name size fields, v, s, s', bytes, h => by
      obtain ⟨hname, hknown, parts, hparts, -⟩ := encodeType_struct_ok h
      exact ⟨hname, hknown, acceptsFields_of_encodeFields name v fields hparts⟩

theorem acceptsFields_of_encodeFields (owner : String) (v : StructValue) :
    ∀ (fields : List FieldDescriptor) {s s' : ρ} {parts : List (Nat × Bytes)},
      (encodeFields slices owner v fields).from s = (.ok parts, s') → AcceptsFields v fields
  | [], _, _, _, _ => trivial
  | f :: rest, s, s', parts, h => by
      obtain ⟨part, s₁, later, hpart, hlater, -⟩ := encodeFields_cons_ok h
      exact ⟨acceptsField_of_encodeField owner v f hpart,
        acceptsFields_of_encodeFields owner v rest hlater⟩

theorem acceptsField_of_encodeField (owner : String) (v : StructValue) :
    ∀ (f : FieldDescriptor) {s s' : ρ} {part : Bytes},
      (encodeField slices owner v f).from s = (.ok part, s') → AcceptsField v f
  | ⟨name, offset, type⟩, s, s', part, h => by
      rcases encodeField_ok h with ⟨w, hget, -, hw⟩ | ⟨text, address, length, hget, hslice, -, -⟩ |
        ⟨value, hget, hstruct, -, hkind, -, -⟩
      · exact acceptsField_struct hget (accepts_of_encodeType type hw)
      · exact acceptsField_scalar hget (TypeDescriptor.not_isStruct_of_isSlice hslice).1
          (TypeDescriptor.boundaryKind_of_isSlice hslice)
      · exact acceptsField_scalar hget hstruct hkind

end

end Encode

/-! ## Arranging -/

theorem StructValue.get?_cons (typeName n name : String) (value : FieldValue)
    (rest : List (String × FieldValue)) :
    StructValue.get? ⟨typeName, (n, value) :: rest⟩ name =
      if n = name then some value else StructValue.get? ⟨typeName, rest⟩ name := by
  unfold StructValue.get?
  rw [List.find?_cons]
  by_cases h : n = name <;> simp [h]

/-- A name that no field of the type has finds nothing in an accepted value. -/
theorem StructValue.get?_eq_none {v : StructValue} {fields : List FieldDescriptor} {name : String}
    (hknown : ∀ given ∈ v.fields, ∃ f ∈ fields, f.name = given.1)
    (hname : ∀ f ∈ fields, f.name ≠ name) : v.get? name = none := by
  unfold StructValue.get?
  rw [Option.map_eq_none_iff, List.find?_eq_none]
  intro given hgiven hsame
  obtain ⟨f, hf, hgivenName⟩ := hknown given hgiven
  exact hname f hf (hgivenName.trans (by simpa using hsame))

theorem exists_get?_of_acceptsField {v : StructValue} {f : FieldDescriptor}
    (h : AcceptsField v f) : ∃ value, v.get? f.name = some value := by
  obtain ⟨name, offset, type⟩ := f
  rw [AcceptsField] at h
  cases hget : v.get? name with
  | none => simp [hget] at h
  | some value => exact ⟨value, rfl⟩

/-- Among the arranged fields a name finds what it found before, arranged as the field of that
name. -/
theorem get?_arrangeFields {v : StructValue} (typeName name : String) :
    ∀ {fields : List FieldDescriptor}, AcceptsFields v fields →
      StructValue.get? ⟨typeName, arrangeFields v fields⟩ name =
        (fields.find? fun f => f.name = name).bind fun f =>
          (v.get? name).map (arrangeField · f)
  | [], _ => rfl
  | f :: rest, h => by
      rw [AcceptsFields] at h
      obtain ⟨value, hvalue⟩ := exists_get?_of_acceptsField h.1
      rw [arrangeFields, hvalue, List.find?_cons]
      dsimp only
      rw [StructValue.get?_cons, get?_arrangeFields typeName name h.2]
      by_cases hname : f.name = name
      · rw [← hname, hvalue]
        simp
      · simp [hname]

mutual

/-- An accepted value, arranged, is described by its type, and every path ends in it where it ended
before. -/
theorem arrange_of_accepts : ∀ (type : TypeDescriptor) {v : StructValue}, type.Accepts v →
    type.Describes (.ofStruct (type.arrange v)) ∧
      ∀ path, (FieldValue.ofStruct (type.arrange v)).at? path = (FieldValue.ofStruct v).at? path
  | .primitive p, v, h => by
      rw [TypeDescriptor.Accepts] at h
      exact h.elim
  | .struct name size fields, v, h => by
      rw [TypeDescriptor.Accepts] at h
      obtain ⟨hname, hknown, hfields⟩ := h
      obtain ⟨hdescribes, hpaths⟩ := arrangeFields_of_accepts fields hfields
      rw [TypeDescriptor.arrange, FieldValue.ofStruct, FieldValue.ofStruct]
      refine ⟨?_, fun path => ?_⟩
      · rw [TypeDescriptor.Describes]
        exact ⟨hname, hdescribes⟩
      cases path with
      | nil => rfl
      | cons n path =>
          rw [FieldValue.at?, FieldValue.at?, get?_arrangeFields _ _ hfields]
          cases hfind : fields.find? fun f => f.name = n with
          | none =>
              -- No field of the type has the name, and so the value has none of it either.
              have hnone : v.get? n = none := StructValue.get?_eq_none hknown fun f hf => by
                simpa using List.find?_eq_none.1 hfind f hf
              rw [show StructValue.get? ⟨v.typeName, v.fields⟩ n = none from hnone]
              rfl
          | some f =>
              have hf : f ∈ fields := List.mem_of_find?_eq_some hfind
              have hfn : f.name = n := by simpa using List.find?_some hfind
              obtain ⟨value, hget, hpath⟩ := hpaths f hf
              rw [hfn] at hget
              rw [show StructValue.get? ⟨v.typeName, v.fields⟩ n = some value from hget]
              simp only [Option.bind_some, Option.map_some]
              exact hpath path

theorem arrangeFields_of_accepts : ∀ (fields : List FieldDescriptor) {v : StructValue},
    AcceptsFields v fields → DescribesFields fields (arrangeFields v fields) ∧
      ∀ f ∈ fields, ∃ value, v.get? f.name = some value ∧
        ∀ path, (arrangeField value f).at? path = value.at? path
  | [], v, _ => ⟨trivial, by simp⟩
  | f :: rest, v, h => by
      rw [AcceptsFields] at h
      obtain ⟨value, hget, hdescribes, hpath⟩ := arrangeField_of_accepts f h.1
      obtain ⟨hrest, hpaths⟩ := arrangeFields_of_accepts rest h.2
      rw [arrangeFields, hget]
      dsimp only
      rw [DescribesFields]
      exact ⟨⟨hdescribes, hrest⟩, List.forall_mem_cons.2 ⟨⟨value, hget, hpath⟩, hpaths⟩⟩

theorem arrangeField_of_accepts : ∀ (f : FieldDescriptor) {v : StructValue}, AcceptsField v f →
    ∃ value, v.get? f.name = some value ∧ DescribesField f (f.name, arrangeField value f) ∧
      ∀ path, (arrangeField value f).at? path = value.at? path
  | ⟨name, offset, type⟩, v, h => by
      rw [AcceptsField] at h
      split at h
      · exact h.elim
      · rename_i inner fields hget
        obtain ⟨hdescribes, hpath⟩ := arrange_of_accepts type h
        refine ⟨_, hget, ?_, fun path => ?_⟩
        · rw [DescribesField, arrangeField]
          exact ⟨rfl, hdescribes⟩
        · rw [arrangeField]
          exact hpath path
      · rename_i value hget
        refine ⟨_, hget, ?_, fun path => ?_⟩
        · rw [DescribesField, arrangeField]
          refine ⟨rfl, ?_⟩
          cases type with
          | primitive p => exact h.2
          | struct _ _ _ => cases h.1
        · rw [arrangeField]

end

end GuestBridge
