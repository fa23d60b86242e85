import GuestBridge.Layout.Codec
import GuestBridge.Proofs.Bytes
import GuestBridge.Proofs.Fallible
import GuestBridge.Proofs.Layout.WellFormed
import Mathlib.Tactic.SplitIfs

/-!
# Structs read back

What encoding does with a field is told by `encodeField_ok`.  Neither direction asks anything of a
`SliceAccess` but to store and to load texts (`encodeType_leads`, `decodeType_leads`).  Every part of
an encoding takes the bytes of its type (`length_of_encodeType`).

A struct is read back, `arrange`d in the order of its type, from its encoding and from every state
after it, when its fields are laid out (`TypeDescriptor.LaidOut`) and slices keep what they store
(`SliceAccess.Faithful`): `decodeType_encodeType`.
-/

namespace GuestBridge

variable {ρ ε : Type} {slices : SliceAccess ρ ε} {s s' : ρ}

theorem encodeType_struct (slices : SliceAccess ρ ε) (name : String) (size : UInt32)
    (fields : List FieldDescriptor) (v : StructValue) :
    encodeType slices (.struct name size fields) v =
      if v.typeName ≠ name then throw (.wrongStruct name v.typeName)
      else
        match v.fields.find? fun given => !fields.any fun f => f.name = given.1 with
        | some (field, _) => throw (.unknownField name field)
        | none => encodeFields slices name v fields >>= fun parts =>
            pure (assemble size.toNat parts) := by
  rw [encodeType]
  split_ifs
  · rfl
  · cases v.fields.find? fun given => !fields.any fun f => f.name = given.1 <;> rfl

theorem decodeType_struct (slices : SliceAccess ρ ε) (name : String) (size : UInt32)
    (fields : List FieldDescriptor) (raw : Bytes) :
    decodeType slices (.struct name size fields) raw =
      if raw.length < size.toNat then throw (.truncated name size.toNat raw.length)
      else decodeFields slices name raw fields >>= fun values => pure ⟨name, values⟩ := by
  rw [decodeType]
  split_ifs <;> rfl

/-- A struct is encoded when the value names the type and has no other fields, and its parts are put
together. -/
theorem encodeType_struct_ok {name : String} {size : UInt32} {fields : List FieldDescriptor}
    {v : StructValue} {bytes : Bytes}
    (h : (encodeType slices (.struct name size fields) v).from s = (.ok bytes, s')) :
    v.typeName = name ∧ (∀ given ∈ v.fields, ∃ f ∈ fields, f.name = given.1) ∧
      ∃ parts, (encodeFields slices name v fields).from s = (.ok parts, s') ∧
        bytes = assemble size.toNat parts := by
  rw [encodeType_struct] at h
  split_ifs at h with hname
  · cases h
  split at h
  · cases h
  · rename_i hknown
    obtain ⟨parts, s₁, hparts, h⟩ := Fallible.bind_from_ok_iff.1 h
    cases h
    refine ⟨Decidable.not_not.1 hname, fun given hgiven => ?_, parts, hparts, rfl⟩
    simpa using List.find?_eq_none.1 hknown given hgiven

/-- Fields are encoded one after the other. -/
theorem encodeFields_cons_ok {owner : String} {v : StructValue} {f : FieldDescriptor}
    {rest : List FieldDescriptor} {parts : List (Nat × Bytes)}
    (h : (encodeFields slices owner v (f :: rest)).from s = (.ok parts, s')) :
    ∃ part s₁ later, (encodeField slices owner v f).from s = (.ok part, s₁) ∧
      (encodeFields slices owner v rest).from s₁ = (.ok later, s') ∧
      parts = (f.offset.toNat, part) :: later := by
  rw [encodeFields] at h
  obtain ⟨part, s₁, hpart, h⟩ := Fallible.bind_from_ok_iff.1 h
  obtain ⟨later, s₂, hlater, h⟩ := Fallible.bind_from_ok_iff.1 h
  cases h
  exact ⟨part, s₁, later, hpart, hlater, rfl⟩

/-- A field is encoded from the value of its name: a struct by itself, a text by its slice, and
any other value of its very kind by its bytes. -/
theorem encodeField_ok {owner : String} {v : StructValue} {f : FieldDescriptor} {part : Bytes}
    (h : (encodeField slices owner v f).from s = (.ok part, s')) :
    (∃ w : StructValue, v.get? f.name = some (.ofStruct w) ∧ f.type.isStruct = true ∧
      (encodeType slices f.type w).from s = (.ok part, s')) ∨
    (∃ text address length, v.get? f.name = some (.scalar (.string text)) ∧
      f.type.isSlice = true ∧ (slices.store text).from s = (.ok (address, length), s') ∧
      part = Bytes.ofUInt32 address ++ Bytes.ofUInt32 length) ∨
    ∃ value, v.get? f.name = some (.scalar value) ∧ f.type.isStruct = false ∧
      value.kind ≠ .string ∧ f.type.boundaryKind = some value.kind ∧ part = value.bytes ∧
      s = s' := by
  obtain ⟨name, offset, type⟩ := f
  rw [encodeField] at h
  split at h
  · cases h
  · rename_i inner fields hget
    split_ifs at h with hstruct
    · exact .inl ⟨⟨inner, fields⟩, hget, hstruct, h⟩
    · cases h
  · rename_i value hget
    split at h
    · rename_i text
      split_ifs at h with hslice
      · obtain ⟨⟨address, length⟩, s₁, hstore, h⟩ := Fallible.bind_from_ok_iff.1 h
        cases h
        exact .inr (.inl ⟨text, address, length, hget, hslice,
          Fallible.adapt_from_ok_iff.1 hstore, rfl⟩)
      · cases h
    · rename_i hkind
      split_ifs at h with hfits
      · cases h
        simp only [Bool.and_eq_true, Bool.not_eq_true', beq_iff_eq] at hfits
        refine .inr (.inr ⟨value, hget, hfits.1, ?_, hfits.2, rfl, rfl⟩)
        cases value <;> simp [Value.kind] at hkind ⊢
      · cases h

/-! ## Requests for slices -/

/-- What is asked of the slices leads to a state that is related by `R`. -/
structure SliceAccess.Leads (slices : SliceAccess ρ ε) (R : ρ → ρ → Prop) : Prop where
  store : ∀ text, (slices.store text).Leads R
  load : ∀ address length, (slices.load address length).Leads R

section Leads

variable {R : ρ → ρ → Prop} [IsPreorder ρ R]

mutual

theorem encodeType_leads (h : slices.Leads R) : ∀ (type : TypeDescriptor) (v : StructValue),
    (encodeType slices type v).Leads R
  | .primitive p, v => by
      rw [encodeType]
      exact Fallible.leads_throw _
  | .struct name size fields, v => by
      rw [encodeType_struct]
      split_ifs
      · exact Fallible.leads_throw _
      · split
        · exact Fallible.leads_throw _
        · exact (encodeFields_leads h name v fields).bind fun _ => Fallible.leads_pure _

theorem encodeFields_leads (h : slices.Leads R) (owner : String) (v : StructValue) :
    ∀ fields : List FieldDescriptor, (encodeFields slices owner v fields).Leads R
  | [] => Fallible.leads_pure _
  | f :: rest => by
      rw [encodeFields]
      exact (encodeField_leads h owner v f).bind fun _ =>
        (encodeFields_leads h owner v rest).bind fun _ => Fallible.leads_pure _

theorem encodeField_leads (h : slices.Leads R) (owner : String) (v : StructValue) :
    ∀ f : FieldDescriptor, (encodeField slices owner v f).Leads R
  | ⟨name, _, type⟩ => by
      rw [encodeField]
      split
      · exact Fallible.leads_throw _
      · split_ifs
        · exact encodeType_leads h type _
        · exact Fallible.leads_throw _
      · split
        · split_ifs
          · exact ((h.store _).adapt _).bind fun _ => Fallible.leads_pure _
          · exact Fallible.leads_throw _
        · split_ifs
          · exact Fallible.leads_pure _
          · exact Fallible.leads_throw _

end

mutual

theorem decodeType_leads (h : slices.Leads R) : ∀ (type : TypeDescriptor) (raw : Bytes),
    (decodeType slices type raw).Leads R
  | .primitive p, raw => by
      rw [decodeType]
      exact Fallible.leads_throw _
  | .struct name size fields, raw => by
      rw [decodeType_struct]
      split_ifs
      · exact Fallible.leads_throw _
      · exact (decodeFields_leads h name raw fields).bind fun _ => Fallible.leads_pure _

theorem decodeFields_leads (h : slices.Leads R) (owner : String) (raw : Bytes) :
    ∀ fields : List FieldDescriptor, (decodeFields slices owner raw fields).Leads R
  | [] => Fallible.leads_pure _
  | f :: rest => by
      rw [decodeFields]
      exact (decodeField_leads h owner raw f).bind fun _ =>
        (decodeFields_leads h owner raw rest).bind fun _ => Fallible.leads_pure _

theorem decodeField_leads (h : slices.Leads R) (owner : String) (raw : Bytes) :
    ∀ f : FieldDescriptor, (decodeField slices owner raw f).Leads R
  | ⟨name, offset, type⟩ => by
      rw [decodeField]
      split_ifs
      · exact (decodeType_leads h type _).bind fun _ => Fallible.leads_pure _
      · exact ((h.load _ _).adapt _).bind fun _ => Fallible.leads_pure _
      · cases type.boundaryKind with
        | none => exact Fallible.leads_throw _
        | some kind => exact Fallible.leads_pure _

end

end Leads

/-! ## The bytes of parts -/

/-- The fields of the type and of all types it embeds are laid out. -/
def TypeDescriptor.LaidOut (d : TypeDescriptor) : Prop :=
  ∀ e, Relation.ReflTransGen TypeDescriptor.HasFieldType d e → FieldsLaidOut e.size e.fields

theorem TypeDescriptor.LaidOut.of_mem {name : String} {size : UInt32}
    {fields : List FieldDescriptor} (h : (TypeDescriptor.struct name size fields).LaidOut)
    {f : FieldDescriptor} (hf : f ∈ fields) : f.type.LaidOut :=
  fun e he => h e (.head ⟨f, hf, rfl⟩ he)

/-- The types of a well-formed registry are laid out all the way down. -/
theorem Registry.WellFormed.laidOut {r : Registry} (h : r.WellFormed) {name : String}
    {d : TypeDescriptor} (hd : r.get? name = some d) : d.LaidOut := by
  intro e he
  obtain ⟨name', he'⟩ : ∃ name', r.get? name' = some e := by
    rcases Relation.reflTransGen_iff_eq_or_transGen.1 he with rfl | hembeds
    · exact ⟨name, hd⟩
    · exact ⟨e.name, h.get?_of_embeds hd hembeds⟩
  exact h.laid_out he'

theorem TypeDescriptor.not_isStruct_of_isSlice {d : TypeDescriptor} (h : d.isSlice = true) :
    d.isStruct = false ∧ d.size = 8 := by
  cases d with
  | struct name size fields => cases h
  | primitive p => cases p <;> first | exact ⟨rfl, rfl⟩ | cases h

theorem TypeDescriptor.isSlice_eq_false {d : TypeDescriptor} {kind : Kind}
    (hstruct : d.isStruct = false) (hkind : d.boundaryKind = some kind) (h : kind ≠ .string) :
    d.isSlice = false := by
  cases d with
  | struct name size fields => rfl
  | primitive p =>
      cases p <;> first | rfl | exact absurd (Option.some.inj hkind).symm h

/-- The parts of a struct stand where its fields do. -/
def AtFields (fields : List FieldDescriptor) (parts : List (Nat × Bytes)) : Prop :=
  parts.map (fun p => (p.1, p.2.length)) =
    fields.map fun f => (f.offset.toNat, f.type.size.toNat)

theorem AtFields.exists_field {fields : List FieldDescriptor} {parts : List (Nat × Bytes)}
    (h : AtFields fields parts) :
    ∀ p ∈ parts, ∃ f ∈ fields, f.offset.toNat = p.1 ∧ f.type.size.toNat = p.2.length := by
  intro p hp
  have hmem := List.mem_map_of_mem (f := fun p : Nat × Bytes => (p.1, p.2.length)) hp
  rw [h] at hmem
  obtain ⟨f, hf, hplace⟩ := List.mem_map.1 hmem
  exact ⟨f, hf, Prod.mk.inj hplace⟩

theorem AtFields.inside {size : UInt32} {fields : List FieldDescriptor}
    {parts : List (Nat × Bytes)} (h : AtFields fields parts) (hlaid : FieldsLaidOut size fields) :
    ∀ p ∈ parts, p.1 + p.2.length ≤ size.toNat := by
  intro p hp
  obtain ⟨f, hf, hstart, hlength⟩ := h.exists_field p hp
  rw [← hstart, ← hlength]
  exact hlaid.inside f hf

theorem AtFields.apart {size : UInt32} {fields : List FieldDescriptor}
    {parts : List (Nat × Bytes)} (h : AtFields fields parts) (hlaid : FieldsLaidOut size fields) :
    parts.Pairwise fun p q => p.1 + p.2.length ≤ q.1 := by
  have hfields : (fields.map fun f => (f.offset.toNat, f.type.size.toNat)).Pairwise
      fun a b => a.1 + a.2 ≤ b.1 := List.pairwise_map.2 hlaid.apart
  rw [← h] at hfields
  exact List.pairwise_map.1 hfields

mutual

/-- A struct that is encoded takes the bytes of its type. -/
theorem length_of_encodeType : ∀ (type : TypeDescriptor) {v : StructValue} {s s' : ρ}
    {bytes : Bytes}, type.LaidOut → (encodeType slices type v).from s = (.ok bytes, s') →
      bytes.length = type.size.toNat
  | .primitive p, v, s, s', bytes, _, h => by
      rw [encodeType] at h
      cases h
  | .struct name size fields, v, s, s', bytes, hlaid, h => by
      obtain ⟨-, -, parts, hparts, rfl⟩ := encodeType_struct_ok h
      have hfields : FieldsLaidOut size fields := hlaid _ .refl
      exact length_assemble
        ((atFields_of_encodeFields name v fields (fun f hf => hlaid.of_mem hf) hparts).inside hfields)

theorem atFields_of_encodeFields (owner : String) (v : StructValue) :
    ∀ (fields : List FieldDescriptor) {s s' : ρ} {parts : List (Nat × Bytes)},
      (∀ f ∈ fields, f.type.LaidOut) →
      (encodeFields slices owner v fields).from s = (.ok parts, s') → AtFields fields parts
  | [], s, s', parts, _, h => by
      cases h
      rfl
  | f :: rest, s, s', parts, hlaid, h => by
      rw [List.forall_mem_cons] at hlaid
      obtain ⟨part, s₁, later, hpart, hlater, rfl⟩ := encodeFields_cons_ok h
      have hrest : AtFields rest later := atFields_of_encodeFields owner v rest hlaid.2 hlater
      rw [AtFields, List.map_cons, List.map_cons, hrest,
        length_of_encodeField owner v f hlaid.1 hpart]

theorem length_of_encodeField (owner : String) (v : StructValue) :
    ∀ (f : FieldDescriptor) {s s' : ρ} {part : Bytes}, f.type.LaidOut →
      (encodeField slices owner v f).from s = (.ok part, s') → part.length = f.type.size.toNat
  | ⟨name, offset, type⟩, s, s', part, hlaid, h => by
      rcases encodeField_ok h with ⟨w, -, -, hw⟩ | ⟨text, address, length, -, hslice, -, rfl⟩ |
        ⟨value, -, hstruct, hstring, hkind, rfl, -⟩
      · exact length_of_encodeType type hlaid hw
      · obtain ⟨-, hsize⟩ := TypeDescriptor.not_isStruct_of_isSlice hslice
        rw [hsize, List.length_append, Bytes.length_ofUInt32, Bytes.length_ofUInt32]
        rfl
      · cases type with
        | struct _ _ _ => cases hstruct
        | primitive p => exact Primitive.size_of_boundaryKind hkind hstring

end

/-! ## Reading back -/

mutual

/-- A struct value in the order of its type: of each field the first value, arranged in turn. -/
def TypeDescriptor.arrange : TypeDescriptor → StructValue → StructValue
  | .primitive _, v => v
  | .struct _ _ fields, v => ⟨v.typeName, arrangeFields v fields⟩

@[inherit_doc TypeDescriptor.arrange]
def arrangeFields (v : StructValue) : List FieldDescriptor → List (String × FieldValue)
  | [] => []
  | f :: rest =>
      match v.get? f.name with
      | some value => (f.name, arrangeField value f) :: arrangeFields v rest
      | none => arrangeFields v rest

@[inherit_doc TypeDescriptor.arrange]
def arrangeField (value : FieldValue) : FieldDescriptor → FieldValue
  | ⟨_, _, type⟩ =>
      match value with
      | .scalar value => .scalar value
      | .struct name fields => .ofStruct (type.arrange ⟨name, fields⟩)

end

/-- From `s₀` on, slices keep what they store: requests lead on by `R`, and a stored text is loaded
from every state after that. -/
structure SliceAccess.Faithful (slices : SliceAccess ρ ε) (R : ρ → ρ → Prop) (s₀ : ρ) : Prop where
  leads : slices.Leads R
  load_store : ∀ {s s' text address length}, R s₀ s →
    (slices.store text).from s = (.ok (address, length), s') →
    (slices.load address length).AnswersFrom R s' text

section RoundTrip

variable {R : ρ → ρ → Prop} [IsPreorder ρ R] {s₀ : ρ}

/-- A text is read back from its slice. -/
theorem decodeField_slice (h : slices.Faithful R s₀) (hs : R s₀ s) {owner : String}
    {f : FieldDescriptor} {text : String} {address length : UInt32} {raw : Bytes}
    (hslice : f.type.isSlice = true)
    (hstore : (slices.store text).from s = (.ok (address, length), s'))
    (hraw : raw.slice f.offset.toNat f.type.size.toNat =
      Bytes.ofUInt32 address ++ Bytes.ofUInt32 length) :
    (decodeField slices owner raw f).AnswersFrom R s' (.scalar (.string text)) := by
  obtain ⟨name, offset, type⟩ := f
  obtain ⟨hstruct, -⟩ := TypeDescriptor.not_isStruct_of_isSlice hslice
  have hlength : (Bytes.ofUInt32 address ++ Bytes.ofUInt32 length).drop 4 =
      Bytes.ofUInt32 length := List.drop_left' (Bytes.length_ofUInt32 address)
  rw [decodeField, if_neg (by simp [hstruct]), if_pos hslice, hraw,
    Bytes.toUInt32_ofUInt32_append, hlength, Bytes.toUInt32_ofUInt32]
  exact ((h.load_store hs hstore).adapt _).bind ((h.leads.load _ _).adapt _)
    (Fallible.answersFrom_pure _ _)

omit [IsPreorder ρ R] in
/-- A value that is laid out in place is read back from its bytes. -/
theorem decodeField_scalar {owner : String} {f : FieldDescriptor} {value : Value} {raw : Bytes}
    (hstruct : f.type.isStruct = false) (hkind : f.type.boundaryKind = some value.kind)
    (hstring : value.kind ≠ .string)
    (hraw : raw.slice f.offset.toNat f.type.size.toNat = value.bytes) :
    (decodeField slices owner raw f).AnswersFrom R s (.scalar value) := by
  obtain ⟨name, offset, type⟩ := f
  have hslice := TypeDescriptor.isSlice_eq_false hstruct hkind hstring
  dsimp only at hstruct hkind hslice hraw
  rw [decodeField, if_neg (by simp [hstruct]), if_neg (by simp [hslice]), hraw, hkind]
  dsimp only
  rw [Value.ofBytes_bytes]
  exact Fallible.answersFrom_pure _ _

mutual

/-- A struct is read back, arranged, from bytes that start with its encoding. -/
theorem decodeType_encodeType (h : slices.Faithful R s₀) : ∀ (type : TypeDescriptor)
    {v : StructValue} {s s' : ρ} {bytes : Bytes}, type.LaidOut → R s₀ s →
    (encodeType slices type v).from s = (.ok bytes, s') →
      bytes.length = type.size.toNat ∧
        ∀ raw : Bytes, raw.take type.size.toNat = bytes →
          (decodeType slices type raw).AnswersFrom R s' (type.arrange v)
  | .primitive p, v, s, s', bytes, _, _, henc => by
      rw [encodeType] at henc
      cases henc
  | .struct name size fields, v, s, s', bytes, hlaid, hs, henc => by
      obtain ⟨hname, -, parts, hparts, rfl⟩ := encodeType_struct_ok henc
      have hfields : FieldsLaidOut size fields := hlaid _ .refl
      have htypes : ∀ f ∈ fields, f.type.LaidOut := fun f hf => hlaid.of_mem hf
      have hplaces := atFields_of_encodeFields name v fields htypes hparts
      have hinside := hplaces.inside hfields
      refine ⟨length_assemble hinside, fun raw hraw => ?_⟩
      have hlength := congrArg List.length hraw
      rw [length_assemble hinside, List.length_take, TypeDescriptor.size] at hlength
      rw [decodeType_struct, if_neg (by omega)]
      refine (decodeFields_encodeFields h name v fields htypes hs hparts raw fun p hp => ?_).bind
        (decodeFields_leads h.leads name raw fields) ?_
      · rw [← Bytes.slice_take (hinside p hp)]
        exact (congrArg (Bytes.slice · p.1 p.2.length) hraw).trans
          (slice_assemble hinside (hplaces.apart hfields) hp)
      · rw [← hname]
        exact Fallible.answersFrom_pure _ _

theorem decodeFields_encodeFields (h : slices.Faithful R s₀) (owner : String) (v : StructValue) :
    ∀ (fields : List FieldDescriptor) {s s' : ρ} {parts : List (Nat × Bytes)},
      (∀ f ∈ fields, f.type.LaidOut) → R s₀ s →
      (encodeFields slices owner v fields).from s = (.ok parts, s') →
        ∀ raw : Bytes, (∀ p ∈ parts, raw.slice p.1 p.2.length = p.2) →
          (decodeFields slices owner raw fields).AnswersFrom R s' (arrangeFields v fields)
  | [], s, s', parts, _, _, henc => by
      cases henc
      exact fun _ _ => Fallible.answersFrom_pure _ _
  | f :: rest, s, s', parts, hlaid, hs, henc => by
      rw [List.forall_mem_cons] at hlaid
      obtain ⟨part, s₁, later, hpart, hparts, rfl⟩ := encodeFields_cons_ok henc
      have hlater : R s s₁ := (encodeField_leads h.leads owner v f).of_from hpart
      have hlater' : R s₁ s' := (encodeFields_leads h.leads owner v rest).of_from hparts
      obtain ⟨value, hget, hread⟩ := decodeField_encodeField h owner v f hlaid.1 hs hpart
      have hreads := decodeFields_encodeFields h owner v rest hlaid.2
        (IsTrans.trans _ _ _ hs hlater) hparts
      intro raw hraw
      rw [List.forall_mem_cons] at hraw
      rw [decodeFields, arrangeFields, hget]
      refine ((hread raw ?_).later hlater').bind (decodeField_leads h.leads owner raw f) ?_
      · rw [← length_of_encodeField owner v f hlaid.1 hpart]
        exact hraw.1
      · exact (hreads raw hraw.2).bind (decodeFields_leads h.leads owner raw rest)
          (Fallible.answersFrom_pure _ _)

theorem decodeField_encodeField (h : slices.Faithful R s₀) (owner : String) (v : StructValue) :
    ∀ (f : FieldDescriptor) {s s' : ρ} {part : Bytes}, f.type.LaidOut → R s₀ s →
      (encodeField slices owner v f).from s = (.ok part, s') →
        ∃ value, v.get? f.name = some value ∧
          ∀ raw : Bytes, raw.slice f.offset.toNat f.type.size.toNat = part →
            (decodeField slices owner raw f).AnswersFrom R s' (arrangeField value f)
  | ⟨name, offset, type⟩, s, s', part, hlaid, hs, henc => by
      rcases encodeField_ok henc with ⟨w, hget, hstruct, hw⟩ |
        ⟨text, address, length, hget, hslice, hstore, rfl⟩ |
        ⟨value, hget, hstruct, hstring, hkind, rfl, rfl⟩
      · obtain ⟨hlength, hread⟩ := decodeType_encodeType h type hlaid hs hw
        refine ⟨_, hget, fun raw hraw => ?_⟩
        dsimp only at hstruct hraw
        rw [decodeField, if_pos hstruct, hraw]
        refine (hread part ?_).bind (decodeType_leads h.leads type part)
          (Fallible.answersFrom_pure _ _)
        rw [← hlength, List.take_length]
      · exact ⟨_, hget, fun raw hraw => decodeField_slice h hs hslice hstore hraw⟩
      · exact ⟨_, hget, fun raw hraw => decodeField_scalar hstruct hkind hstring hraw⟩

end

end RoundTrip

end GuestBridge
