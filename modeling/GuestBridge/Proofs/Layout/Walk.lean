import GuestBridge.Proofs.Layout.Codec

/-!
# The walk over a struct

Encoding and decoding walk over a struct depth first, in the order of its type.  Which texts they
ask their slices for, on behalf of which fields, and what they refuse does not depend on the
answers: it is read off the type and the value or the bytes (`storeSteps`, `loadSteps`).

`Alike` says of two computations, each with slices of its own, that they go the same steps and make
the same of the same answers.  Encoding with any two kinds of slices is alike
(`encodeType_alike`), and so is decoding (`decodeType_alike`).
-/

namespace GuestBridge

/-! ## Steps -/

/-- A step of a walk: a text is wanted on behalf of a field, or something does not fit. -/
inductive WalkStep (κ : Type) where
  | ask (owner field : String) (what : κ)
  | refuse (e : CodecError Empty)

/-- The failure with another cause of failed slices. -/
def CodecError.map {ε ε' : Type} (f : ε → ε') : CodecError ε → CodecError ε'
  | notAStruct name => .notAStruct name
  | wrongStruct expected actual => .wrongStruct expected actual
  | missingField type field => .missingField type field
  | unknownField type field => .unknownField type field
  | fieldType type field expected actual => .fieldType type field expected actual
  | truncated type needed available => .truncated type needed available
  | indirect type field cause => .indirect type field (f cause)

mutual

/-- The steps of encoding a struct value. -/
def storeSteps : TypeDescriptor → StructValue → List (WalkStep String)
  | .primitive p, _ => [.refuse (.notAStruct p.name)]
  | .struct name _ fields, v =>
      if v.typeName ≠ name then [.refuse (.wrongStruct name v.typeName)]
      else
        match v.fields.find? fun given => !fields.any fun f => f.name = given.1 with
        | some (field, _) => [.refuse (.unknownField name field)]
        | none => storeFieldsSteps name v fields

@[inherit_doc storeSteps]
def storeFieldsSteps (owner : String) (v : StructValue) :
    List FieldDescriptor → List (WalkStep String)
  | [] => []
  | f :: rest => storeFieldSteps owner v f ++ storeFieldsSteps owner v rest

@[inherit_doc storeSteps]
def storeFieldSteps (owner : String) (v : StructValue) : FieldDescriptor → List (WalkStep String)
  | ⟨name, _, type⟩ =>
      match v.get? name with
      | none => [.refuse (.missingField owner name)]
      | some (.struct inner fields) =>
          if type.isStruct then storeSteps type ⟨inner, fields⟩
          else [.refuse (.fieldType owner name type.name (.struct inner))]
      | some (.scalar value) =>
          match value with
          | .string text =>
              if type.isSlice then [.ask owner name text]
              else [.refuse (.fieldType owner name type.name (.scalar .string))]
          | value =>
              if !type.isStruct && type.boundaryKind == some value.kind then []
              else [.refuse (.fieldType owner name type.name (.scalar value.kind))]

end

mutual

/-- The steps of decoding bytes; what is asked for is a slice. -/
def loadSteps : TypeDescriptor → Bytes → List (WalkStep (UInt32 × UInt32))
  | .primitive p, _ => [.refuse (.notAStruct p.name)]
  | .struct name size fields, raw =>
      if raw.length < size.toNat then [.refuse (.truncated name size.toNat raw.length)]
      else loadFieldsSteps name raw fields

@[inherit_doc loadSteps]
def loadFieldsSteps (owner : String) (raw : Bytes) :
    List FieldDescriptor → List (WalkStep (UInt32 × UInt32))
  | [] => []
  | f :: rest => loadFieldSteps owner raw f ++ loadFieldsSteps owner raw rest

@[inherit_doc loadSteps]
def loadFieldSteps (owner : String) (raw : Bytes) :
    FieldDescriptor → List (WalkStep (UInt32 × UInt32))
  | ⟨name, offset, type⟩ =>
      let part := raw.slice offset.toNat type.size.toNat
      if type.isStruct then loadSteps type part
      else if type.isSlice then [.ask owner name (part.toUInt32, Bytes.toUInt32 (part.drop 4))]
      else
        match type.boundaryKind with
        | some _ => []
        | none => [.refuse (.fieldType owner name type.name .nothing)]

end

/-! ## Computations that go the same steps -/

section Alike

variable {κ α β γ ρ₁ ρ₂ ε₁ ε₂ : Type} {ask₁ : κ → Fallible ρ₁ ε₁ α} {ask₂ : κ → Fallible ρ₂ ε₂ α}

/-- The computations go the steps in order, asking on behalf of the fields, and go on alike with
what they are answered. -/
def Alike (ask₁ : κ → Fallible ρ₁ ε₁ α) (ask₂ : κ → Fallible ρ₂ ε₂ α) :
    List (WalkStep κ) → SliceM ρ₁ ε₁ β → SliceM ρ₂ ε₂ β → Prop
  | [], c₁, c₂ => ∃ b, c₁ = pure b ∧ c₂ = pure b
  | .ask owner field what :: rest, c₁, c₂ => ∃ next₁ next₂,
      c₁ = forField owner field (ask₁ what) >>= next₁ ∧
      c₂ = forField owner field (ask₂ what) >>= next₂ ∧
      ∀ a, Alike ask₁ ask₂ rest (next₁ a) (next₂ a)
  | .refuse e :: _, c₁, c₂ => c₁ = throw (e.map Empty.elim) ∧ c₂ = throw (e.map Empty.elim)

theorem alike_pure (b : β) : Alike ask₁ ask₂ [] (pure b) (pure b) :=
  ⟨b, rfl, rfl⟩

theorem alike_ask (owner field : String) (what : κ) (f : α → β) :
    Alike ask₁ ask₂ [.ask owner field what]
      (forField owner field (ask₁ what) >>= fun a => pure (f a))
      (forField owner field (ask₂ what) >>= fun a => pure (f a)) :=
  ⟨_, _, rfl, rfl, fun a => alike_pure (f a)⟩

theorem alike_refuse (e : CodecError Empty) :
    Alike (β := β) ask₁ ask₂ [.refuse e] (throw (e.map Empty.elim)) (throw (e.map Empty.elim)) :=
  ⟨rfl, rfl⟩

/-- What is composed of computations that are alike is alike, and goes the steps of both. -/
theorem Alike.bind {steps more : List (WalkStep κ)} {c₁ : SliceM ρ₁ ε₁ β} {c₂ : SliceM ρ₂ ε₂ β}
    {f₁ : β → SliceM ρ₁ ε₁ γ} {f₂ : β → SliceM ρ₂ ε₂ γ} (hc : Alike ask₁ ask₂ steps c₁ c₂)
    (hf : ∀ b, Alike ask₁ ask₂ more (f₁ b) (f₂ b)) :
    Alike ask₁ ask₂ (steps ++ more) (c₁ >>= f₁) (c₂ >>= f₂) := by
  induction steps generalizing c₁ c₂ with
  | nil =>
      obtain ⟨b, rfl, rfl⟩ := hc
      rw [pure_bind, pure_bind]
      exact hf b
  | cons step rest ih =>
      cases step with
      | ask owner field what =>
          obtain ⟨next₁, next₂, rfl, rfl, hnext⟩ := hc
          rw [bind_assoc, bind_assoc]
          exact ⟨_, _, rfl, rfl, fun a => ih (hnext a)⟩
      | refuse e =>
          obtain ⟨rfl, rfl⟩ := hc
          exact ⟨rfl, rfl⟩

theorem Alike.map {steps : List (WalkStep κ)} {c₁ : SliceM ρ₁ ε₁ β} {c₂ : SliceM ρ₂ ε₂ β}
    (hc : Alike ask₁ ask₂ steps c₁ c₂) (f : β → γ) :
    Alike ask₁ ask₂ steps (c₁ >>= fun b => pure (f b)) (c₂ >>= fun b => pure (f b)) := by
  rw [← List.append_nil steps]
  exact hc.bind fun b => alike_pure (f b)

end Alike

/-! ## The codecs -/

variable {ρ₁ ρ₂ ε₁ ε₂ : Type}

mutual

theorem encodeType_alike (slices₁ : SliceAccess ρ₁ ε₁) (slices₂ : SliceAccess ρ₂ ε₂) :
    ∀ (type : TypeDescriptor) (v : StructValue), Alike slices₁.store slices₂.store
      (storeSteps type v) (encodeType slices₁ type v) (encodeType slices₂ type v)
  | .primitive p, v => by
      rw [encodeType, encodeType, storeSteps]
      exact alike_refuse (.notAStruct p.name)
  | .struct name size fields, v => by
      rw [encodeType_struct, encodeType_struct, storeSteps]
      split_ifs
      · exact alike_refuse (.wrongStruct name v.typeName)
      · cases v.fields.find? fun given => !fields.any fun f => f.name = given.1 with
        | none => exact (encodeFields_alike slices₁ slices₂ name v fields).map _
        | some given => exact alike_refuse (.unknownField name given.1)

theorem encodeFields_alike (slices₁ : SliceAccess ρ₁ ε₁) (slices₂ : SliceAccess ρ₂ ε₂)
    (owner : String) (v : StructValue) :
    ∀ fields : List FieldDescriptor, Alike slices₁.store slices₂.store
      (storeFieldsSteps owner v fields) (encodeFields slices₁ owner v fields)
      (encodeFields slices₂ owner v fields)
  | [] => by
      rw [encodeFields, encodeFields, storeFieldsSteps]
      exact alike_pure _
  | f :: rest => by
      rw [encodeFields, encodeFields, storeFieldsSteps]
      exact (encodeField_alike slices₁ slices₂ owner v f).bind fun _ =>
        (encodeFields_alike slices₁ slices₂ owner v rest).map _

theorem encodeField_alike (slices₁ : SliceAccess ρ₁ ε₁) (slices₂ : SliceAccess ρ₂ ε₂)
    (owner : String) (v : StructValue) :
    ∀ f : FieldDescriptor, Alike slices₁.store slices₂.store (storeFieldSteps owner v f)
      (encodeField slices₁ owner v f) (encodeField slices₂ owner v f)
  | ⟨name, _, type⟩ => by
      rw [encodeField, encodeField, storeFieldSteps]
      rcases v.get? name with _ | value | ⟨inner, fields⟩
      · exact alike_refuse (.missingField owner name)
      · cases value with
        | string text =>
            dsimp only
            split_ifs
            · exact alike_ask owner name text fun slice : UInt32 × UInt32 =>
                Bytes.ofUInt32 slice.1 ++ Bytes.ofUInt32 slice.2
            · exact alike_refuse (.fieldType owner name type.name _)
        | _ =>
            dsimp only
            split_ifs
            · exact alike_pure _
            · exact alike_refuse (.fieldType owner name type.name _)
      · dsimp only
        split_ifs
        · exact encodeType_alike slices₁ slices₂ type _
        · exact alike_refuse (.fieldType owner name type.name _)

end

/-- Asks for the text of a slice. -/
def SliceAccess.loadSlice {ρ ε : Type} (slices : SliceAccess ρ ε) (slice : UInt32 × UInt32) :
    Fallible ρ ε String :=
  slices.load slice.1 slice.2

mutual

theorem decodeType_alike (slices₁ : SliceAccess ρ₁ ε₁) (slices₂ : SliceAccess ρ₂ ε₂) :
    ∀ (type : TypeDescriptor) (raw : Bytes), Alike slices₁.loadSlice slices₂.loadSlice
      (loadSteps type raw) (decodeType slices₁ type raw) (decodeType slices₂ type raw)
  | .primitive p, raw => by
      rw [decodeType, decodeType, loadSteps]
      exact alike_refuse (.notAStruct p.name)
  | .struct name size fields, raw => by
      rw [decodeType_struct, decodeType_struct, loadSteps]
      split_ifs
      · exact alike_refuse (.truncated name size.toNat raw.length)
      · exact (decodeFields_alike slices₁ slices₂ name raw fields).map _

theorem decodeFields_alike (slices₁ : SliceAccess ρ₁ ε₁) (slices₂ : SliceAccess ρ₂ ε₂)
    (owner : String) (raw : Bytes) :
    ∀ fields : List FieldDescriptor, Alike slices₁.loadSlice slices₂.loadSlice
      (loadFieldsSteps owner raw fields) (decodeFields slices₁ owner raw fields)
      (decodeFields slices₂ owner raw fields)
  | [] => by
      rw [decodeFields, decodeFields, loadFieldsSteps]
      exact alike_pure _
  | f :: rest => by
      rw [decodeFields, decodeFields, loadFieldsSteps]
      exact (decodeField_alike slices₁ slices₂ owner raw f).bind fun _ =>
        (decodeFields_alike slices₁ slices₂ owner raw rest).map _

theorem decodeField_alike (slices₁ : SliceAccess ρ₁ ε₁) (slices₂ : SliceAccess ρ₂ ε₂)
    (owner : String) (raw : Bytes) :
    ∀ f : FieldDescriptor, Alike slices₁.loadSlice slices₂.loadSlice (loadFieldSteps owner raw f)
      (decodeField slices₁ owner raw f) (decodeField slices₂ owner raw f)
  | ⟨name, offset, type⟩ => by
      rw [decodeField, decodeField, loadFieldSteps]
      dsimp only
      split_ifs
      · exact (decodeType_alike slices₁ slices₂ type _).map _
      · exact alike_ask owner name _ fun text => FieldValue.scalar (.string text)
      · cases type.boundaryKind with
        | none => exact alike_refuse (.fieldType owner name type.name .nothing)
        | some kind => exact alike_pure _

end

end GuestBridge
