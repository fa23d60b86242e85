import GuestBridge.Proofs.Layout.Codec

/-!
# Codecs in place

`writeType` encodes in place: it starts from a buffer of zeros and overwrites the bytes of each part
as soon as it has them.  `readType` decodes by taking every word out of the bytes by itself.  Both
stop where bytes outside of those at hand are asked for (`InPlaceError.outside`).  For a type that is
laid out they never do: from every state and with every `SliceAccess` they come to the same as
`encodeType` and `decodeType` (`writeType_eq`, `readType_eq`).  The one fact this needs of an
encoding is that every part takes the bytes of its type (`length_of_encodeType`).
-/

namespace GuestBridge

variable {ρ ε : Type}

/-! ## Within bounds -/

/-- Why a codec that works in place stops: it refuses or fails, or bytes outside of those at hand
are asked for. -/
inductive InPlaceError (ε : Type) where
  | codec (e : CodecError ε)
  | outside (start size available : Nat)

/-- A codec that works in place. -/
abbrev InPlaceM (ρ ε : Type) := Fallible ρ (InPlaceError ε)

/-- Overwrites bytes of a buffer. -/
def putBytes (buffer : Bytes) (start : Nat) (part : Bytes) : InPlaceM ρ ε Bytes :=
  if start + part.length ≤ buffer.length then pure (buffer.splice start part)
  else throw (.outside start part.length buffer.length)

/-- Takes bytes out of a buffer. -/
def takeBytes (buffer : Bytes) (start size : Nat) : InPlaceM ρ ε Bytes :=
  if start + size ≤ buffer.length then pure (buffer.slice start size)
  else throw (.outside start size buffer.length)

theorem putBytes_of_le {buffer part : Bytes} {start : Nat}
    (h : start + part.length ≤ buffer.length) :
    (putBytes buffer start part : InPlaceM ρ ε Bytes) = pure (buffer.splice start part) :=
  if_pos h

theorem takeBytes_of_le {buffer : Bytes} {start size : Nat} (h : start + size ≤ buffer.length) :
    (takeBytes buffer start size : InPlaceM ρ ε Bytes) = pure (buffer.slice start size) :=
  if_pos h

/-! ## Encoding in place -/

mutual

/-- Lays a struct value out in a buffer of zeros. -/
def writeType (slices : SliceAccess ρ ε) : TypeDescriptor → StructValue → InPlaceM ρ ε Bytes
  | .primitive p, _ => throw (.codec (.notAStruct p.name))
  | .struct name size fields, v =>
      if v.typeName ≠ name then throw (.codec (.wrongStruct name v.typeName))
      else
        match v.fields.find? fun given => !fields.any fun f => f.name = given.1 with
        | some (field, _) => throw (.codec (.unknownField name field))
        | none => writeFields slices name v (List.replicate size.toNat 0) fields

/-- Overwrites the bytes of each field, in the order of the type. -/
def writeFields (slices : SliceAccess ρ ε) (owner : String) (v : StructValue) (buffer : Bytes) :
    List FieldDescriptor → InPlaceM ρ ε Bytes
  | [] => pure buffer
  | f :: rest => do
      let buffer ← writeField slices owner v buffer f
      writeFields slices owner v buffer rest

/-- Overwrites the bytes of one field; the two words of a text one after the other. -/
def writeField (slices : SliceAccess ρ ε) (owner : String) (v : StructValue) (buffer : Bytes) :
    FieldDescriptor → InPlaceM ρ ε Bytes
  | ⟨name, offset, type⟩ =>
      match v.get? name with
      | none => throw (.codec (.missingField owner name))
      | some (.struct inner fields) =>
          if type.isStruct then do
            let part ← writeType slices type ⟨inner, fields⟩
            putBytes buffer offset.toNat part
          else throw (.codec (.fieldType owner name type.name (.struct inner)))
      | some (.scalar value) =>
          match value with
          | .string text =>
              if type.isSlice then do
                let slice ← ExceptT.adapt InPlaceError.codec
                  (forField owner name (slices.store text))
                let buffer ← putBytes buffer offset.toNat (Bytes.ofUInt32 slice.1)
                putBytes buffer (offset.toNat + 4) (Bytes.ofUInt32 slice.2)
              else throw (.codec (.fieldType owner name type.name (.scalar .string)))
          | value =>
              if !type.isStruct && type.boundaryKind == some value.kind then
                putBytes buffer offset.toNat value.bytes
              else throw (.codec (.fieldType owner name type.name (.scalar value.kind)))

end

/-- The two words of a text are put where the field is. -/
theorem putBytes_ofUInt32 {buffer : Bytes} {start : Nat} (h : start + 8 ≤ buffer.length)
    (slice : UInt32 × UInt32) :
    (putBytes buffer start (Bytes.ofUInt32 slice.1) >>= fun buffer =>
        putBytes buffer (start + 4) (Bytes.ofUInt32 slice.2) : InPlaceM ρ ε Bytes) =
      pure (buffer.splice start (Bytes.ofUInt32 slice.1 ++ Bytes.ofUInt32 slice.2)) := by
  have hfirst : start + (Bytes.ofUInt32 slice.1).length ≤ buffer.length := by
    rw [Bytes.length_ofUInt32]
    omega
  have hsecond : start + 4 + (Bytes.ofUInt32 slice.2).length ≤
      (buffer.splice start (Bytes.ofUInt32 slice.1)).length := by
    rw [Bytes.length_splice hfirst, Bytes.length_ofUInt32]
    omega
  rw [putBytes_of_le hfirst, pure_bind, putBytes_of_le hsecond]
  have hboth : start + (Bytes.ofUInt32 slice.1).length + (Bytes.ofUInt32 slice.2).length ≤
      buffer.length := by
    rw [Bytes.length_ofUInt32, Bytes.length_ofUInt32]
    omega
  rw [← Bytes.splice_splice hboth, Bytes.length_ofUInt32]

mutual

/-- Encoding a type that is laid out never leaves its buffer: in place it comes to the same. -/
theorem writeType_eq (slices : SliceAccess ρ ε) : ∀ (type : TypeDescriptor) (v : StructValue),
    type.LaidOut →
      writeType slices type v = ExceptT.adapt InPlaceError.codec (encodeType slices type v)
  | .primitive p, v, _ => by
      rw [writeType, encodeType]
      rfl
  | .struct name size fields, v, hlaid => by
      have hfields : FieldsLaidOut size fields := hlaid _ .refl
      rw [writeType, encodeType_struct]
      split_ifs
      · rfl
      cases v.fields.find? fun given => !fields.any fun f => f.name = given.1 with
      | some given => rfl
      | none =>
          dsimp only
          rw [writeFields_eq slices name v fields (fun f hf => hlaid.of_mem hf) fun f hf => ?_,
            Fallible.adapt_bind]
          · rfl
          · rw [List.length_replicate]
            exact hfields.inside f hf

theorem writeFields_eq (slices : SliceAccess ρ ε) (owner : String) (v : StructValue) :
    ∀ (fields : List FieldDescriptor) {buffer : Bytes}, (∀ f ∈ fields, f.type.LaidOut) →
      (∀ f ∈ fields, f.stop ≤ buffer.length) →
        writeFields slices owner v buffer fields =
          ExceptT.adapt InPlaceError.codec (encodeFields slices owner v fields) >>= fun parts =>
            pure (parts.foldl (fun buffer part => buffer.splice part.1 part.2) buffer)
  | [], buffer, _, _ => by
      rw [writeFields, encodeFields]
      rfl
  | f :: rest, buffer, hlaid, hroom => by
      rw [List.forall_mem_cons] at hlaid hroom
      rw [writeFields, encodeFields, writeField_eq slices owner v f hlaid.1 hroom.1,
        Fallible.adapt_bind, bind_assoc, bind_assoc]
      -- What the first field leaves of the buffer is as long as before, so the others fit as well.
      refine Fallible.bind_congr_of_ok fun part s s' hpart => ?_
      have hlength : part.length = f.type.size.toNat :=
        length_of_encodeField owner v f hlaid.1 (Fallible.adapt_from_ok_iff.1 hpart)
      have hbuffer : (buffer.splice f.offset.toNat part).length = buffer.length :=
        Bytes.length_splice (by rw [hlength]; exact hroom.1)
      rw [pure_bind, writeFields_eq slices owner v rest hlaid.2
        (by rw [hbuffer]; exact hroom.2), Fallible.adapt_bind, bind_assoc]
      rfl

theorem writeField_eq (slices : SliceAccess ρ ε) (owner : String) (v : StructValue) :
    ∀ (f : FieldDescriptor) {buffer : Bytes}, f.type.LaidOut → f.stop ≤ buffer.length →
      writeField slices owner v buffer f =
        ExceptT.adapt InPlaceError.codec (encodeField slices owner v f) >>= fun part =>
          pure (buffer.splice f.offset.toNat part)
  | ⟨name, offset, type⟩, buffer, hlaid, hroom => by
      rw [Field.stop] at hroom
      dsimp only at hroom
      rw [writeField, encodeField]
      rcases v.get? name with _ | value | ⟨inner, fields⟩
      · rfl
      · cases value with
        | string text =>
            dsimp only
            split_ifs with hslice
            · obtain ⟨-, hsize⟩ := TypeDescriptor.not_isStruct_of_isSlice hslice
              rw [hsize] at hroom
              rw [Fallible.adapt_bind, bind_assoc]
              refine congrArg _ (funext fun slice => ?_)
              rw [putBytes_ofUInt32 hroom]
              rfl
            · rfl
        | _ =>
            dsimp only
            split_ifs with hfits
            · simp only [Bool.and_eq_true, Bool.not_eq_true', beq_iff_eq] at hfits
              rw [Fallible.adapt_pure, pure_bind, putBytes_of_le]
              cases type with
              | struct _ _ _ => cases hfits.1
              | primitive p =>
                  rw [Primitive.size_of_boundaryKind hfits.2 (by simp [Value.kind])]
                  exact hroom
            · rfl
      · dsimp only
        split_ifs
        · rw [writeType_eq slices type _ hlaid]
          refine Fallible.bind_congr_of_ok fun part s s' hpart => putBytes_of_le ?_
          rw [length_of_encodeType type hlaid (Fallible.adapt_from_ok_iff.1 hpart)]
          exact hroom
        · rfl

end

/-! ## Decoding in place -/

/-- Reads a value of a kind: a number from the word at the start of the bytes, a text from all of
them. -/
def readScalar (kind : Kind) (part : Bytes) : InPlaceM ρ ε Value :=
  match kind with
  | .u32 | .i32 | .f32 => do
      let word ← takeBytes part 0 4
      return .ofBytes kind word
  | .u64 | .i64 | .f64 => do
      let word ← takeBytes part 0 8
      return .ofBytes kind word
  | .string => return .ofBytes .string part

mutual

/-- Reads a struct, each field from bytes of its own. -/
def readType (slices : SliceAccess ρ ε) : TypeDescriptor → Bytes → InPlaceM ρ ε StructValue
  | .primitive p, _ => throw (.codec (.notAStruct p.name))
  | .struct name size fields, raw =>
      if raw.length < size.toNat then throw (.codec (.truncated name size.toNat raw.length))
      else do
        let values ← readFields slices name raw fields
        return ⟨name, values⟩

/-- Reads each field, in the order of the type. -/
def readFields (slices : SliceAccess ρ ε) (owner : String) (raw : Bytes) :
    List FieldDescriptor → InPlaceM ρ ε (List (String × FieldValue))
  | [] => return []
  | f :: rest => do
      let value ← readField slices owner raw f
      let values ← readFields slices owner raw rest
      return (f.name, value) :: values

/-- Reads one field; the two words of a text one after the other. -/
def readField (slices : SliceAccess ρ ε) (owner : String) (raw : Bytes) :
    FieldDescriptor → InPlaceM ρ ε FieldValue
  | ⟨name, offset, type⟩ => do
      let part ← takeBytes raw offset.toNat type.size.toNat
      if type.isStruct then
        let v ← readType slices type part
        return .ofStruct v
      else if type.isSlice then
        let address ← takeBytes part 0 4
        let length ← takeBytes part 4 4
        let text ← ExceptT.adapt InPlaceError.codec
          (forField owner name (slices.load address.toUInt32 length.toUInt32))
        return .scalar (.string text)
      else
        match type.boundaryKind with
        | some kind =>
            let value ← readScalar kind part
            return .scalar value
        | none => throw (.codec (.fieldType owner name type.name .nothing))

end

/-- The word that a value is read from is inside the bytes of its type. -/
theorem readScalar_eq {p : Primitive} {kind : Kind} {part : Bytes}
    (hkind : p.boundaryKind = some kind) (hlength : part.length = p.size.toNat) :
    (readScalar kind part : InPlaceM ρ ε Value) = pure (.ofBytes kind part) := by
  have hword : ∀ {width : Nat}, width ≤ p.size.toNat →
      (takeBytes part 0 width : InPlaceM ρ ε Bytes) = pure (part.take width) := by
    intro width hwidth
    rw [takeBytes_of_le (by omega), Bytes.slice, List.drop_zero]
  cases p <;> simp only [Primitive.boundaryKind, Option.some.injEq, reduceCtorEq] at hkind <;>
    subst hkind <;> rw [readScalar]
  all_goals
    first
    | rfl
    | rw [hword (by decide), pure_bind, Value.ofBytes, Value.ofBytes]
      simp [Bytes.toUInt32, Bytes.toUInt64, List.take_take]

mutual

/-- Decoding a type that is laid out never leaves the bytes: in place it comes to the same. -/
theorem readType_eq (slices : SliceAccess ρ ε) : ∀ (type : TypeDescriptor) (raw : Bytes),
    type.LaidOut →
      readType slices type raw = ExceptT.adapt InPlaceError.codec (decodeType slices type raw)
  | .primitive p, raw, _ => by
      rw [readType, decodeType]
      rfl
  | .struct name size fields, raw, hlaid => by
      have hfields : FieldsLaidOut size fields := hlaid _ .refl
      rw [readType, decodeType_struct]
      split_ifs with hshort
      · rfl
      rw [readFields_eq slices name raw fields (fun f hf => hlaid.of_mem hf) fun f hf =>
          Nat.le_trans (hfields.inside f hf) (Nat.not_lt.1 hshort), Fallible.adapt_bind]
      rfl

theorem readFields_eq (slices : SliceAccess ρ ε) (owner : String) (raw : Bytes) :
    ∀ fields : List FieldDescriptor, (∀ f ∈ fields, f.type.LaidOut) →
      (∀ f ∈ fields, f.stop ≤ raw.length) →
        readFields slices owner raw fields =
          ExceptT.adapt InPlaceError.codec (decodeFields slices owner raw fields)
  | [], _, _ => by
      rw [readFields, decodeFields]
      rfl
  | f :: rest, hlaid, hroom => by
      rw [List.forall_mem_cons] at hlaid hroom
      rw [readFields, decodeFields, readField_eq slices owner raw f hlaid.1 hroom.1,
        readFields_eq slices owner raw rest hlaid.2 hroom.2, Fallible.adapt_bind]
      refine congrArg _ (funext fun value => ?_)
      rw [Fallible.adapt_bind]
      rfl

theorem readField_eq (slices : SliceAccess ρ ε) (owner : String) (raw : Bytes) :
    ∀ f : FieldDescriptor, f.type.LaidOut → f.stop ≤ raw.length →
      readField slices owner raw f =
        ExceptT.adapt InPlaceError.codec (decodeField slices owner raw f)
  | ⟨name, offset, type⟩, hlaid, hroom => by
      rw [Field.stop] at hroom
      dsimp only at hroom
      have hlength := Bytes.length_slice hroom
      rw [readField, decodeField, takeBytes_of_le hroom, pure_bind]
      dsimp only
      split_ifs with hstruct hslice
      · rw [readType_eq slices type _ hlaid, Fallible.adapt_bind]
        rfl
      · obtain ⟨-, hsize⟩ := TypeDescriptor.not_isStruct_of_isSlice hslice
        rw [hsize] at hlength
        change _ = 8 at hlength
        rw [hsize, takeBytes_of_le (by omega), pure_bind, takeBytes_of_le (by omega), pure_bind,
          Fallible.adapt_bind, Bytes.toUInt32_slice, Bytes.toUInt32_slice, List.drop_zero]
        rfl
      · cases hkind : type.boundaryKind with
        | none => rfl
        | some kind =>
            cases type with
            | struct _ _ _ => exact absurd rfl hstruct
            | primitive p =>
                dsimp only
                rw [readScalar_eq hkind hlength, pure_bind]
                rfl

end

end GuestBridge
