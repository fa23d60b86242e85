import GuestBridge.Proofs.Layout.Decoding
import GuestBridge.Proofs.Layout.Placement

/-!
# Structs written back

Bytes that are decoded as a type without texts (`TypeDescriptor.Plain`) are encoded again as what
they were, with zeros where no single value stands (`TypeDescriptor.clearGaps`): decoding and
encoding need no slices for that, and every byte of a single value counts
(`Registry.encodeStruct_of_decodeStruct`).
-/

namespace GuestBridge

/-! ## Bytes of single values -/

mutual

/-- The byte belongs to a single value of the type, at whatever depth. -/
def TypeDescriptor.holdsScalar : TypeDescriptor → Nat → Bool
  | .primitive p, i => i < p.size.toNat
  | .struct _ size fields, i => i < size.toNat && fieldsHoldScalar fields i

@[inherit_doc TypeDescriptor.holdsScalar]
def fieldsHoldScalar : List FieldDescriptor → Nat → Bool
  | [], _ => false
  | f :: rest, i => fieldHoldsScalar f i || fieldsHoldScalar rest i

@[inherit_doc TypeDescriptor.holdsScalar]
def fieldHoldsScalar : FieldDescriptor → Nat → Bool
  | ⟨_, offset, type⟩, i => offset.toNat ≤ i && type.holdsScalar (i - offset.toNat)

end

/-- The bytes that a type takes at the start of the given ones, with zeros for those that belong to
no single value. -/
def TypeDescriptor.clearGaps (d : TypeDescriptor) (raw : Bytes) : Bytes :=
  (raw.take d.size.toNat).mapIdx fun i b => if d.holdsScalar i then b else 0

theorem TypeDescriptor.lt_size_of_holdsScalar {d : TypeDescriptor} {i : Nat}
    (h : d.holdsScalar i = true) : i < d.size.toNat := by
  cases d with
  | primitive p =>
      rw [holdsScalar] at h
      exact of_decide_eq_true h
  | struct name size fields =>
      rw [holdsScalar, Bool.and_eq_true] at h
      exact of_decide_eq_true h.1

theorem fieldHoldsScalar_iff {f : FieldDescriptor} {i : Nat} :
    fieldHoldsScalar f i = true ↔
      f.Covers i ∧ f.type.holdsScalar (i - f.offset.toNat) = true := by
  obtain ⟨name, offset, type⟩ := f
  rw [fieldHoldsScalar, Bool.and_eq_true, decide_eq_true_iff, Field.Covers, Field.stop]
  dsimp only
  constructor
  · rintro ⟨hstart, h⟩
    have hstop := TypeDescriptor.lt_size_of_holdsScalar h
    exact ⟨⟨hstart, by omega⟩, h⟩
  · rintro ⟨⟨hstart, -⟩, h⟩
    exact ⟨hstart, h⟩

theorem fieldsHoldScalar_iff {fields : List FieldDescriptor} {i : Nat} :
    fieldsHoldScalar fields i = true ↔ ∃ f ∈ fields, fieldHoldsScalar f i = true := by
  induction fields with
  | nil => simp [fieldsHoldScalar]
  | cons f rest ih => rw [fieldsHoldScalar, Bool.or_eq_true, ih, List.exists_mem_cons_iff]

/-- No byte belongs to two fields. -/
theorem FieldsLaidOut.eq_of_covers {size : UInt32} {fields : List FieldDescriptor}
    (h : FieldsLaidOut size fields) {f g : FieldDescriptor} (hf : f ∈ fields) (hg : g ∈ fields)
    {i : Nat} (hfi : f.Covers i) (hgi : g.Covers i) : f = g := by
  have hapart : fields.Pairwise fun f g => f.stop ≤ g.offset.toNat ∨ g.stop ≤ f.offset.toNat :=
    h.apart.imp Or.inl
  have hsymm : Std.Symm fun f g : FieldDescriptor =>
      f.stop ≤ g.offset.toNat ∨ g.stop ≤ f.offset.toNat := ⟨fun _ _ => Or.symm⟩
  by_contra hne
  have hstops := hapart.forall hf hg hne
  obtain ⟨hfstart, hfstop⟩ := hfi
  obtain ⟨hgstart, hgstop⟩ := hgi
  omega

/-- Of a byte in a field, the type of the field says whether it belongs to a single value. -/
theorem FieldsLaidOut.fieldsHoldScalar_eq {size : UInt32} {fields : List FieldDescriptor}
    (h : FieldsLaidOut size fields) {f : FieldDescriptor} (hf : f ∈ fields) {i : Nat}
    (hi : f.Covers i) : fieldsHoldScalar fields i = f.type.holdsScalar (i - f.offset.toNat) := by
  rw [Bool.eq_iff_iff, fieldsHoldScalar_iff]
  constructor
  · rintro ⟨g, hg, hholds⟩
    obtain ⟨hgi, hholds⟩ := fieldHoldsScalar_iff.1 hholds
    obtain rfl := h.eq_of_covers hf hg hi hgi
    exact hholds
  · exact fun hholds => ⟨f, hf, fieldHoldsScalar_iff.2 ⟨hi, hholds⟩⟩

section ClearGaps

variable {d : TypeDescriptor} {raw : Bytes} (hlength : d.size.toNat ≤ raw.length)
include hlength

theorem TypeDescriptor.length_clearGaps : (d.clearGaps raw).length = d.size.toNat := by
  rw [clearGaps, List.length_mapIdx, List.length_take]
  omega

theorem TypeDescriptor.getElem?_clearGaps {i : Nat} (hi : i < d.size.toNat) :
    (d.clearGaps raw)[i]? = if d.holdsScalar i = true then raw[i]? else some 0 := by
  rw [clearGaps, List.getElem?_mapIdx, List.getElem?_take_of_lt hi,
    List.getElem?_eq_getElem (by omega), Option.map_some]
  split_ifs <;> rfl

end ClearGaps

theorem TypeDescriptor.clearGaps_primitive {p : Primitive} {raw : Bytes}
    (h : raw.length = p.size.toNat) : (TypeDescriptor.primitive p).clearGaps raw = raw := by
  have hlength : (TypeDescriptor.primitive p).size.toNat = raw.length := h.symm
  refine List.ext_getElem? fun i => ?_
  by_cases hi : i < p.size.toNat
  · rw [getElem?_clearGaps hlength.le hi, holdsScalar, if_pos (decide_eq_true hi)]
  · rw [List.getElem?_eq_none (by rw [length_clearGaps hlength.le, hlength]; omega),
      List.getElem?_eq_none (by omega)]

/-- The parts that the fields of a struct take of its bytes, cleared of their gaps. -/
def clearedParts (raw : Bytes) (fields : List FieldDescriptor) : List (Nat × Bytes) :=
  fields.map fun f =>
    (f.offset.toNat, f.type.clearGaps (raw.slice f.offset.toNat f.type.size.toNat))

theorem atFields_clearedParts {raw : Bytes} {fields : List FieldDescriptor}
    (hroom : ∀ f ∈ fields, f.stop ≤ raw.length) : AtFields fields (clearedParts raw fields) := by
  rw [AtFields, clearedParts, List.map_map]
  refine List.map_congr_left fun f hf => ?_
  exact congrArg (Prod.mk f.offset.toNat)
    (TypeDescriptor.length_clearGaps (Bytes.length_slice (hroom f hf)).ge)

/-- Put together, the cleared parts are the cleared bytes of the struct. -/
theorem assemble_clearedParts {name : String} {size : UInt32} {fields : List FieldDescriptor}
    {raw : Bytes} (hlaid : FieldsLaidOut size fields)
    (hlength : (TypeDescriptor.struct name size fields).size.toNat ≤ raw.length) :
    assemble size.toNat (clearedParts raw fields) =
      (TypeDescriptor.struct name size fields).clearGaps raw := by
  have hroom : ∀ f ∈ fields, f.stop ≤ raw.length :=
    fun f hf => Nat.le_trans (hlaid.inside f hf) hlength
  have hplaces := atFields_clearedParts hroom
  have hinside := hplaces.inside hlaid
  refine List.ext_getElem? fun i => ?_
  by_cases hi : i < size.toNat
  · rw [TypeDescriptor.getElem?_clearGaps hlength hi, TypeDescriptor.holdsScalar,
      decide_eq_true hi, Bool.true_and]
    by_cases hcovered : ∃ f ∈ fields, f.Covers i
    · obtain ⟨f, hf, hcovers⟩ := hcovered
      have hpart := slice_assemble hinside (hplaces.apart hlaid) (List.mem_map_of_mem hf)
      have hslice := Bytes.length_slice (hroom f hf)
      rw [TypeDescriptor.length_clearGaps hslice.ge] at hpart
      rw [hlaid.fieldsHoldScalar_eq hf hcovers]
      obtain ⟨hstart, hstop⟩ := hcovers
      rw [Field.stop] at hstop
      have hin : i - f.offset.toNat < f.type.size.toNat := by omega
      rw [Bytes.getElem?_of_slice hpart hstart hstop, TypeDescriptor.getElem?_clearGaps hslice.ge hin,
        ← Bytes.getElem?_of_slice rfl hstart hstop]
    · have hnone : ¬ fieldsHoldScalar fields i = true := by
        rw [fieldsHoldScalar_iff]
        rintro ⟨f, hf, hholds⟩
        exact hcovered ⟨f, hf, (fieldHoldsScalar_iff.1 hholds).1⟩
      rw [if_neg hnone]
      exact hplaces.getElem?_gap hlaid hi fun f hf hcovers => hcovered ⟨f, hf, hcovers⟩
  · rw [List.getElem?_eq_none (by rw [length_assemble hinside]; omega),
      List.getElem?_eq_none (by rw [TypeDescriptor.length_clearGaps hlength]; exact Nat.not_lt.1 hi)]

/-! ## Types without texts -/

/-- Neither the type nor a type that it embeds is kept elsewhere. -/
def TypeDescriptor.Plain (d : TypeDescriptor) : Prop :=
  ∀ e, Relation.ReflTransGen TypeDescriptor.HasFieldType d e → e.isSlice = false

@[simp]
theorem TypeDescriptor.plain_primitive_iff {p : Primitive} :
    (TypeDescriptor.primitive p).Plain ↔ p.isSlice = false := by
  refine ⟨fun h => h _ .refl, fun h e he => ?_⟩
  rcases Relation.ReflTransGen.cases_head he with rfl | ⟨_, ⟨f, hf, -⟩, -⟩
  · exact h
  · cases hf

@[simp]
theorem TypeDescriptor.plain_struct_iff {name : String} {size : UInt32}
    {fields : List FieldDescriptor} :
    (TypeDescriptor.struct name size fields).Plain ↔ ∀ f ∈ fields, f.type.Plain := by
  refine ⟨fun h f hf e he => h e (.head ⟨f, hf, rfl⟩ he), fun h e he => ?_⟩
  rcases Relation.ReflTransGen.cases_head he with rfl | ⟨_, ⟨f, hf, rfl⟩, he⟩
  · rfl
  · exact h f hf e he

/-! ## Writing back -/

theorem StructValue.get?_of_mem {typeName : String} {values : List (String × FieldValue)}
    (hnames : (values.map Prod.fst).Nodup) {given : String × FieldValue} (h : given ∈ values) :
    StructValue.get? ⟨typeName, values⟩ given.1 = some given.2 := by
  induction values with
  | nil => cases h
  | cons first rest ih =>
      rw [List.map_cons, List.nodup_cons] at hnames
      rw [get?_cons]
      rcases List.mem_cons.1 h with rfl | h
      · rw [if_pos rfl]
      · have hne : ¬ first.1 = given.1 := fun hname =>
          hnames.1 (hname ▸ List.mem_map_of_mem h)
        rw [if_neg hne, ih hnames.2 h]

theorem encodeField_struct {ρ ε : Type} (slices : SliceAccess ρ ε) (owner : String)
    {v w : StructValue} {f : FieldDescriptor} (hget : v.get? f.name = some (.ofStruct w))
    (hstruct : f.type.isStruct = true) :
    encodeField slices owner v f = encodeType slices f.type w := by
  obtain ⟨name, offset, type⟩ := f
  rw [encodeField, hget]
  exact if_pos hstruct

theorem encodeField_scalar {ρ ε : Type} (slices : SliceAccess ρ ε) (owner : String)
    {v : StructValue} {f : FieldDescriptor} {value : Value}
    (hget : v.get? f.name = some (.scalar value)) (hstruct : f.type.isStruct = false)
    (hkind : f.type.boundaryKind = some value.kind) (hstring : value.kind ≠ .string) :
    encodeField slices owner v f = pure value.bytes := by
  obtain ⟨name, offset, type⟩ := f
  dsimp only at hget hstruct hkind
  rw [encodeField, hget]
  cases value with
  | string text => exact absurd rfl hstring
  | _ =>
      dsimp only
      rw [if_pos (by simp [hstruct, hkind])]

mutual

/-- Bytes of a type without texts are decoded without a request, and what they are decoded as is
encoded without one, as the bytes cleared of gaps. -/
theorem encodeType_of_decodeType : ∀ (type : TypeDescriptor) {raw : Bytes}, type.LaidOut →
    type.isStruct = true → type.Plain → type.size.toNat ≤ raw.length →
      ∃ v : StructValue,
        (∀ {ρ ε : Type} (slices : SliceAccess ρ ε), decodeType slices type raw = pure v) ∧
        ∀ {ρ ε : Type} (slices : SliceAccess ρ ε),
          encodeType slices type v = pure (type.clearGaps raw)
  | .primitive p, raw, _, hstruct, _, _ => by cases hstruct
  | .struct name size fields, raw, hlaid, _, hplain, hlength => by
      have hfields : FieldsLaidOut size fields := hlaid _ .refl
      obtain ⟨values, hnames, hdecode, hencode⟩ := encodeFields_of_decodeFields name fields
        (fun f hf => hlaid.of_mem hf) hfields.size_ne_zero (TypeDescriptor.plain_struct_iff.1 hplain)
        fun f hf => Nat.le_trans (hfields.inside f hf) hlength
      -- Names are told apart, so each field finds the very value that was decoded for it.
      have hget : ∀ given ∈ values, StructValue.get? ⟨name, values⟩ given.1 = some given.2 :=
        fun given hgiven => StructValue.get?_of_mem (hnames ▸ hfields.names_nodup) hgiven
      have hknown : (values.find? fun given => !fields.any fun f => f.name = given.1) = none := by
        rw [List.find?_eq_none]
        intro given hgiven
        have hname : given.1 ∈ fields.map Field.name := hnames ▸ List.mem_map_of_mem hgiven
        simpa using hname
      refine ⟨⟨name, values⟩, fun slices => ?_, fun slices => ?_⟩
      · rw [decodeType_struct, hdecode slices]
        exact if_neg (Nat.not_lt.2 hlength)
      · rw [encodeType_struct, if_neg (not_not.2 rfl)]
        dsimp only
        rw [hknown, hencode _ hget slices]
        rw [pure_bind, assemble_clearedParts hfields hlength]

theorem encodeFields_of_decodeFields (owner : String) : ∀ (fields : List FieldDescriptor)
    {raw : Bytes}, (∀ f ∈ fields, f.type.LaidOut) → (∀ f ∈ fields, f.type.size ≠ 0) →
      (∀ f ∈ fields, f.type.Plain) → (∀ f ∈ fields, f.stop ≤ raw.length) →
        ∃ values, values.map Prod.fst = fields.map Field.name ∧
          (∀ {ρ ε : Type} (slices : SliceAccess ρ ε),
            decodeFields slices owner raw fields = pure values) ∧
          ∀ v : StructValue, (∀ given ∈ values, v.get? given.1 = some given.2) →
            ∀ {ρ ε : Type} (slices : SliceAccess ρ ε),
              encodeFields slices owner v fields = pure (clearedParts raw fields)
  | [], raw, _, _, _, _ => ⟨[], rfl, fun _ => rfl, fun _ _ _ _ _ => rfl⟩
  | f :: rest, raw, hlaid, hsize, hplain, hroom => by
      rw [List.forall_mem_cons] at hlaid hsize hplain hroom
      obtain ⟨value, hdecode, hencode⟩ :=
        encodeField_of_decodeField owner f hlaid.1 hsize.1 hplain.1 hroom.1
      obtain ⟨values, hnames, hdecodeRest, hencodeRest⟩ :=
        encodeFields_of_decodeFields owner rest hlaid.2 hsize.2 hplain.2 hroom.2
      refine ⟨(f.name, value) :: values, congrArg (f.name :: ·) hnames, fun slices => ?_,
        fun v hget _ _ slices => ?_⟩
      · rw [decodeFields, hdecode slices, hdecodeRest slices]
        rfl
      · rw [List.forall_mem_cons] at hget
        rw [encodeFields, hencode v hget.1 slices, hencodeRest v hget.2 slices]
        rfl

theorem encodeField_of_decodeField (owner : String) : ∀ (f : FieldDescriptor) {raw : Bytes},
    f.type.LaidOut → f.type.size ≠ 0 → f.type.Plain → f.stop ≤ raw.length →
      ∃ value,
        (∀ {ρ ε : Type} (slices : SliceAccess ρ ε), decodeField slices owner raw f = pure value) ∧
        ∀ v : StructValue, v.get? f.name = some value →
          ∀ {ρ ε : Type} (slices : SliceAccess ρ ε), encodeField slices owner v f =
            pure (f.type.clearGaps (raw.slice f.offset.toNat f.type.size.toNat))
  | ⟨name, offset, type⟩, raw, hlaid, hsize, hplain, hroom => by
      have hlength := Bytes.length_slice hroom
      by_cases hstruct : type.isStruct = true
      · obtain ⟨w, hdecode, hencode⟩ :=
          encodeType_of_decodeType type hlaid hstruct hplain hlength.ge
        refine ⟨.ofStruct w, fun slices => ?_, fun v hget _ _ slices => ?_⟩
        · rw [decodeField]
          dsimp only
          rw [if_pos hstruct, hdecode slices]
          rfl
        · rw [encodeField_struct slices owner hget hstruct]
          exact hencode slices
      · have hslice : type.isSlice = false := hplain _ .refl
        obtain ⟨kind, hkind⟩ := TypeDescriptor.exists_boundaryKind hsize
        refine ⟨.scalar (.ofBytes kind (raw.slice offset.toNat type.size.toNat)), fun slices => ?_,
          fun v hget _ _ slices => ?_⟩
        · rw [decodeField]
          dsimp only at hkind ⊢
          rw [if_neg hstruct, if_neg (by simp [hslice]), hkind]
        · cases type with
          | struct _ _ _ => exact absurd rfl hstruct
          | primitive p =>
              have hstring : kind ≠ .string := by
                rintro rfl
                rw [TypeDescriptor.isSlice_of_boundaryKind rfl hkind] at hslice
                cases hslice
              rw [encodeField_scalar slices owner hget rfl (by rw [Value.kind_ofBytes]; exact hkind)
                (by rwa [Value.kind_ofBytes])]
              dsimp only
              rw [TypeDescriptor.clearGaps_primitive hlength]
              exact congrArg pure (Primitive.bytes_ofBytes hkind hslice hlength)

end

namespace Registry

/-- Bytes of a registered struct type without texts are decoded without a load, and what they are
decoded as is encoded without a store, as the bytes of the type with every byte that belongs to no
single value replaced by zero.  So bytes that differ in a byte of a single value are decoded as
different values. -/
theorem encodeStruct_of_decodeStruct (requests : List RegistryRequest) {name : String}
    {d : TypeDescriptor} (hd : (primitives.afterAll requests).get? name = some d)
    (hstruct : d.isStruct = true) (hplain : d.Plain) {raw : Bytes}
    (hlength : d.size.toNat ≤ raw.length) :
    ∃ v, (∀ {ρ ε : Type} (slices : SliceAccess ρ ε), decodeStruct slices d raw = pure v) ∧
      (∀ {ρ ε : Type} (slices : SliceAccess ρ ε),
        encodeStruct slices d v = pure (d.clearGaps raw)) ∧
      ∀ raw' : Bytes, d.size.toNat ≤ raw'.length →
        ∀ i, d.holdsScalar i = true → raw'[i]? ≠ raw[i]? →
          ∃ v', (∀ {ρ ε : Type} (slices : SliceAccess ρ ε), decodeStruct slices d raw' = pure v') ∧
            v' ≠ v := by
  have hlaid : d.LaidOut := (wellFormed_afterAll requests).laidOut hd
  obtain ⟨v, hdecode, hencode⟩ := encodeType_of_decodeType d hlaid hstruct hplain hlength
  refine ⟨v, hdecode, hencode, fun raw' hlength' i hi hdiffer => ?_⟩
  obtain ⟨v', hdecode', hencode'⟩ := encodeType_of_decodeType d hlaid hstruct hplain hlength'
  refine ⟨v', hdecode', ?_⟩
  rintro rfl
  -- One value has one encoding, and so the cleared bytes would be the same.
  have hbytes : d.clearGaps raw' = d.clearGaps raw := by
    have hsame := (hencode' numberedSlices).symm.trans (hencode numberedSlices)
    exact Except.ok.inj (congrArg (fun c => (Fallible.from c []).1) hsame)
  have hsize := TypeDescriptor.lt_size_of_holdsScalar hi
  have hbyte := congrArg (fun bytes : Bytes => bytes[i]?) hbytes
  simp only [TypeDescriptor.getElem?_clearGaps hlength' hsize,
    TypeDescriptor.getElem?_clearGaps hlength hsize, if_pos hi] at hbyte
  exact hdiffer hbyte

/-- A struct with a gap, another one in the struct that it embeds, and bytes behind its fields. -/
def cellRequests : List RegistryRequest :=
  [.register [⟨"cell", 24, [⟨"set", 0, "bool"⟩, ⟨"mark", 8, "mark"⟩]⟩,
    ⟨"mark", 12, [⟨"weight", 0, "f32"⟩, ⟨"id", 8, "u32"⟩]⟩]]

/-- The structs of `cellRequests`. -/
def cellType : TypeDescriptor :=
  .struct "cell" 24 [⟨"set", 0, .primitive .bool⟩,
    ⟨"mark", 8, .struct "mark" 12
      [⟨"weight", 0, .primitive .f32⟩, ⟨"id", 8, .primitive .u32⟩]⟩]

/-- A cell whose weight is a NaN with the payload; its gaps are not zero. -/
def cellBytes (payload : UInt8) : Bytes :=
  [1, 0, 0, 0, 255, 255, 255, 255, payload, 0, 192, 127, 255, 255, 255, 255, 9, 0, 0, 0,
    255, 255, 255, 255, 255]

theorem encodeStruct_of_decodeStruct_cell :
    ∃ v v', v' ≠ v ∧
      decodeStruct numberedSlices cellType (cellBytes 35) = pure v ∧
      decodeStruct numberedSlices cellType (cellBytes 36) = pure v' ∧
      encodeStruct numberedSlices cellType v =
        pure [1, 0, 0, 0, 0, 0, 0, 0, 35, 0, 192, 127, 0, 0, 0, 0, 9, 0, 0, 0, 0, 0, 0, 0] := by
  have hget : (primitives.afterAll cellRequests).get? "cell" = some cellType := by cbv
  have hplain : cellType.Plain := by
    simp [cellType, Primitive.isSlice]
  have hlength : ∀ payload, cellType.size.toNat ≤ (cellBytes payload).length :=
    fun payload => (by decide : 24 ≤ 25)
  obtain ⟨v, hdecode, hencode, hdiffer⟩ :=
    encodeStruct_of_decodeStruct cellRequests hget rfl hplain (hlength 35)
  obtain ⟨v', hdecode', hne⟩ :=
    hdiffer (cellBytes 36) (hlength 36) 8 (by cbv) (by decide)
  refine ⟨v, v', hne, hdecode numberedSlices, hdecode' numberedSlices, ?_⟩
  rw [hencode numberedSlices]
  exact congrArg pure (by cbv)

end Registry

end GuestBridge
