import GuestBridge.Proofs.Layout.Course
import GuestBridge.Proofs.Layout.InPlace

/-!
# Where the bytes of a struct stand

`FieldHolds` says what stands for one field of a struct value, given the texts that were stored on
its behalf, and `EncodedAs` that the bytes of a struct have the size of its type, hold each field
where the type places it, and are zero elsewhere.  Every encoding is of this form
(`encodedAs_of_encodeType`), and what stands for a field follows from its value and from the slices
of its texts (`FieldHolds.eq`).  So values that differ in one field are encoded as bytes that differ
in that field (`EncodedAs.getElem?_eq`).
-/

namespace GuestBridge

variable {ρ ε : Type} {slices : SliceAccess ρ ε} {s s' : ρ}

/-- A text that was stored, with the address and the length it was answered. -/
abbrev StoredText := String × UInt32 × UInt32

/-- The texts of a struct value in the order in which they are stored. -/
def storedTexts (type : TypeDescriptor) (v : StructValue) : List String :=
  wanted (storeSteps type v)

/-- The byte belongs to the field. -/
def Field.Covers (f : FieldDescriptor) (i : Nat) : Prop :=
  f.offset.toNat ≤ i ∧ i < f.stop

/-- What stands for a field of a struct value when the texts were stored on its behalf: the bytes of
a single value, the address and the length of the slice of a text, or the encoding of a struct. -/
inductive FieldHolds (slices : SliceAccess ρ ε) (v : StructValue) (f : FieldDescriptor) :
    List StoredText → Bytes → Prop where
  | scalar {value : Value} (given : v.get? f.name = some (.scalar value))
      (plain : value.kind ≠ .string) (kind : f.type.boundaryKind = some value.kind) :
      FieldHolds slices v f [] value.bytes
  | text {text : String} {address length : UInt32}
      (given : v.get? f.name = some (.scalar (.string text))) (slice : f.type.isSlice = true) :
      FieldHolds slices v f [(text, address, length)]
        (Bytes.ofUInt32 address ++ Bytes.ofUInt32 length)
  | struct {w : StructValue} {s s' : ρ} {stored : List StoredText} {part : Bytes}
      (given : v.get? f.name = some (.ofStruct w)) (sort : f.type.isStruct = true)
      (asked : Asked slices.store s stored s')
      (texts : stored.map Prod.fst = storedTexts f.type w)
      (encoded : (encodeStruct slices f.type w).from s = (.ok part, s')) :
      FieldHolds slices v f stored part

/-- The bytes of a struct value that is encoded from one state to another, when the texts of each
field are stored as `stored` says: they have the size of the type, hold each field in its place, and
are zero where no field is. -/
structure EncodedAs (slices : SliceAccess ρ ε) (d : TypeDescriptor) (v : StructValue) (s : ρ)
    (stored : String → List StoredText) (bytes : Bytes) (s' : ρ) : Prop where
  length_eq : bytes.length = d.size.toNat
  asked : Asked slices.store s (d.fields.flatMap fun f => stored f.name) s'
  holds : ∀ f ∈ d.fields, FieldHolds slices v f (stored f.name)
    (bytes.slice f.offset.toNat f.type.size.toNat)
  gap : ∀ i < d.size.toNat, (∀ f ∈ d.fields, ¬ f.Covers i) → bytes[i]? = some 0

/-- A value that is laid out in place needs no text stored. -/
theorem FieldHolds.stored_eq_nil {v : StructValue} {f : FieldDescriptor} {stored : List StoredText}
    {part : Bytes} (h : FieldHolds slices v f stored part) (hstruct : f.type.isStruct = false)
    (hslice : f.type.isSlice = false) : stored = [] := by
  cases h with
  | scalar _ _ _ => rfl
  | text _ slice =>
      rw [hslice] at slice
      cases slice
  | struct _ sort _ _ _ =>
      rw [hstruct] at sort
      cases sort

/-! ## Every encoding is of this form -/

/-- Where no field is, the bytes of a struct are zero. -/
theorem AtFields.getElem?_gap {size : UInt32} {fields : List FieldDescriptor}
    {parts : List (Nat × Bytes)} (h : AtFields fields parts) (hlaid : FieldsLaidOut size fields)
    {i : Nat} (hi : i < size.toNat) (hgap : ∀ f ∈ fields, ¬ f.Covers i) :
    (assemble size.toNat parts)[i]? = some 0 := by
  refine getElem?_assemble (h.inside hlaid) hi fun p hp => ?_
  obtain ⟨f, hf, hstart, hsize⟩ := h.exists_field p hp
  have hcovers := hgap f hf
  rw [Field.Covers, Field.stop] at hcovers
  omega

theorem exists_fieldHolds {owner : String} {v : StructValue} {f : FieldDescriptor} {part : Bytes}
    (h : (encodeField slices owner v f).from s = (.ok part, s')) :
    ∃ stored, Asked slices.store s stored s' ∧ FieldHolds slices v f stored part := by
  rcases encodeField_ok h with ⟨w, hget, hstruct, hw⟩ |
    ⟨text, address, length, hget, hslice, hstore, rfl⟩ |
    ⟨value, hget, -, hstring, hkind, rfl, rfl⟩
  · obtain ⟨stored, hasked, htexts⟩ := (encodeType_alike slices slices f.type w).exists_asked hw
    exact ⟨stored, hasked, .struct hget hstruct hasked htexts hw⟩
  · exact ⟨[(text, address, length)], .next hstore (.done s'), .text hget hslice⟩
  · exact ⟨[], .done _, .scalar hget hstring hkind⟩

/-- Fields of different names are encoded one after the other, each from texts of its own. -/
theorem exists_fieldsHold {owner : String} {v : StructValue} {fields : List FieldDescriptor}
    {parts : List (Nat × Bytes)} (hnames : (fields.map Field.name).Nodup)
    (hlaid : ∀ f ∈ fields, f.type.LaidOut)
    (h : (encodeFields slices owner v fields).from s = (.ok parts, s')) :
    ∃ stored : String → List StoredText,
      Asked slices.store s (fields.flatMap fun f => stored f.name) s' ∧
        ∀ f ∈ fields, ∃ part, (f.offset.toNat, part) ∈ parts ∧
          part.length = f.type.size.toNat ∧ FieldHolds slices v f (stored f.name) part := by
  induction fields generalizing s parts with
  | nil =>
      cases h
      exact ⟨fun _ => [], .done _, by simp⟩
  | cons f rest ih =>
      rw [List.map_cons, List.nodup_cons] at hnames
      rw [List.forall_mem_cons] at hlaid
      obtain ⟨part, s₁, later, hpart, hlater, rfl⟩ := encodeFields_cons_ok h
      obtain ⟨first, hfirst, hholds⟩ := exists_fieldHolds hpart
      obtain ⟨stored, hasked, hrest⟩ := ih hnames.2 hlaid.2 hlater
      -- What is stored for the first field is put beside the rest, under a name that no other has.
      obtain ⟨all, hself, hother⟩ : ∃ all : String → List StoredText,
          all f.name = first ∧ ∀ g ∈ rest, all g.name = stored g.name := by
        refine ⟨fun name => if name = f.name then first else stored name, if_pos rfl, fun g hg => ?_⟩
        refine if_neg fun hname => hnames.1 ?_
        rw [← hname]
        exact List.mem_map_of_mem hg
      refine ⟨all, ?_, List.forall_mem_cons.2 ⟨?_, fun g hg => ?_⟩⟩
      · rw [List.flatMap_cons, hself, List.flatMap_congr hother]
        exact hfirst.append hasked
      · rw [hself]
        exact ⟨part, List.mem_cons_self, length_of_encodeField owner v f hlaid.1 hpart, hholds⟩
      · obtain ⟨part', hmem, hg'⟩ := hrest g hg
        rw [hother g hg]
        exact ⟨part', List.mem_cons_of_mem _ hmem, hg'⟩

theorem encodedAs_of_encodeType {d : TypeDescriptor} (hlaid : d.LaidOut) {v : StructValue}
    {bytes : Bytes} (h : (encodeStruct slices d v).from s = (.ok bytes, s')) :
    ∃ stored, EncodedAs slices d v s stored bytes s' := by
  have hlength : bytes.length = d.size.toNat := length_of_encodeType d hlaid h
  rw [encodeStruct] at h
  cases d with
  | primitive p =>
      rw [encodeType] at h
      cases h
  | struct name size fields =>
      obtain ⟨-, -, parts, hparts, rfl⟩ := encodeType_struct_ok h
      have hfields : FieldsLaidOut size fields := hlaid _ .refl
      have htypes : ∀ f ∈ fields, f.type.LaidOut := fun f hf => hlaid.of_mem hf
      have hplaces : AtFields fields parts := atFields_of_encodeFields name v fields htypes hparts
      have hinside := hplaces.inside hfields
      obtain ⟨stored, hasked, hholds⟩ := exists_fieldsHold hfields.names_nodup htypes hparts
      refine ⟨stored, hlength, hasked, fun f hf => ?_, fun i hi => hplaces.getElem?_gap hfields hi⟩
      obtain ⟨part, hmem, hpart, hholds⟩ := hholds f hf
      have hslice := slice_assemble hinside (hplaces.apart hfields) hmem
      dsimp only at hslice
      rw [hpart] at hslice
      rwa [← hslice] at hholds

/-! ## Values that differ in a field -/

theorem eq_of_map_fst_of_map_snd {α β : Type} {l l' : List (α × β)}
    (hfst : l.map Prod.fst = l'.map Prod.fst) (hsnd : l.map Prod.snd = l'.map Prod.snd) :
    l = l' := by
  rw [← List.zip_unzip l, ← List.zip_unzip l', List.unzip_eq_map, List.unzip_eq_map, hfst, hsnd]

section Difference

variable {ρ' ε' : Type} {slices' : SliceAccess ρ' ε'} {v v' : StructValue}

/-- What stands for a field follows from its value and from the slices of its texts. -/
theorem FieldHolds.eq {f : FieldDescriptor} {stored stored' : List StoredText} {part part' : Bytes}
    (h : FieldHolds slices v f stored part) (h' : FieldHolds slices' v' f stored' part')
    (hvalue : v'.get? f.name = v.get? f.name)
    (hslices : stored'.map Prod.snd = stored.map Prod.snd) : part' = part := by
  cases h with
  | scalar given plain _ =>
      cases h' with
      | scalar given' _ _ =>
          cases given'.symm.trans (hvalue.trans given)
          rfl
      | text given' _ =>
          cases given'.symm.trans (hvalue.trans given)
          exact absurd rfl plain
      | struct given' _ _ _ _ => cases given'.symm.trans (hvalue.trans given)
  | text given _ =>
      cases h' with
      | scalar given' plain' _ =>
          cases given'.symm.trans (hvalue.trans given)
          exact absurd rfl plain'
      | text given' _ =>
          obtain ⟨hslice, -⟩ := List.cons.inj hslices
          obtain ⟨rfl, rfl⟩ := Prod.mk.inj hslice
          rfl
      | struct given' _ _ _ _ => cases given'.symm.trans (hvalue.trans given)
  | struct given _ asked texts encoded =>
      cases h' with
      | scalar given' _ _ => cases given'.symm.trans (hvalue.trans given)
      | text given' _ => cases given'.symm.trans (hvalue.trans given)
      | struct given' _ asked' texts' encoded' =>
          have hstruct := Option.some.inj (given'.symm.trans (hvalue.trans given))
          obtain rfl := FieldValue.ofStruct_inj.1 hstruct
          -- The same texts with the same slices: the two walks are answered alike.
          obtain rfl := eq_of_map_fst_of_map_snd (texts'.trans texts.symm) hslices
          have hsame := (encodeType_alike slices slices' f.type _).answers_same texts asked asked'
            encoded
          exact Except.ok.inj (Prod.mk.inj (encoded'.symm.trans hsame)).1

variable {d : TypeDescriptor} {stored stored' : String → List StoredText} {bytes bytes' : Bytes}
  {t t' : ρ'}

/-- Values that differ in one field only are encoded as bytes that differ only in that field,
provided that the texts of the other fields were answered the same. -/
theorem EncodedAs.getElem?_eq (hnames : (d.fields.map Field.name).Nodup)
    (h : EncodedAs slices d v s stored bytes s') (h' : EncodedAs slices' d v' t stored' bytes' t')
    {f : FieldDescriptor} (hf : f ∈ d.fields)
    (hvalue : ∀ name, name ≠ f.name → v'.get? name = v.get? name)
    (hslices : ∀ g ∈ d.fields, g.name ≠ f.name →
      (stored' g.name).map Prod.snd = (stored g.name).map Prod.snd)
    {i : Nat} (hi : ¬ f.Covers i) : bytes'[i]? = bytes[i]? := by
  by_cases hsize : i < d.size.toNat
  · by_cases hcovered : ∃ g ∈ d.fields, g.Covers i
    · obtain ⟨g, hg, hstart, hstop⟩ := hcovered
      have hname : g.name ≠ f.name := by
        intro hname
        obtain rfl := List.inj_on_of_nodup_map hnames hg hf hname
        exact hi ⟨hstart, hstop⟩
      have hpart := (h.holds g hg).eq (h'.holds g hg) (hvalue g.name hname) (hslices g hg hname)
      rw [Field.stop] at hstop
      rw [Bytes.getElem?_of_slice hpart hstart hstop, Bytes.getElem?_of_slice rfl hstart hstop]
    · have hgap : ∀ g ∈ d.fields, ¬ g.Covers i := fun g hg hcovers => hcovered ⟨g, hg, hcovers⟩
      rw [h.gap i hsize hgap, h'.gap i hsize hgap]
  · rw [List.getElem?_eq_none (by rw [h'.length_eq]; omega),
      List.getElem?_eq_none (by rw [h.length_eq]; omega)]

end Difference

namespace Registry

/-- A struct value of a registered type is laid out as the type describes.  Encoding never writes
outside of its buffer: in place it comes to the same.  Where it answers, the bytes have the size of
the type, hold for each field the bytes of its value, the slice of its text or the encoding of its
struct, and are zero elsewhere.  And values that differ in one field only are encoded as bytes that
differ only in that field, when the texts of the other fields are answered the same. -/
theorem encodeStruct_encodedAs (requests : List RegistryRequest) {name : String}
    {d : TypeDescriptor} (hd : (primitives.afterAll requests).get? name = some d) {ρ ε : Type}
    (slices : SliceAccess ρ ε) (v : StructValue) :
    writeType slices d v = ExceptT.adapt InPlaceError.codec (encodeStruct slices d v) ∧
    (∀ s s' bytes, (encodeStruct slices d v).from s = (.ok bytes, s') →
      ∃ stored, EncodedAs slices d v s stored bytes s') ∧
    ∀ s s' stored bytes, EncodedAs slices d v s stored bytes s' →
      ∀ {ρ' ε' : Type} (slices' : SliceAccess ρ' ε') v' t t' stored' bytes',
        EncodedAs slices' d v' t stored' bytes' t' → ∀ f ∈ d.fields,
          (∀ other, other ≠ f.name → v'.get? other = v.get? other) →
          (∀ g ∈ d.fields, g.name ≠ f.name →
            (stored' g.name).map Prod.snd = (stored g.name).map Prod.snd) →
          ∀ i, ¬ f.Covers i → bytes'[i]? = bytes[i]? := by
  have hwf := wellFormed_afterAll requests
  have hlaid : d.LaidOut := hwf.laidOut hd
  refine ⟨writeType_eq slices d v hlaid, fun s s' bytes h => encodedAs_of_encodeType hlaid h, ?_⟩
  intro s s' stored bytes h ρ' ε' slices' v' t t' stored' bytes' h' f hf hvalue hslices i hi
  exact h.getElem?_eq (hwf.laid_out hd).names_nodup h' hf hvalue hslices hi

/-- A label of the given text. -/
def labelOf (text : String) : StructValue :=
  ⟨"label", [("id", .scalar (.u32 7)), ("text", .scalar (.string text))]⟩

theorem encodeStruct_encodedAs_label :
    ∃ bytes stored, (encodeStruct numberedSlices labelType (labelOf "é")).from ["a"] =
        (.ok bytes, ["a", "é"]) ∧
      EncodedAs numberedSlices labelType (labelOf "é") ["a"] stored bytes ["a", "é"] ∧
      ∀ bytes' stored', EncodedAs numberedSlices labelType (labelOf "another") [] stored' bytes'
        ["another"] → ∀ i, 8 ≤ i → bytes'[i]? = bytes[i]? := by
  have hget : (primitives.afterAll pairRequests).get? "label" = some labelType := by cbv
  obtain ⟨-, hencoded, hdiffer⟩ :=
    encodeStruct_encodedAs pairRequests hget numberedSlices (labelOf "é")
  obtain ⟨bytes, hrun⟩ : ∃ bytes, (encodeStruct numberedSlices labelType (labelOf "é")).from ["a"] =
      (.ok bytes, ["a", "é"]) := ⟨_, by cbv⟩
  obtain ⟨stored, h⟩ := hencoded _ _ _ hrun
  -- Nothing is stored for the other field, which is a number.
  have hid : ∀ {v kept kept' stored bytes},
      EncodedAs numberedSlices labelType v kept stored bytes kept' → stored "id" = [] :=
    fun h => (h.holds _ (List.mem_cons_of_mem _ List.mem_cons_self)).stored_eq_nil rfl rfl
  refine ⟨bytes, stored, hrun, h, fun bytes' stored' h' i hi => ?_⟩
  refine hdiffer _ _ _ _ h numberedSlices _ _ _ _ _ h' _ List.mem_cons_self
    (fun other hother => ?_) (fun g hg hname => ?_) i ?_
  · have htext : other ≠ "text" := hother
    by_cases hid : other = "id" <;>
      simp [StructValue.get?, labelOf, List.find?_cons, hid, Ne.symm htext]
  · rcases List.mem_cons.1 hg with rfl | hg
    · exact absurd rfl hname
    · obtain rfl := List.mem_singleton.1 hg
      rw [hid h, hid h']
  · intro hcovers
    have hstop : i < 8 := hcovers.2
    omega

end Registry

end GuestBridge
