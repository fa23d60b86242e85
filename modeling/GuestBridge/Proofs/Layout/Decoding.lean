import GuestBridge.Proofs.Layout.Course
import GuestBridge.Proofs.Layout.InPlace

/-!
# Decoding of registered structs

What is decoded has the shape of its type (`describes_of_decodeType`).  For a type that is laid out
nothing on the walk of decoding is refused when there are bytes enough (`fits_loadSteps`), and only
the bytes of the type are looked at (`decodeType_congr`).  So decoding a struct of a registered type
refuses too few bytes, and otherwise it answers or fails for a text that could not be loaded
(`Registry.decodeStruct_total`).
-/

namespace GuestBridge

theorem TypeDescriptor.exists_boundaryKind {d : TypeDescriptor} (hsize : d.size ≠ 0) :
    ∃ kind, d.boundaryKind = some kind := by
  cases d with
  | struct name size fields => exact ⟨.u32, rfl⟩
  | primitive p => cases p <;> first | exact absurd rfl hsize | exact ⟨_, rfl⟩

/-! ## The shape of what is decoded -/

section Describes

variable {ρ ε : Type} {slices : SliceAccess ρ ε}

mutual

/-- A struct that is decoded is described by its type. -/
theorem describes_of_decodeType : ∀ (type : TypeDescriptor) {raw : Bytes} {s s' : ρ}
    {v : StructValue}, (decodeType slices type raw).from s = (.ok v, s') →
      type.Describes (.ofStruct v)
  | .primitive p, raw, s, s', v, h => by
      rw [decodeType] at h
      cases h
  | .struct name size fields, raw, s, s', v, h => by
      rw [decodeType_struct] at h
      split_ifs at h
      · cases h
      obtain ⟨values, s₁, hvalues, h⟩ := Fallible.bind_from_ok_iff.1 h
      cases h
      rw [FieldValue.ofStruct, TypeDescriptor.Describes]
      exact ⟨rfl, describesFields_of_decodeFields name fields hvalues⟩

theorem describesFields_of_decodeFields (owner : String) : ∀ (fields : List FieldDescriptor)
    {raw : Bytes} {s s' : ρ} {values : List (String × FieldValue)},
      (decodeFields slices owner raw fields).from s = (.ok values, s') →
        DescribesFields fields values
  | [], raw, s, s', values, h => by
      cases h
      trivial
  | f :: rest, raw, s, s', values, h => by
      rw [decodeFields] at h
      obtain ⟨value, s₁, hvalue, h⟩ := Fallible.bind_from_ok_iff.1 h
      obtain ⟨values', s₂, hvalues, h⟩ := Fallible.bind_from_ok_iff.1 h
      cases h
      rw [DescribesFields]
      exact ⟨describesField_of_decodeField owner f hvalue,
        describesFields_of_decodeFields owner rest hvalues⟩

theorem describesField_of_decodeField (owner : String) : ∀ (f : FieldDescriptor) {raw : Bytes}
    {s s' : ρ} {value : FieldValue},
      (decodeField slices owner raw f).from s = (.ok value, s') → DescribesField f (f.name, value)
  | ⟨name, offset, type⟩, raw, s, s', value, h => by
      rw [DescribesField]
      refine ⟨rfl, ?_⟩
      rw [decodeField] at h
      dsimp only at h
      split_ifs at h with hstruct hslice
      · obtain ⟨v, s₁, hv, h⟩ := Fallible.bind_from_ok_iff.1 h
        cases h
        exact describes_of_decodeType type hv
      · obtain ⟨text, s₁, -, h⟩ := Fallible.bind_from_ok_iff.1 h
        cases h
        cases type with
        | struct _ _ _ => cases hslice
        | primitive p => exact TypeDescriptor.boundaryKind_of_isSlice hslice
      · cases hkind : type.boundaryKind with
        | none =>
            rw [hkind] at h
            cases h
        | some kind =>
            rw [hkind] at h
            cases h
            cases type with
            | struct _ _ _ => exact absurd rfl hstruct
            | primitive p => exact hkind.trans (by rw [Value.kind_ofBytes])

end

end Describes

/-! ## Nothing is refused -/

mutual

/-- Decoding refuses nothing of a type that is laid out when there are bytes enough. -/
theorem fits_loadSteps : ∀ (type : TypeDescriptor) {raw : Bytes}, type.LaidOut →
    type.isStruct = true → type.size.toNat ≤ raw.length → Fits (loadSteps type raw)
  | .primitive p, raw, _, hstruct, _ => by cases hstruct
  | .struct name size fields, raw, hlaid, _, hlength => by
      have hfields : FieldsLaidOut size fields := hlaid _ .refl
      rw [TypeDescriptor.size] at hlength
      rw [loadSteps, if_neg (Nat.not_lt.2 hlength)]
      exact fits_loadFieldsSteps name fields (fun f hf => hlaid.of_mem hf) hfields.size_ne_zero
        fun f hf => Nat.le_trans (hfields.inside f hf) hlength

theorem fits_loadFieldsSteps (owner : String) : ∀ (fields : List FieldDescriptor) {raw : Bytes},
    (∀ f ∈ fields, f.type.LaidOut) → (∀ f ∈ fields, f.type.size ≠ 0) →
      (∀ f ∈ fields, f.stop ≤ raw.length) → Fits (loadFieldsSteps owner raw fields)
  | [], raw, _, _, _ => fits_nil
  | f :: rest, raw, hlaid, hsize, hroom => by
      rw [List.forall_mem_cons] at hlaid hsize hroom
      rw [loadFieldsSteps]
      exact fits_append (fits_loadFieldSteps owner f hlaid.1 hsize.1 hroom.1)
        (fits_loadFieldsSteps owner rest hlaid.2 hsize.2 hroom.2)

theorem fits_loadFieldSteps (owner : String) : ∀ (f : FieldDescriptor) {raw : Bytes},
    f.type.LaidOut → f.type.size ≠ 0 → f.stop ≤ raw.length → Fits (loadFieldSteps owner raw f)
  | ⟨name, offset, type⟩, raw, hlaid, hsize, hroom => by
      rw [loadFieldSteps]
      split_ifs with hstruct
      · exact fits_loadSteps type hlaid hstruct (Nat.le_of_eq (Bytes.length_slice hroom).symm)
      · exact fits_ask owner name _
      · obtain ⟨kind, hkind⟩ := TypeDescriptor.exists_boundaryKind hsize
        rw [hkind]
        exact fits_nil

end

/-! ## Only the bytes of the type matter -/

section Congr

variable {raw raw' : Bytes}

theorem loadFieldsSteps_congr (owner : String) {fields : List FieldDescriptor}
    (h : ∀ f ∈ fields, raw'.slice f.offset.toNat f.type.size.toNat =
      raw.slice f.offset.toNat f.type.size.toNat) :
    loadFieldsSteps owner raw' fields = loadFieldsSteps owner raw fields := by
  induction fields with
  | nil => rfl
  | cons f rest ih =>
      rw [List.forall_mem_cons] at h
      rw [loadFieldsSteps, loadFieldsSteps, loadFieldSteps, loadFieldSteps, h.1, ih h.2]

variable {ρ ε : Type} (slices : SliceAccess ρ ε)

theorem decodeFields_congr (owner : String) {fields : List FieldDescriptor}
    (h : ∀ f ∈ fields, raw'.slice f.offset.toNat f.type.size.toNat =
      raw.slice f.offset.toNat f.type.size.toNat) :
    decodeFields slices owner raw' fields = decodeFields slices owner raw fields := by
  induction fields with
  | nil => rfl
  | cons f rest ih =>
      rw [List.forall_mem_cons] at h
      rw [decodeFields, decodeFields, decodeField, decodeField, h.1, ih h.2]

/-- Bytes that start alike are decoded alike: the same slices are asked for on behalf of the same
fields, and the same is made of the answers. -/
theorem decodeType_congr {type : TypeDescriptor} (hlaid : FieldsLaidOut type.size type.fields)
    (hlength : type.size.toNat ≤ raw.length)
    (h : raw'.take type.size.toNat = raw.take type.size.toNat) :
    loadSteps type raw' = loadSteps type raw ∧
      decodeType slices type raw' = decodeType slices type raw := by
  cases type with
  | primitive p => exact ⟨by rw [loadSteps, loadSteps], by rw [decodeType, decodeType]⟩
  | struct name size fields =>
      rw [TypeDescriptor.size] at h hlength
      have hlength' : size.toNat ≤ raw'.length := by
        have htake := congrArg List.length h
        rw [List.length_take, List.length_take] at htake
        omega
      have hslices : ∀ f ∈ fields, raw'.slice f.offset.toNat f.type.size.toNat =
          raw.slice f.offset.toNat f.type.size.toNat := by
        intro f hf
        have hstop : f.offset.toNat + f.type.size.toNat ≤ size.toNat := hlaid.inside f hf
        rw [← Bytes.slice_take hstop, h, Bytes.slice_take hstop]
      rw [loadSteps, loadSteps, decodeType_struct, decodeType_struct]
      simp only [if_neg (Nat.not_lt.2 hlength), if_neg (Nat.not_lt.2 hlength')]
      rw [loadFieldsSteps_congr name hslices, decodeFields_congr slices name hslices]
      exact ⟨rfl, rfl⟩

end Congr

namespace Registry

/-- Decoding a struct of a registered type never reads outside of the bytes: in place it comes to
the same.  Fewer bytes than the type takes are refused and nothing is loaded.  Otherwise only the
bytes of the type matter, and from every state decoding answers, after loading all texts, with a
value that the type describes, or fails on behalf of the field of which the text could not be
loaded. -/
theorem decodeStruct_total (requests : List RegistryRequest) {name : String} {d : TypeDescriptor}
    (hd : (primitives.afterAll requests).get? name = some d) (hstruct : d.isStruct = true)
    {ρ ε : Type} (slices : SliceAccess ρ ε) (raw : Bytes) :
    readType slices d raw = ExceptT.adapt InPlaceError.codec (decodeStruct slices d raw) ∧
    (raw.length < d.size.toNat →
      decodeStruct slices d raw = throw (.truncated d.name d.size.toNat raw.length)) ∧
    (d.size.toNat ≤ raw.length →
      (∀ raw' : Bytes, raw'.take d.size.toNat = raw.take d.size.toNat →
        loadSteps d raw' = loadSteps d raw ∧
          decodeStruct slices d raw' = decodeStruct slices d raw) ∧
      ∀ s,
        (∃ v loaded s', (decodeStruct slices d raw).from s = (.ok v, s') ∧
          d.Describes (.ofStruct v) ∧ Asked slices.loadSlice s loaded s' ∧
          loaded.map Prod.fst = wanted (loadSteps d raw)) ∨
        ∃ owner field slice loaded s₁ cause s', .ask owner field slice ∈ loadSteps d raw ∧
          Asked slices.loadSlice s loaded s₁ ∧
          (slices.loadSlice slice).from s₁ = (.error cause, s') ∧
          (decodeStruct slices d raw).from s = (.error (.indirect owner field cause), s')) := by
  have hlaid : d.LaidOut := (wellFormed_afterAll requests).laidOut hd
  refine ⟨readType_eq slices d raw hlaid, fun hshort => ?_, fun hlength => ⟨fun raw' h => ?_, ?_⟩⟩
  · cases d with
    | primitive p => cases hstruct
    | struct name size fields =>
        exact (decodeType_struct slices name size fields raw).trans (if_pos hshort)
  · exact decodeType_congr slices (hlaid _ .refl) hlength h
  · intro s
    have halike := decodeType_alike slices slices d raw
    rcases halike.ends (fits_loadSteps d hlaid hstruct hlength) s with ⟨v, s', hok⟩ | hfail
    · obtain ⟨loaded, hasked, hwanted⟩ := halike.exists_asked hok
      exact .inl ⟨v, loaded, s', hok, describes_of_decodeType d hok, hasked, hwanted⟩
    · exact .inr hfail

/-- A label whose text is the first, and a byte after it. -/
def labelBytes : Bytes :=
  [0, 0, 0, 0, 2, 0, 0, 0, 7, 0, 0, 0, 255]

theorem decodeStruct_total_label :
    decodeStruct numberedSlices labelType (labelBytes.take 11) = throw (.truncated "label" 12 11) ∧
      decodeStruct numberedSlices labelType (labelBytes.take 12) =
        decodeStruct numberedSlices labelType labelBytes ∧
      (∃ v loaded, (decodeStruct numberedSlices labelType labelBytes).from ["é"] = (.ok v, ["é"]) ∧
        labelType.Describes (.ofStruct v) ∧
        Asked numberedSlices.loadSlice ["é"] loaded ["é"] ∧ loaded.map Prod.fst = [(0, 2)]) ∧
      ∃ slice loaded kept, .ask "label" "text" slice ∈ loadSteps labelType labelBytes ∧
        Asked numberedSlices.loadSlice [] loaded kept ∧
        (numberedSlices.loadSlice slice).from kept = (.error (), []) := by
  have hget : (primitives.afterAll pairRequests).get? "label" = some labelType := by cbv
  obtain ⟨-, hshort, -⟩ :=
    decodeStruct_total pairRequests hget rfl numberedSlices (labelBytes.take 11)
  obtain ⟨-, -, hlong⟩ := decodeStruct_total pairRequests hget rfl numberedSlices labelBytes
  obtain ⟨hsame, hends⟩ := hlong (by decide)
  refine ⟨hshort (by decide), (hsame (labelBytes.take 12) rfl).2, ?_, ?_⟩
  · have hrun : (decodeStruct numberedSlices labelType labelBytes).from ["é"] =
        (.ok ⟨"label", [("text", .scalar (.string "é")), ("id", .scalar (.u32 7))]⟩, ["é"]) := by
      cbv
    rcases hends ["é"] with ⟨v, loaded, kept, hok, hdescribes, hasked, hwanted⟩ |
      ⟨_, _, _, _, _, _, _, -, -, -, herror⟩
    · cases hrun.symm.trans hok
      exact ⟨_, loaded, hrun, hdescribes, hasked, hwanted.trans (by cbv)⟩
    · cases hrun.symm.trans herror
  · have hrun : (decodeStruct numberedSlices labelType labelBytes).from [] =
        (.error (.indirect "label" "text" ()), []) := by
      cbv
    rcases hends [] with ⟨_, _, _, hok, -, -, -⟩ |
      ⟨_, _, slice, loaded, kept, _, _, hmem, hasked, hload, herror⟩
    · cases hrun.symm.trans hok
    · cases hrun.symm.trans herror
      exact ⟨slice, loaded, kept, hmem, hasked, hload⟩

end Registry

end GuestBridge
