import GuestBridge.Proofs.Layout.RoundTrip
import GuestBridge.Proofs.Layout.Walk

/-!
# The course of a walk

`Asked` says that requests are made one after the other and are all answered.  A walk that answers
has made exactly the requests of its steps (`Alike.exists_asked`), and one that is alike answers the
same when it is answered the same (`Alike.answers_same`).  A walk on which everything fits
(`Fits`) answers or fails for a request that failed (`Alike.ends`).

The walk of encoding fits when the type accepts the value (`fits_storeSteps`), and so a value is
encoded exactly when its type accepts it, provided that texts can be stored
(`encodeStruct_answers_iff`).
-/

namespace GuestBridge

/-! ## Requests that are answered -/

section Asked

variable {κ α β ρ ε ρ₁ ρ₂ ε₁ ε₂ : Type}

/-- The requests are made one after the other, each with its answer, and lead from one state to the
other. -/
inductive Asked (ask : κ → Fallible ρ ε α) : ρ → List (κ × α) → ρ → Prop where
  | done (s : ρ) : Asked ask s [] s
  | next {what : κ} {a : α} {rest : List (κ × α)} {s s₁ s₂ : ρ}
      (answered : (ask what).from s = (.ok a, s₁)) (later : Asked ask s₁ rest s₂) :
      Asked ask s ((what, a) :: rest) s₂

theorem Asked.append {ask : κ → Fallible ρ ε α} {s s₁ s₂ : ρ} {calls more : List (κ × α)}
    (h : Asked ask s calls s₁) (h' : Asked ask s₁ more s₂) : Asked ask s (calls ++ more) s₂ := by
  induction h with
  | done s => exact h'
  | next answered _ ih => exact .next answered (ih h')

/-- What a walk asks for, up to where something does not fit. -/
def wanted : List (WalkStep κ) → List κ
  | .ask _ _ what :: rest => what :: wanted rest
  | _ => []

/-- Nothing on the walk is refused. -/
def Fits (steps : List (WalkStep κ)) : Prop :=
  ∀ e, .refuse e ∉ steps

theorem fits_append {steps more : List (WalkStep κ)} (h : Fits steps) (h' : Fits more) :
    Fits (steps ++ more) := by
  intro e he
  rcases List.mem_append.1 he with he | he
  · exact h e he
  · exact h' e he

theorem fits_nil : Fits ([] : List (WalkStep κ)) := by
  simp [Fits]

theorem fits_ask (owner field : String) (what : κ) : Fits [.ask owner field what] := by
  simp [Fits]

theorem forField_from_ok {c : Fallible ρ ε α} {s s' : ρ} {a : α} (h : c.from s = (.ok a, s'))
    (owner field : String) : (forField owner field c).from s = (.ok a, s') :=
  Fallible.adapt_from_ok_iff.2 h

variable {ask₁ : κ → Fallible ρ₁ ε₁ α} {ask₂ : κ → Fallible ρ₂ ε₂ α}
  {steps : List (WalkStep κ)} {c₁ : SliceM ρ₁ ε₁ β} {c₂ : SliceM ρ₂ ε₂ β} {s s' : ρ₁} {b : β}

/-- A walk that answers has been answered all that it asks for. -/
theorem Alike.exists_asked (h : Alike ask₁ ask₂ steps c₁ c₂) (hok : c₁.from s = (.ok b, s')) :
    ∃ calls, Asked ask₁ s calls s' ∧ calls.map Prod.fst = wanted steps := by
  induction steps generalizing c₁ c₂ s with
  | nil =>
      obtain ⟨b', rfl, -⟩ := h
      obtain ⟨-, rfl⟩ := Prod.mk.inj hok
      exact ⟨[], .done s, rfl⟩
  | cons step rest ih =>
      cases step with
      | refuse e =>
          obtain ⟨rfl, -⟩ := h
          cases hok
      | ask owner field what =>
          obtain ⟨next₁, next₂, rfl, -, hnext⟩ := h
          obtain ⟨a, s₁, hfirst, hrest⟩ := Fallible.bind_from_ok_iff.1 hok
          obtain ⟨calls, hcalls, hwanted⟩ := ih (hnext a) hrest
          refine ⟨(what, a) :: calls, .next (Fallible.adapt_from_ok_iff.1 hfirst) hcalls, ?_⟩
          rw [List.map_cons, hwanted, wanted]

/-- Where a walk answers, one that is alike answers the same when it is answered the same. -/
theorem Alike.answers_same (h : Alike ask₁ ask₂ steps c₁ c₂) {calls : List (κ × α)}
    (hwanted : calls.map Prod.fst = wanted steps) (hcalls : Asked ask₁ s calls s')
    {t t' : ρ₂} (hcalls' : Asked ask₂ t calls t') {s'' : ρ₁} (hok : c₁.from s = (.ok b, s'')) :
    c₂.from t = (.ok b, t') := by
  induction steps generalizing c₁ c₂ s t calls with
  | nil =>
      obtain ⟨b', rfl, rfl⟩ := h
      obtain rfl : calls = [] := List.map_eq_nil_iff.1 hwanted
      cases hok
      cases hcalls'
      rfl
  | cons step rest ih =>
      cases step with
      | refuse e =>
          obtain ⟨rfl, -⟩ := h
          cases hok
      | ask owner field what =>
          obtain ⟨next₁, next₂, rfl, rfl, hnext⟩ := h
          cases hcalls with
          | done s => cases hwanted
          | next answered later =>
              obtain ⟨hwhat, hrest⟩ := List.cons.inj hwanted
              cases hcalls' with
              | next answered' later' =>
                  dsimp only at hwhat
                  subst hwhat
                  rw [Fallible.from_bind, forField_from_ok answered] at hok
                  rw [Fallible.from_bind, forField_from_ok answered']
                  exact ih (hnext _) hrest later later' hok

/-- A walk on which everything fits answers, or fails on behalf of a field for a request that
failed after all earlier ones were answered. -/
theorem Alike.ends (h : Alike ask₁ ask₂ steps c₁ c₂) (hfits : Fits steps) (s : ρ₁) :
    (∃ b s', c₁.from s = (.ok b, s')) ∨
      ∃ owner field what calls s₁ cause s', .ask owner field what ∈ steps ∧
        Asked ask₁ s calls s₁ ∧ (ask₁ what).from s₁ = (.error cause, s') ∧
        c₁.from s = (.error (.indirect owner field cause), s') := by
  induction steps generalizing c₁ c₂ s with
  | nil =>
      obtain ⟨b, rfl, -⟩ := h
      exact .inl ⟨b, s, rfl⟩
  | cons step rest ih =>
      cases step with
      | refuse e => exact absurd List.mem_cons_self (hfits e)
      | ask owner field what =>
          obtain ⟨next₁, next₂, rfl, -, hnext⟩ := h
          rcases hfirst : (ask₁ what).from s with ⟨cause | a, s₁⟩
          · refine .inr ⟨owner, field, what, [], s, cause, s₁, List.mem_cons_self, .done s, hfirst, ?_⟩
            rw [Fallible.from_bind, forField, Fallible.from_adapt, hfirst]
            rfl
          · have hfrom : (forField owner field (ask₁ what) >>= next₁).from s =
                (next₁ a).from s₁ := by
              rw [Fallible.from_bind, forField_from_ok hfirst]
            rw [hfrom]
            rcases ih (hnext a) (fun e he => hfits e (List.mem_cons_of_mem _ he)) s₁ with hok |
              ⟨owner', field', what', calls, s₂, cause, s', hmem, hcalls, hfail, herror⟩
            · exact .inl hok
            · exact .inr ⟨owner', field', what', (what, a) :: calls, s₂, cause, s',
                List.mem_cons_of_mem _ hmem, .next hfirst hcalls, hfail, herror⟩

end Asked

/-! ## Accepted values -/

theorem FieldValue.struct_eq_ofStruct_iff {typeName : String} {fields : List (String × FieldValue)}
    {w : StructValue} : FieldValue.struct typeName fields = .ofStruct w ↔ w = ⟨typeName, fields⟩ := by
  obtain ⟨typeName', fields'⟩ := w
  simp [ofStruct, eq_comm]

theorem FieldValue.ofStruct_inj {v w : StructValue} : ofStruct v = ofStruct w ↔ v = w := by
  obtain ⟨typeName, fields⟩ := v
  exact struct_eq_ofStruct_iff.trans eq_comm

theorem acceptsFields_iff {v : StructValue} {fields : List FieldDescriptor} :
    AcceptsFields v fields ↔ ∀ f ∈ fields, AcceptsField v f := by
  induction fields with
  | nil => simp [AcceptsFields]
  | cons f rest ih => rw [AcceptsFields, ih, List.forall_mem_cons]

theorem TypeDescriptor.not_isSlice_of_isStruct {d : TypeDescriptor} (h : d.isStruct = true) :
    d.isSlice = false := by
  cases d with
  | struct name size fields => rfl
  | primitive p => cases h

theorem TypeDescriptor.isSlice_of_boundaryKind {d : TypeDescriptor} (hstruct : d.isStruct = false)
    (hkind : d.boundaryKind = some .string) : d.isSlice = true := by
  cases d with
  | struct name size fields => cases hstruct
  | primitive p => cases p <;> first | rfl | cases hkind

theorem TypeDescriptor.isStruct_of_accepts {d : TypeDescriptor} {v : StructValue}
    (h : d.Accepts v) : d.isStruct = true := by
  cases d with
  | struct name size fields => rfl
  | primitive p =>
      rw [Accepts] at h
      exact h.elim

theorem Value.kind_eq_string_iff {value : Value} :
    value.kind = .string ↔ ∃ text, value = .string text := by
  cases value <;> simp [kind]

/-- What a field accepts is told by the sort of its type: a struct of the type, a text, or a value
of the very kind of the type. -/
theorem acceptsField_iff {v : StructValue} {f : FieldDescriptor} :
    AcceptsField v f ↔
      (f.type.isStruct = true →
        ∃ w, v.get? f.name = some (.ofStruct w) ∧ f.type.Accepts w) ∧
      (f.type.isSlice = true → ∃ text, v.get? f.name = some (.scalar (.string text))) ∧
      (f.type.isStruct = false → f.type.isSlice = false →
        ∃ value, v.get? f.name = some (.scalar value) ∧
          f.type.boundaryKind = some value.kind) := by
  obtain ⟨name, offset, type⟩ := f
  rw [AcceptsField]
  dsimp only
  rcases v.get? name with _ | value | ⟨inner, fields⟩
  · cases type.isStruct <;> cases type.isSlice <;> simp
  · by_cases hslice : type.isSlice = true
    · obtain ⟨hstruct, -⟩ := TypeDescriptor.not_isStruct_of_isSlice hslice
      simp [hstruct, hslice, TypeDescriptor.boundaryKind_of_isSlice hslice,
        ← Value.kind_eq_string_iff, eq_comm]
    · cases hstruct : type.isStruct <;> simp [hslice, FieldValue.ofStruct]
  · by_cases hstruct : type.isStruct = true
    · simp [hstruct, TypeDescriptor.not_isSlice_of_isStruct hstruct,
        FieldValue.struct_eq_ofStruct_iff]
    · have hnot : ¬ type.Accepts ⟨inner, fields⟩ :=
        fun h => hstruct (TypeDescriptor.isStruct_of_accepts h)
      cases hslice : type.isSlice <;> simp [hstruct, hnot]

theorem TypeDescriptor.accepts_iff (d : TypeDescriptor) (v : StructValue) :
    d.Accepts v ↔
      d.isStruct = true ∧ v.typeName = d.name ∧
        (∀ given ∈ v.fields, ∃ f ∈ d.fields, f.name = given.1) ∧
        ∀ f ∈ d.fields,
          (f.type.isStruct = true →
            ∃ w, v.get? f.name = some (.ofStruct w) ∧ f.type.Accepts w) ∧
          (f.type.isSlice = true → ∃ text, v.get? f.name = some (.scalar (.string text))) ∧
          (f.type.isStruct = false → f.type.isSlice = false →
            ∃ value, v.get? f.name = some (.scalar value) ∧
              f.type.boundaryKind = some value.kind) := by
  cases d with
  | primitive p => simp [Accepts, isStruct]
  | struct name size fields =>
      rw [Accepts, acceptsFields_iff]
      simp only [acceptsField_iff, isStruct, TypeDescriptor.name, TypeDescriptor.fields, true_and]

mutual

/-- Encoding refuses nothing of an accepted value. -/
theorem fits_storeSteps : ∀ (type : TypeDescriptor) {v : StructValue}, type.Accepts v →
    Fits (storeSteps type v)
  | .primitive p, v, h => by
      rw [TypeDescriptor.Accepts] at h
      exact h.elim
  | .struct name size fields, v, h => by
      rw [TypeDescriptor.Accepts] at h
      obtain ⟨hname, hknown, hfields⟩ := h
      have hfind : (v.fields.find? fun given => !fields.any fun f => f.name = given.1) = none := by
        rw [List.find?_eq_none]
        intro given hgiven
        simpa using hknown given hgiven
      rw [storeSteps, if_neg (not_not.2 hname), hfind]
      exact fits_storeFieldsSteps name v fields hfields

theorem fits_storeFieldsSteps (owner : String) (v : StructValue) :
    ∀ fields : List FieldDescriptor, AcceptsFields v fields →
      Fits (storeFieldsSteps owner v fields)
  | [], _ => fits_nil
  | f :: rest, h => by
      rw [AcceptsFields] at h
      rw [storeFieldsSteps]
      exact fits_append (fits_storeFieldSteps owner v f h.1)
        (fits_storeFieldsSteps owner v rest h.2)

theorem fits_storeFieldSteps (owner : String) (v : StructValue) :
    ∀ f : FieldDescriptor, AcceptsField v f → Fits (storeFieldSteps owner v f)
  | ⟨name, offset, type⟩, h => by
      rw [AcceptsField] at h
      rw [storeFieldSteps]
      rcases hget : v.get? name with _ | value | ⟨inner, fields⟩
      · rw [hget] at h
        exact h.elim
      · rw [hget] at h
        obtain ⟨hstruct, hkind⟩ := h
        cases value with
        | string text =>
            dsimp only
            rw [if_pos (TypeDescriptor.isSlice_of_boundaryKind hstruct hkind)]
            exact fits_ask owner name text
        | _ =>
            dsimp only
            rw [if_pos (by simp [hstruct, hkind])]
            exact fits_nil
      · rw [hget] at h
        dsimp only at h ⊢
        rw [if_pos (TypeDescriptor.isStruct_of_accepts h)]
        exact fits_storeSteps type h

end

/-- Where texts can always be stored, a struct value is encoded exactly when the type accepts it:
the type is a struct that the value names, the value has no other fields, and for each field of the
type its first field of that name is a struct that the type of the field accepts, or a text, or a
value of the very kind of that type. An address is never taken for a struct. -/
theorem encodeStruct_answers_iff {ρ ε : Type} {slices : SliceAccess ρ ε}
    (hstore : ∀ text s, ∃ slice s', (slices.store text).from s = (.ok slice, s'))
    (d : TypeDescriptor) (v : StructValue) (s : ρ) :
    ((∃ bytes s', (encodeStruct slices d v).from s = (.ok bytes, s')) ↔ d.Accepts v) ∧
    (d.Accepts v ↔
      d.isStruct = true ∧ v.typeName = d.name ∧
        (∀ given ∈ v.fields, ∃ f ∈ d.fields, f.name = given.1) ∧
        ∀ f ∈ d.fields,
          (f.type.isStruct = true →
            ∃ w, v.get? f.name = some (.ofStruct w) ∧ f.type.Accepts w) ∧
          (f.type.isSlice = true → ∃ text, v.get? f.name = some (.scalar (.string text))) ∧
          (f.type.isStruct = false → f.type.isSlice = false →
            ∃ value, v.get? f.name = some (.scalar value) ∧
              f.type.boundaryKind = some value.kind)) ∧
    ∀ f ∈ d.fields, f.type.isStruct = true →
      ∀ address, v.get? f.name = some (.scalar (.u32 address)) →
        ¬ ∃ bytes s', (encodeStruct slices d v).from s = (.ok bytes, s') := by
  have hanswers : (∃ bytes s', (encodeStruct slices d v).from s = (.ok bytes, s')) ↔
      d.Accepts v := by
    constructor
    · rintro ⟨bytes, s', hok⟩
      exact accepts_of_encodeType d hok
    · intro haccepts
      rcases (encodeType_alike slices slices d v).ends (fits_storeSteps d haccepts) s with hok |
        ⟨_, _, text, _, s₁, cause, _, -, -, hfail, -⟩
      · exact hok
      · obtain ⟨slice, s₂, hstored⟩ := hstore text s₁
        rw [hstored] at hfail
        cases hfail
  have haccepts : d.Accepts v ↔ _ := d.accepts_iff v
  refine ⟨hanswers, haccepts, fun f hf hstruct address hget hok => ?_⟩
  obtain ⟨-, -, -, hfields⟩ := haccepts.1 (hanswers.1 hok)
  obtain ⟨w, hw, -⟩ := (hfields f hf).1 hstruct
  rw [hget] at hw
  cases hw

/-- Slices that keep each text under the number of texts before it. -/
def numberedSlices : SliceAccess (List String) Unit where
  store text := .ofFunction fun kept =>
    (.ok (UInt32.ofNat kept.length, UInt32.ofNat (Text.encode text).length), kept ++ [text])
  load number _ := .ofFunction fun kept =>
    (match kept[number.toNat]? with
      | some text => .ok text
      | none => .error (), kept)

/-- A spot of which the place is given by an address. -/
def addressedSpot : StructValue :=
  ⟨"spot", [("at", .scalar (.u32 16)), ("label", .scalar (.string "é")),
    ("color", .scalar (.u32 0xff0000ff))]⟩

theorem encodeStruct_answers_iff_spot :
    (∀ text kept, ∃ slice kept', (numberedSlices.store text).from kept = (.ok slice, kept')) ∧
      Registry.spotType.Accepts Registry.spotValue ∧
      ¬ ∃ bytes kept,
        (encodeStruct numberedSlices Registry.spotType addressedSpot).from [] =
          (.ok bytes, kept) := by
  have hstore : ∀ text kept, ∃ slice kept',
      (numberedSlices.store text).from kept = (.ok slice, kept') :=
    fun text kept => ⟨_, _, rfl⟩
  obtain ⟨hanswers, -, -⟩ :=
    encodeStruct_answers_iff hstore Registry.spotType Registry.spotValue []
  obtain ⟨-, -, haddress⟩ := encodeStruct_answers_iff hstore Registry.spotType addressedSpot []
  refine ⟨hstore, hanswers.1 ⟨_, ["é"], by cbv⟩, ?_⟩
  exact haddress _ List.mem_cons_self rfl 16 (by cbv)

end GuestBridge
