import GuestBridge.Proofs.Call.Texts
import GuestBridge.Proofs.Layout.Decoding
import GuestBridge.Proofs.Layout.Placement
import GuestBridge.Proofs.Runtime.Faults

/-!
# The trace of writing and reading structs

A codec that walks over a struct asks a guest for the texts on its way, in order, up to the first
request that fails or the first step on which something does not fit (`Trace.Walks`,
`Alike.walks`).  Which texts these are is known beforehand: `placedFor` tells it of a struct value
and `loadedSlices` of bytes.

So what a runtime asks of its sandbox to write a struct value are the texts of the value in the
order of its type and, if it is encoded, its bytes; and to read one, the bytes of the struct and
then its texts (`Runtime.structs_traced`).
-/

namespace GuestBridge

variable {σ κ ι α β γ : Type}

/-! ## Walks -/

/-- What is refused on a walk on which every text is answered. -/
def refused? : List (WalkStep κ) → Option (CodecError Empty)
  | [] => none
  | .ask _ _ _ :: rest => refused? rest
  | .refuse e :: _ => some e

theorem refused?_eq_none_iff {steps : List (WalkStep κ)} : refused? steps = none ↔ Fits steps := by
  induction steps with
  | nil => simp [refused?, Fits]
  | cons step rest ih =>
      cases step with
      | ask owner field what => simpa [refused?, Fits] using ih
      | refuse e =>
          have hrefused : ¬ Fits (.refuse e :: rest) := fun h => h e List.mem_cons_self
          simp [refused?, hrefused]

/-- The trace asks for the keys of a walk in order, up to the first request that fails, and the
outcome is that failure, or what is refused in the end, or an answer. -/
inductive Trace.Walks (call : ι → Except SandboxError γ → SandboxCall) (keys : List ι)
    (refused : Option (CodecError Empty)) : Trace → Except (CodecError SliceFault) β → Prop where
  | stopped {t : Trace} {owner field : String} {e : SandboxError}
      (h : Trace.Asks call keys t (.error e)) :
      Trace.Walks call keys refused t (.error (.indirect owner field (.guest e)))
  | refused {t : Trace} {answers : List γ} {e : CodecError Empty}
      (h : Trace.Asks call keys t (.ok answers)) (he : refused = some e) :
      Trace.Walks call keys refused t (.error (e.map Empty.elim))
  | answered {t : Trace} {answers : List γ} {b : β} (h : Trace.Asks call keys t (.ok answers))
      (hnone : refused = none) : Trace.Walks call keys refused t (.ok b)

theorem Trace.Walks.next {call : ι → Except SandboxError γ → SandboxCall} {key : ι} {keys : List ι}
    {refused : Option (CodecError Empty)} {a : γ} {events : List HostEvent} {t : Trace}
    {x : Except (CodecError SliceFault) β} (h : Trace.Walks call keys refused t x) :
    Trace.Walks call (key :: keys) refused (⟨call key (.ok a), events⟩ :: t) x := by
  cases h with
  | stopped h => exact .stopped h.answered
  | refused h he => exact .refused h.answered he
  | answered h hnone => exact .answered h.answered hnone

/-- From every sandbox under way the computation makes one request for the key and fails if that
does; without a key it asks nothing and answers. -/
def Fallible.AsksFor (call : ι → Except SandboxError γ → SandboxCall)
    (c : Fallible (Traced σ) SliceFault α) : Option ι → Prop
  | none => ∀ t, ∃ a, c.from t = (.ok a, t)
  | some key => ∀ t,
      (∃ a answer s events,
        c.from t = (.ok a, ⟨s, t.trace ++ [⟨call key (.ok answer), events⟩]⟩)) ∨
      ∃ e s events, c.from t = (.error (.guest e), ⟨s, t.trace ++ [⟨call key (.error e), events⟩]⟩)

theorem asksFor_pure (call : ι → Except SandboxError γ → SandboxCall) (a : α) :
    (pure a : Fallible (Traced σ) SliceFault α).AsksFor call none :=
  fun _ => ⟨a, rfl⟩

theorem asksFor_perform (call : ι → Except SandboxError γ → SandboxCall) (key : ι)
    (op : σ → Reply σ γ) (f : γ → α) :
    Fallible.AsksFor call
      (ExceptT.adapt SliceFault.guest (Backend.perform op (call key)) >>= fun a => pure (f a))
      (some key) := by
  intro t
  rcases hreply : op t.sandbox with ⟨answer, s, events⟩
  rw [Fallible.from_bind, Fallible.from_adapt, perform_from hreply (call key)]
  cases answer with
  | error e => exact .inr ⟨e, s, events, rfl⟩
  | ok answer => exact .inl ⟨f answer, answer, s, events, rfl⟩

/-- A walk on which each text is asked for by its key leaves the trace of a walk. -/
theorem Alike.walks {ρ ε : Type} {ask : κ → Fallible (Traced σ) SliceFault α}
    {ask' : κ → Fallible ρ ε α} {call : ι → Except SandboxError γ → SandboxCall}
    {key? : κ → Option ι} {steps : List (WalkStep κ)} {c : SliceM (Traced σ) SliceFault β}
    {c' : SliceM ρ ε β} (h : Alike ask ask' steps c c')
    (hask : ∀ what ∈ wanted steps, (ask what).AsksFor call (key? what)) (t : Traced σ) :
    ∃ x s added, c.from t = (x, ⟨s, t.trace ++ added⟩) ∧
      Trace.Walks call ((wanted steps).filterMap key?) (refused? steps) added x := by
  induction steps generalizing c c' t with
  | nil =>
      obtain ⟨b, rfl, -⟩ := h
      exact ⟨.ok b, t.sandbox, [], by simp, .answered .done rfl⟩
  | cons step rest ih =>
      cases step with
      | refuse e =>
          obtain ⟨rfl, -⟩ := h
          exact ⟨_, t.sandbox, [], by simp, .refused .done rfl⟩
      | ask owner field what =>
          obtain ⟨next, next', rfl, -, hnext⟩ := h
          rw [wanted, List.forall_mem_cons] at hask
          have hfirst := hask.1
          rw [wanted, refused?, List.filterMap_cons, Fallible.from_bind, forField,
            Fallible.from_adapt]
          cases hkey : key? what with
          | none =>
              rw [hkey] at hfirst
              obtain ⟨a, hfrom⟩ := hfirst t
              rw [hfrom]
              exact ih (hnext a) hask.2 t
          | some key =>
              rw [hkey] at hfirst
              rcases hfirst t with ⟨a, answer, s, events, hfrom⟩ | ⟨e, s, events, hfrom⟩
              · rw [hfrom]
                obtain ⟨x, s', added, hrest, hwalks⟩ := ih (hnext a) hask.2
                  ⟨s, t.trace ++ [⟨call key (.ok answer), events⟩]⟩
                refine ⟨x, s', ⟨call key (.ok answer), events⟩ :: added, ?_, hwalks.next⟩
                rw [List.append_assoc] at hrest
                exact hrest
              · rw [hfrom]
                exact ⟨_, s, _, rfl, .stopped .failed⟩

/-! ## Texts that are stored -/

/-- The text is that of a field at some depth. -/
inductive FieldValue.HasText (text : String) : FieldValue → Prop where
  | scalar : FieldValue.HasText text (.scalar (.string text))
  | field {typeName : String} {fields : List (String × FieldValue)} {given : String × FieldValue}
      (hmem : given ∈ fields) (h : FieldValue.HasText text given.2) :
      FieldValue.HasText text (.struct typeName fields)

/-- The lengths of all texts of the struct value fit a word. -/
def StructValue.TextsFit (v : StructValue) : Prop :=
  ∀ text, (FieldValue.ofStruct v).HasText text → (Text.encode text).length < UInt32.size

/-- The texts that are placed in a guest for a struct value, in the order of the type, up to where
something does not fit. -/
def placedFor (type : TypeDescriptor) (v : StructValue) : List Bytes :=
  placedTexts ((storedTexts type v).map Value.string)

theorem StructValue.mem_of_get? {v : StructValue} {name : String} {value : FieldValue}
    (h : v.get? name = some value) : ∃ given ∈ v.fields, given.1 = name ∧ given.2 = value := by
  obtain ⟨given, hgiven, rfl⟩ := Option.map_eq_some_iff.1 h
  exact ⟨given, List.mem_of_find?_eq_some hgiven, by simpa using List.find?_some hgiven, rfl⟩

theorem mem_wanted_append {what : κ} {steps more : List (WalkStep κ)}
    (h : what ∈ wanted (steps ++ more)) : what ∈ wanted steps ∨ what ∈ wanted more := by
  induction steps with
  | nil => exact .inr h
  | cons step rest ih =>
      cases step with
      | refuse e => cases h
      | ask owner field other =>
          rw [List.cons_append, wanted, List.mem_cons] at h
          rcases h with rfl | h
          · exact .inl List.mem_cons_self
          · exact (ih h).imp_left (List.mem_cons_of_mem _)

mutual

/-- The walk of encoding wants texts of the value only. -/
theorem hasText_of_storeSteps : ∀ (type : TypeDescriptor) {v : StructValue} {text : String},
    text ∈ wanted (storeSteps type v) → (FieldValue.ofStruct v).HasText text
  | .primitive p, v, text, h => by
      rw [storeSteps] at h
      cases h
  | .struct name size fields, v, text, h => by
      rw [storeSteps] at h
      split_ifs at h
      · cases h
      · split at h
        · cases h
        · exact hasText_of_storeFieldsSteps name fields h

theorem hasText_of_storeFieldsSteps (owner : String) {v : StructValue} :
    ∀ (fields : List FieldDescriptor) {text : String},
      text ∈ wanted (storeFieldsSteps owner v fields) → (FieldValue.ofStruct v).HasText text
  | [], text, h => by cases h
  | f :: rest, text, h => by
      rw [storeFieldsSteps] at h
      rcases mem_wanted_append h with h | h
      · exact hasText_of_storeFieldSteps owner f h
      · exact hasText_of_storeFieldsSteps owner rest h

theorem hasText_of_storeFieldSteps (owner : String) {v : StructValue} :
    ∀ (f : FieldDescriptor) {text : String},
      text ∈ wanted (storeFieldSteps owner v f) → (FieldValue.ofStruct v).HasText text
  | ⟨name, offset, type⟩, text, h => by
      rw [storeFieldSteps] at h
      rcases hget : v.get? name with _ | value | ⟨inner, fields⟩
      · rw [hget] at h
        cases h
      · rw [hget] at h
        obtain ⟨given, hgiven, -, hvalue⟩ := StructValue.mem_of_get? hget
        cases value with
        | string other =>
            dsimp only at h
            split_ifs at h
            · obtain rfl : text = other := by simpa [wanted] using h
              exact .field hgiven (hvalue ▸ .scalar)
            · cases h
        | _ =>
            dsimp only at h
            split_ifs at h <;> cases h
      · rw [hget] at h
        obtain ⟨given, hgiven, -, hvalue⟩ := StructValue.mem_of_get? hget
        dsimp only at h
        split_ifs at h
        · exact .field hgiven (hvalue ▸ hasText_of_storeSteps type h)
        · cases h

end

theorem store_asksFor (b : Backend σ) {text : String}
    (hfits : (Text.encode text).length < UInt32.size) :
    ((guestSlices b.memory).store text).AsksFor SandboxCall.alloc (Value.string text).placed? := by
  rw [guestSlices_store, if_neg (Nat.not_le.2 hfits), Value.placed?]
  split_ifs
  · exact asksFor_pure _ _
  · exact asksFor_perform SandboxCall.alloc (Text.encode text) (b.alloc (Text.encode text)) _

/-- Encoding into a guest leaves the trace of a walk. -/
theorem encodeStruct_walks (b : Backend σ) (type : TypeDescriptor) {v : StructValue}
    (hfits : v.TextsFit) (t : Traced σ) :
    ∃ x s added, (encodeStruct (guestSlices b.memory) type v).from t =
        (x, ⟨s, t.trace ++ added⟩) ∧
      Trace.Walks .alloc (placedFor type v) (refused? (storeSteps type v)) added x := by
  rw [placedFor, placedTexts, List.filterMap_map]
  exact (encodeType_alike (guestSlices b.memory) (guestSlices b.memory) type v).walks
    (fun text htext => store_asksFor b (hfits text (hasText_of_storeSteps type htext))) t

/-! ## Texts that are loaded -/

/-- The slice that is read for a text: none for an empty one. -/
def readFor? (slice : UInt32 × UInt32) : Option (UInt32 × UInt32) :=
  if slice.2 = 0 then none else some slice

/-- The slices that are read for the texts of encoded bytes, in the order of the type. -/
def loadedSlices (type : TypeDescriptor) (raw : Bytes) : List (UInt32 × UInt32) :=
  (wanted (loadSteps type raw)).filterMap readFor?

theorem load_asksFor (b : Backend σ) (slice : UInt32 × UInt32) :
    ((guestSlices b.memory).loadSlice slice).AsksFor SandboxCall.readSlice (readFor? slice) := by
  obtain ⟨address, length⟩ := slice
  have hload : (guestSlices b.memory).loadSlice (address, length) =
      if length = 0 then pure ""
      else ExceptT.adapt SliceFault.guest (b.memory.read address length) >>= fun part =>
        pure (Text.decodeLossy part) := by
    change ExceptT.adapt SliceFault.guest (readText b.memory address length) = _
    rw [readText_eq]
    split_ifs
    · exact Fallible.adapt_pure _ _
    · exact Fallible.adapt_bind _ _ _
  rw [hload, readFor?]
  dsimp only
  split_ifs
  · exact asksFor_pure _ _
  · exact asksFor_perform SandboxCall.readSlice (address, length) (b.read address length) _

/-- Decoding with the texts of a guest leaves the trace of a walk. -/
theorem decodeStruct_walks (b : Backend σ) (type : TypeDescriptor) (raw : Bytes) (t : Traced σ) :
    ∃ x s added, (decodeStruct (guestSlices b.memory) type raw).from t =
        (x, ⟨s, t.trace ++ added⟩) ∧
      Trace.Walks SandboxCall.readSlice (loadedSlices type raw) (refused? (loadSteps type raw))
        added x :=
  (decodeType_alike (guestSlices b.memory) (guestSlices b.memory) type raw).walks
    (fun slice _ => load_asksFor b slice) t

/-! ## What order the fields are given in -/

/-- What is checked on entering a struct value: the type is a struct that the value names, and the
value has no other fields. -/
def TypeDescriptor.Enters (type : TypeDescriptor) (v : StructValue) : Prop :=
  type.isStruct = true ∧ v.typeName = type.name ∧
    ∀ given ∈ v.fields, ∃ f ∈ type.fields, f.name = given.1

section Enters

variable {type : TypeDescriptor} {v v' : StructValue}

theorem enters_struct_iff {name : String} {size : UInt32} {fields : List FieldDescriptor} :
    (TypeDescriptor.struct name size fields).Enters v ↔ v.typeName = name ∧
      (v.fields.find? fun given => !fields.any fun f => f.name = given.1) = none := by
  simp [TypeDescriptor.Enters, TypeDescriptor.isStruct, TypeDescriptor.name, TypeDescriptor.fields]

/-- A value that is not entered is refused before any of its fields. -/
theorem storeSteps_of_not_enters (h : ¬ type.Enters v) : ∃ e, storeSteps type v = [.refuse e] := by
  cases type with
  | primitive p => exact ⟨_, by rw [storeSteps]⟩
  | struct name size fields =>
      rw [enters_struct_iff, not_and] at h
      rw [storeSteps]
      by_cases hname : v.typeName = name
      · rw [if_neg (not_not.2 hname)]
        cases hfind : v.fields.find? fun given => !fields.any fun f => f.name = given.1 with
        | some given => exact ⟨_, rfl⟩
        | none => exact (h hname hfind).elim
      · rw [if_pos hname]
        exact ⟨_, rfl⟩

/-- Fields that are all of the type are so in every order. -/
theorem enters_congr (htype : v'.typeName = v.typeName) (hget : ∀ name, v'.get? name = v.get? name)
    (h : type.Enters v) : type.Enters v' := by
  obtain ⟨hstruct, hname, hknown⟩ := h
  refine ⟨hstruct, htype.trans hname, fun given hgiven => ?_⟩
  obtain ⟨value, hvalue⟩ : ∃ value, v'.get? given.1 = some value := by
    rw [StructValue.get?]
    cases hfind : v'.fields.find? fun f => f.1 = given.1 with
    | none => simpa using List.find?_eq_none.1 hfind given hgiven
    | some found => exact ⟨found.2, rfl⟩
  obtain ⟨given', hgiven', hsame, -⟩ := StructValue.mem_of_get? ((hget _).symm.trans hvalue)
  exact hsame ▸ hknown given' hgiven'

theorem encodeFields_congr_get? {ρ ε : Type} (slices : SliceAccess ρ ε) (owner : String)
    (hget : ∀ name, v'.get? name = v.get? name) (fields : List FieldDescriptor) :
    encodeFields slices owner v' fields = encodeFields slices owner v fields := by
  induction fields with
  | nil => rw [encodeFields, encodeFields]
  | cons f rest ih => rw [encodeFields, encodeFields, encodeField, encodeField, ih, hget]

/-- Values that are entered and have the same fields are encoded alike, in whatever order. -/
theorem encodeStruct_congr {ρ ε : Type} (slices : SliceAccess ρ ε)
    (htype : v'.typeName = v.typeName) (hget : ∀ name, v'.get? name = v.get? name)
    (h : type.Enters v) : encodeStruct slices type v' = encodeStruct slices type v := by
  have h' := enters_congr htype hget h
  cases type with
  | primitive p => cases h.1
  | struct name size fields =>
      rw [enters_struct_iff] at h h'
      rw [encodeStruct, encodeStruct, encodeType_struct, encodeType_struct,
        if_neg (not_not.2 h.1), if_neg (not_not.2 h'.1), h.2, h'.2]
      dsimp only
      rw [encodeFields_congr_get? slices name hget fields]

end Enters

namespace Runtime

/-! ## Writing -/

/-- A struct is placed just when it is encoded, after all its texts. -/
theorem placeStruct_cases (b : Backend σ) (type : TypeDescriptor) (v : StructValue)
    (t : Traced σ) :
    let encoded := (encodeStruct (guestSlices b.memory) type v).from t
    (∃ fault, encoded.1 = .error fault ∧
      (placeStruct b type v).from t = (.error (.ofCodec fault), encoded.2)) ∨
    ∃ bytes answer s events, encoded.1 = .ok bytes ∧
      (placeStruct b type v).from t = (answer.mapError CallFault.sandbox,
        ⟨s, encoded.2.trace ++ [⟨.alloc bytes answer, events⟩]⟩) := by
  intro encoded
  rcases hencoded : encoded with ⟨fault | bytes, t'⟩
  · refine .inl ⟨fault, rfl, ?_⟩
    rw [placeStruct, Fallible.from_bind, Fallible.from_adapt,
      show (encodeStruct (guestSlices b.memory) type v).from t = _ from hencoded]
    rfl
  · rcases hreply : b.alloc bytes t'.sandbox with ⟨answer, s, events⟩
    refine .inr ⟨bytes, answer, s, events, rfl, ?_⟩
    have halloc : (b.memory.alloc bytes).from t' =
        (answer, ⟨s, t'.trace ++ [⟨.alloc bytes answer, events⟩]⟩) := perform_from hreply _
    rw [placeStruct, Fallible.from_bind, Fallible.from_adapt,
      show (encodeStruct (guestSlices b.memory) type v).from t = _ from hencoded]
    dsimp only [Except.mapError]
    rw [sandboxStep, Fallible.from_adapt, halloc]
    rfl

variable {r : Registry} {rt : Runtime σ} {digest : String} {program : Program} {sandbox : σ}
  {type : TypeDescriptor}

theorem writeStruct_of_get? (hphase : rt.phase = .ready digest program sandbox) {v : StructValue}
    (htype : r.get? v.typeName = some type) :
    rt.writeStruct b r v =
      inGuest rt.config digest program sandbox v.typeName (placeStruct b type v) := by
  rw [writeStruct, hphase]
  dsimp only
  rw [Registry.lookup_eq_ok_iff.2 htype]

theorem writeStruct_of_none (hphase : rt.phase = .ready digest program sandbox) {v : StructValue}
    (hnone : r.get? v.typeName = none) :
    rt.writeStruct b r v = rt.refuse (.registry (.notFound v.typeName)) := by
  rw [writeStruct, hphase]
  dsimp only
  rw [Registry.lookup_of_get?_eq_none hnone]

/-- Writing a struct value makes the requests of placing it, and answers where it is. -/
theorem writeStruct_cases (hphase : rt.phase = .ready digest program sandbox) {v : StructValue}
    (htype : r.get? v.typeName = some type) :
    let out := rt.writeStruct b r v
    let encoded := (encodeStruct (guestSlices b.memory) type v).from ⟨sandbox, []⟩
    (∀ bytes, encoded.1 = .ok bytes → ∃ answer events,
      out.trace = encoded.2.trace ++ [⟨.alloc bytes answer, events⟩] ∧
        ∀ address, out.result = .ok address ↔ answer = .ok address) ∧
    ∀ fault, encoded.1 = .error fault →
      out.trace = encoded.2.trace ∧ ∃ e, out.result = .error e := by
  intro out encoded
  have hout : out = inGuest rt.config digest program sandbox v.typeName (placeStruct b type v) :=
    writeStruct_of_get? hphase htype
  rcases placeStruct_cases b type v ⟨sandbox, []⟩ with
    ⟨fault, hencoded, hplace⟩ | ⟨bytes, answer, s, events, hencoded, hplace⟩
  · rw [hout, inGuest_eq_of_from hplace]
    refine ⟨fun bytes hok => ?_, fun _ _ => ⟨rfl, _, rfl⟩⟩
    cases hok.symm.trans hencoded
  · rw [hout, inGuest_eq_of_from hplace]
    refine ⟨fun bytes' hok => ?_, fun fault herror => ?_⟩
    · cases hok.symm.trans hencoded
      refine ⟨answer, events, rfl, fun address => ?_⟩
      cases answer <;> simp [Except.mapError]
    · cases herror.symm.trans hencoded

/-- A struct value that is not entered is not asked for anything. -/
theorem writeStruct_trace_of_not_enters (hphase : rt.phase = .ready digest program sandbox)
    {v : StructValue} (htype : r.get? v.typeName = some type) (h : ¬ type.Enters v) :
    (rt.writeStruct b r v).trace = [] := by
  obtain ⟨e, hsteps⟩ := storeSteps_of_not_enters h
  have hencode : encodeStruct (guestSlices b.memory) type v = throw (e.map Empty.elim) := by
    have halike := encodeType_alike (guestSlices b.memory) (guestSlices b.memory) type v
    rw [hsteps] at halike
    exact halike.1
  have hcases := (writeStruct_cases (b := b) hphase htype).2
  rw [hencode] at hcases
  exact (hcases _ rfl).1

/-- The order in which a struct value gives its fields makes no difference. -/
theorem writeStruct_trace_congr (hphase : rt.phase = .ready digest program sandbox)
    {v v' : StructValue} (htype : r.get? v.typeName = some type)
    (hname : v'.typeName = v.typeName) (hget : ∀ name, v'.get? name = v.get? name) :
    (rt.writeStruct b r v').trace = (rt.writeStruct b r v).trace := by
  have htype' : r.get? v'.typeName = some type := hname ▸ htype
  by_cases h : type.Enters v
  · have hplace : placeStruct b type v' = placeStruct b type v := by
      rw [placeStruct, placeStruct, encodeStruct_congr _ hname hget h]
    rw [writeStruct_of_get? hphase htype, writeStruct_of_get? hphase htype', hplace, hname]
  · have h' : ¬ type.Enters v' := fun h' => h (enters_congr hname.symm (fun n => (hget n).symm) h')
    rw [writeStruct_trace_of_not_enters hphase htype h,
      writeStruct_trace_of_not_enters hphase htype' h']

end Runtime

/-! ## Reading -/

/-- The trace and the outcome of reading a struct of the type at the address: its bytes are read,
and if there are enough of them, its texts in order. -/
inductive Trace.Reads (type : TypeDescriptor) (address : UInt32) :
    Trace → Except RuntimeError StructValue → Prop where
  /-- The bytes are not read. -/
  | unread {cause : SandboxError} {events : List HostEvent} {e : RuntimeError} :
      Trace.Reads type address [⟨.read address type.size (.error cause), events⟩] (.error e)
  /-- There are too few bytes. -/
  | short {raw : Bytes} {events : List HostEvent} {e : RuntimeError}
      (h : raw.length < type.size.toNat) :
      Trace.Reads type address [⟨.read address type.size (.ok raw), events⟩] (.error e)
  /-- A text is not read. -/
  | stopped {raw : Bytes} {read : Trace} {cause : SandboxError} {events : List HostEvent}
      {e : RuntimeError} (h : type.size.toNat ≤ raw.length)
      (hread : Trace.Asks SandboxCall.readSlice (loadedSlices type raw) read (.error cause)) :
      Trace.Reads type address (⟨.read address type.size (.ok raw), events⟩ :: read) (.error e)
  /-- The struct is read. -/
  | answered {raw : Bytes} {read : Trace} {parts : List Bytes} {events : List HostEvent}
      {v : StructValue} (h : type.size.toNat ≤ raw.length)
      (hread : Trace.Asks SandboxCall.readSlice (loadedSlices type raw) read (.ok parts)) :
      Trace.Reads type address (⟨.read address type.size (.ok raw), events⟩ :: read) (.ok v)

/-- Every entry is for a key. -/
theorem Trace.Asks.exists_key {call : ι → Except SandboxError γ → SandboxCall} {keys : List ι}
    {t : Trace} {answers : Except SandboxError (List γ)} (h : Trace.Asks call keys t answers) :
    ∀ entry ∈ t, ∃ key answer, entry.call = call key answer := by
  induction h with
  | done => simp
  | answered _ ih => exact List.forall_mem_cons.2 ⟨⟨_, _, rfl⟩, ih⟩
  | failed =>
      intro entry hentry
      obtain rfl := List.mem_singleton.1 hentry
      exact ⟨_, _, rfl⟩

theorem Trace.Walks.exists_asks {call : ι → Except SandboxError γ → SandboxCall} {keys : List ι}
    {refused : Option (CodecError Empty)} {t : Trace} {x : Except (CodecError SliceFault) β}
    (h : Trace.Walks call keys refused t x) : ∃ answers, Trace.Asks call keys t answers := by
  cases h with
  | stopped h | refused h | answered h => exact ⟨_, h⟩

namespace Runtime

/-- A struct is fetched by reading its bytes and walking over them. -/
theorem fetchStruct_cases (b : Backend σ) (type : TypeDescriptor) (address : UInt32)
    (sandbox : σ) :
    (∃ cause s events, (fetchStruct b type address).from ⟨sandbox, []⟩ =
      (.error (.sandbox cause), ⟨s, [⟨.read address type.size (.error cause), events⟩]⟩)) ∨
    ∃ raw events x s read, (fetchStruct b type address).from ⟨sandbox, []⟩ =
        (x.mapError CallFault.ofCodec,
          ⟨s, ⟨.read address type.size (.ok raw), events⟩ :: read⟩) ∧
      Trace.Walks SandboxCall.readSlice (loadedSlices type raw) (refused? (loadSteps type raw))
        read x := by
  rcases hreply : b.read address type.size sandbox with ⟨answer, s, events⟩
  have hread : (b.memory.read address type.size).from ⟨sandbox, []⟩ =
      (answer, ⟨s, [⟨.read address type.size answer, events⟩]⟩) := perform_from hreply _
  rw [fetchStruct, Fallible.from_bind, sandboxStep, Fallible.from_adapt, hread]
  cases answer with
  | error cause => exact .inl ⟨cause, s, events, rfl⟩
  | ok raw =>
      obtain ⟨x, s', read, hdecode, hwalks⟩ :=
        decodeStruct_walks b type raw ⟨s, [⟨.read address type.size (.ok raw), events⟩]⟩
      refine .inr ⟨raw, events, x, s', read, ?_, hwalks⟩
      dsimp only [Except.mapError]
      rw [Fallible.from_adapt, hdecode]
      rfl

variable {r : Registry} {rt : Runtime σ} {digest : String} {program : Program} {sandbox : σ}
  {type : TypeDescriptor} {typeName : String}

theorem readStruct_of_get? (hphase : rt.phase = .ready digest program sandbox)
    (htype : r.get? typeName = some type) (address : UInt32) :
    rt.readStruct b r typeName address =
      inGuest rt.config digest program sandbox typeName (fetchStruct b type address) := by
  rw [readStruct, hphase]
  dsimp only
  rw [Registry.lookup_eq_ok_iff.2 htype]

theorem readStruct_of_none (hphase : rt.phase = .ready digest program sandbox)
    (hnone : r.get? typeName = none) (address : UInt32) :
    rt.readStruct b r typeName address = rt.refuse (.registry (.notFound typeName)) := by
  rw [readStruct, hphase]
  dsimp only
  rw [Registry.lookup_of_get?_eq_none hnone]

/-- Reading never places anything. -/
theorem readStruct_not_alloc (hphase : rt.phase = .ready digest program sandbox)
    (address : UInt32) :
    ∀ entry ∈ (rt.readStruct b r typeName address).trace, ∀ bytes answer,
      entry.call ≠ .alloc bytes answer := by
  cases htype : r.get? typeName with
  | none =>
      rw [readStruct_of_none hphase htype]
      nofun
  | some type =>
      rw [readStruct_of_get? hphase htype]
      rcases fetchStruct_cases b type address sandbox with
        ⟨cause, s, events, hfetch⟩ | ⟨raw, events, x, s, read, hfetch, hwalks⟩
      · rw [inGuest_eq_of_from hfetch]
        simp
      · rw [inGuest_eq_of_from hfetch]
        refine List.forall_mem_cons.2 ⟨nofun, fun entry hentry => ?_⟩
        obtain ⟨answers, hasks⟩ := hwalks.exists_asks
        obtain ⟨slice, answer, hcall⟩ := hasks.exists_key entry hentry
        rw [hcall]
        exact nofun

/-- A struct of a type that is laid out is read by its bytes and its texts. -/
theorem readStruct_reads (hphase : rt.phase = .ready digest program sandbox)
    (htype : r.get? typeName = some type) (hlaid : type.LaidOut) (hstruct : type.isStruct = true)
    (address : UInt32) :
    Trace.Reads type address (rt.readStruct b r typeName address).trace
      (rt.readStruct b r typeName address).result := by
  rw [readStruct_of_get? hphase htype]
  rcases fetchStruct_cases b type address sandbox with
    ⟨cause, s, events, hfetch⟩ | ⟨raw, events, x, s, read, hfetch, hwalks⟩
  · rw [inGuest_eq_of_from hfetch]
    exact .unread
  · rw [inGuest_eq_of_from hfetch]
    rcases Nat.lt_or_ge raw.length type.size.toNat with hshort | hlong
    · -- Nothing is wanted of too few bytes.
      obtain ⟨e, hsteps⟩ : ∃ e, loadSteps type raw = [.refuse e] := by
        cases type with
        | primitive p => cases hstruct
        | struct name size fields => exact ⟨_, by rw [loadSteps]; exact if_pos hshort⟩
      rw [loadedSlices, hsteps] at hwalks
      cases hwalks with
      | stopped h => cases h
      | refused h _ =>
          cases h
          exact .short hshort
      | answered _ hnone => cases hnone
    · have hfits := refused?_eq_none_iff.2 (fits_loadSteps type hlaid hstruct hlong)
      cases hwalks with
      | stopped h => exact .stopped hlong h
      | refused _ he => cases he.symm.trans hfits
      | answered h _ => exact .answered hlong h

/-- Over a registry that was made by any requests, a runtime in working order asks its sandbox for
the following.  To write a struct value: to place the texts of its fields, depth first in the order
of the type and whatever order it gives them in, up to the first failure or to where something does
not fit; and if it is encoded, to place its bytes, whose address is the answer.  A value that is not
entered asks for nothing.  To read a struct: to read its bytes, and if there are enough, its texts,
depth first in the order of the type; it never places anything. -/
theorem structs_traced (b : Backend σ) (requests : List RegistryRequest)
    (hphase : rt.phase = .ready digest program sandbox) :
    let r := Registry.primitives.afterAll requests
    (∀ v : StructValue, v.TextsFit →
      let out := rt.writeStruct b r v
      (r.get? v.typeName = none → out.trace = []) ∧
      ∀ type, r.get? v.typeName = some type →
        let encoded := (encodeStruct (guestSlices b.memory) type v).from ⟨sandbox, []⟩
        Trace.Walks .alloc (placedFor type v) (refused? (storeSteps type v)) encoded.2.trace
          encoded.1 ∧
        (∀ bytes, encoded.1 = .ok bytes → ∃ answer events,
          out.trace = encoded.2.trace ++ [⟨.alloc bytes answer, events⟩] ∧
            ∀ address, out.result = .ok address ↔ answer = .ok address) ∧
        (∀ fault, encoded.1 = .error fault →
          out.trace = encoded.2.trace ∧ ∃ e, out.result = .error e) ∧
        (¬ type.Enters v → out.trace = []) ∧
        ∀ v', v'.typeName = v.typeName → (∀ name, v'.get? name = v.get? name) →
          (rt.writeStruct b r v').trace = out.trace) ∧
    ∀ typeName address,
      let out := rt.readStruct b r typeName address
      (∀ entry ∈ out.trace, ∀ bytes answer, entry.call ≠ .alloc bytes answer) ∧
      (r.get? typeName = none → out.trace = []) ∧
      ∀ type, r.get? typeName = some type → type.isStruct = true →
        Trace.Reads type address out.trace out.result := by
  intro r
  refine ⟨fun v hfits => ⟨fun hnone => ?_, fun type htype => ⟨?_, ?_⟩⟩,
    fun typeName address => ⟨readStruct_not_alloc hphase address, fun hnone => ?_,
      fun type htype hstruct => ?_⟩⟩
  · rw [writeStruct_of_none hphase hnone]
    rfl
  · obtain ⟨x, s, added, hencode, hwalks⟩ := encodeStruct_walks b type hfits ⟨sandbox, []⟩
    rw [hencode]
    exact hwalks
  · obtain ⟨hplaced, hrefused⟩ := writeStruct_cases (b := b) hphase htype
    exact ⟨hplaced, hrefused, writeStruct_trace_of_not_enters hphase htype,
      fun v' hname hget => writeStruct_trace_congr hphase htype hname hget⟩
  · rw [readStruct_of_none hphase hnone]
    rfl
  · exact readStruct_reads hphase htype ((Registry.wellFormed_afterAll requests).laidOut htype)
      hstruct address

/-- A sandbox that places bytes one after the other, and whose memory reads as zeros. -/
def zeroMemory : Backend UInt32 where
  load _ _ _ := (.ok 8, [])
  exports _ := []
  runInitializer _ s := ⟨.ok false, s, []⟩
  invoke _ _ s := ⟨.ok [], s, []⟩
  alloc bytes s := ⟨.ok s, s + UInt32.ofNat bytes.length, []⟩
  read _ length s := ⟨.ok (List.replicate length.toNat 0), s, []⟩

/-- A runtime in working order on that sandbox. -/
def zeroRuntime : Runtime UInt32 :=
  ⟨.standard, .ready "" .none 8⟩

/-- The pair whose left label has a text, with its fields the other way round. -/
def turnedPair : StructValue :=
  ⟨"pair", textedPair.fields.reverse⟩

theorem textsFit_textedPair : textedPair.TextsFit := by
  have hlabel : ∀ {text other : String} {id : UInt32},
      FieldValue.HasText text
        (.struct "label" [("text", .scalar (.string other)), ("id", .scalar (.u32 id))]) →
      text = other := by
    intro text other id h
    cases h with
    | field hmem h =>
        rcases List.mem_cons.1 hmem with rfl | hmem
        · cases h
          rfl
        · obtain rfl := List.mem_singleton.1 hmem
          cases h
  intro text h
  cases h with
  | field hmem h =>
      rcases List.mem_cons.1 hmem with rfl | hmem
      · obtain rfl := hlabel h
        decide
      · obtain rfl := List.mem_singleton.1 hmem
        obtain rfl := hlabel h
        decide

theorem structs_traced_pair :
    let r := Registry.primitives.afterAll Registry.pairRequests
    let encoded := (encodeStruct (guestSlices zeroMemory.memory) Registry.pairType textedPair).from
      ⟨8, []⟩
    let read := zeroRuntime.readStruct zeroMemory r "pair" 64
    textedPair.TextsFit ∧ r.get? "pair" = some Registry.pairType ∧
      placedFor Registry.pairType textedPair = [[104, 105]] ∧
      Trace.Walks .alloc [[104, 105]] none encoded.2.trace encoded.1 ∧
      (zeroRuntime.writeStruct zeroMemory r turnedPair).trace =
        (zeroRuntime.writeStruct zeroMemory r textedPair).trace ∧
      Trace.Reads Registry.pairType 64 read.trace read.result := by
  have htype : (Registry.primitives.afterAll Registry.pairRequests).get? "pair" =
      some Registry.pairType := by cbv
  have hplaced : placedFor Registry.pairType textedPair = [[104, 105]] := by cbv
  have hfits : refused? (storeSteps Registry.pairType textedPair) = none := by cbv
  have hget : ∀ name, turnedPair.get? name = textedPair.get? name := by
    intro name
    by_cases hleft : name = "left"
    · subst hleft
      rfl
    · by_cases hright : name = "right"
      · subst hright
        rfl
      · simp [StructValue.get?, turnedPair, textedPair, Ne.symm hleft, Ne.symm hright]
  have htraced := structs_traced zeroMemory Registry.pairRequests
    (rfl : zeroRuntime.phase = .ready "" .none 8)
  -- Unfolding the registry would only slow down what follows.
  generalize Registry.primitives.afterAll Registry.pairRequests = registry at htype htraced
  intro r encoded read
  obtain ⟨hwalks, -, -, -, hturned⟩ := (htraced.1 textedPair textsFit_textedPair).2 _ htype
  rw [hplaced, hfits] at hwalks
  exact ⟨textsFit_textedPair, htype, hplaced, hwalks, hturned turnedPair rfl hget,
    (htraced.2 "pair" 64).2.2 _ htype rfl⟩

end Runtime

end GuestBridge
