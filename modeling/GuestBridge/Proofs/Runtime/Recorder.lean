import GuestBridge.Proofs.Runtime.Faults

/-!
# Failures in words

Slices may tell their failures in words only and keep the failure of the guest beside the memory
(`recordingSlices`); after the codec is done, a fatal failure that was kept counts for itself, and
any other is left to the words of the codec (`recorded`).  This comes to the same as slices that
carry the failure along, for every struct that is placed or fetched (`placeRecorded_eq`,
`fetchRecorded_eq`): a walk stops at the first failure, so what is kept is the very cause of what
the codec fails with.

So the first call that fails is the last one also when it is told in words, and what was kept makes
a fatal trap count for itself (`placeRecorded_faults`, `fetchRecorded_faults`).
-/

namespace GuestBridge

variable {σ μ ε ε' κ α β : Type}

/-- Guest memory, and the last failure that was kept. -/
abbrev Recorder (μ : Type) := μ × Option SandboxError

/-- Tells a failure of the guest in words, and keeps it. -/
def record (op : GuestM μ α) : Fallible (Recorder μ) String α :=
  .ofFunction fun s =>
    match op.from s.1 with
    | (.ok a, m) => (.ok a, (m, s.2))
    | (.error e, m) => (.error e.message, (m, some e))

/-- The texts of struct fields in guest memory, with failures told in words. -/
def recordingSlices (mem : GuestMemory μ) : SliceAccess (Recorder μ) String where
  store text := do
    let part := Text.encode text
    if UInt32.size ≤ part.length then throw (SliceFault.tooLong part.length).message
    if part.isEmpty then return (0, 0)
    let address ← record (mem.alloc part)
    return (address, UInt32.ofNat part.length)
  load address length := do
    if length = 0 then return ""
    let part ← record (mem.read address length)
    return Text.decodeLossy part

/-- A failure of the sandbox, or one of a codec in words. -/
inductive WordedFault where
  | sandbox (e : SandboxError)
  | layout (e : CodecError String)

/-- What counts of the failure that was kept and the one that the codec tells. -/
def WordedFault.ofKept (kept : Option SandboxError) (e : CodecError String) : WordedFault :=
  match kept with
  | some cause => if cause.isFatal then .sandbox cause else .layout e
  | none => .layout e

/-- Runs a codec with nothing kept, and then looks at what is. -/
def recorded (c : SliceM (Recorder μ) String α) : Fallible μ WordedFault α :=
  .ofFunction fun s =>
    let (x, m, kept) := c.from (s, none)
    (x.mapError (.ofKept kept), m)

/-- The fault with its codec failure in words. -/
def CallFault.worded : CallFault → WordedFault
  | sandbox e => .sandbox e
  | layout e => .layout (e.map SliceFault.message)

theorem CallFault.worded_ofCodec (e : CodecError SliceFault) :
    (ofCodec e).worded = .ofKept e.cause? (e.map SliceFault.message) := by
  cases e with
  | indirect owner field fault =>
      cases fault with
      | tooLong bytes => rfl
      | guest cause => cases hfatal : cause.isFatal <;>
          simp [ofCodec, worded, WordedFault.ofKept, CodecError.cause?, SliceFault.cause?, hfatal]
  | _ => rfl

/-! ## Computations that record -/

/-- The second computation does what the first does, tells its failures in words, and keeps the
cause of one if it has any. -/
def Records (words : ε → ε') (cause : ε → Option SandboxError) (c : Fallible μ ε α)
    (c' : Fallible (Recorder μ) ε' α) : Prop :=
  ∀ s kept, c'.from (s, kept) =
    match c.from s with
    | (.ok a, s') => (.ok a, (s', kept))
    | (.error e, s') => (.error (words e), (s', (cause e).or kept))

section Rules

variable {words : ε → ε'} {cause : ε → Option SandboxError}

theorem records_pure (a : α) :
    Records words cause (pure a : Fallible μ ε α) (pure a : Fallible (Recorder μ) ε' α) :=
  fun _ _ => rfl

theorem records_throw {e : ε} (h : cause e = none) :
    Records words cause (throw e : Fallible μ ε α)
      (throw (words e) : Fallible (Recorder μ) ε' α) := by
  intro s kept
  simp [h]

theorem Records.bind {c : Fallible μ ε α} {c' : Fallible (Recorder μ) ε' α}
    {f : α → Fallible μ ε β} {f' : α → Fallible (Recorder μ) ε' β} (hc : Records words cause c c')
    (hf : ∀ a, Records words cause (f a) (f' a)) :
    Records words cause (c >>= f) (c' >>= f') := by
  intro s kept
  rw [Fallible.from_bind, Fallible.from_bind, hc s kept]
  rcases c.from s with ⟨e | a, s'⟩
  · rfl
  · exact hf a s' kept

theorem records_record (op : GuestM μ α) :
    Records SliceFault.message SliceFault.cause? (ExceptT.adapt SliceFault.guest op)
      (record op) := by
  intro s kept
  rw [Fallible.from_adapt, record, Fallible.from_ofFunction]
  rcases op.from s with ⟨e | a, s'⟩ <;> rfl

/-- A slice that records makes its field record. -/
theorem Records.forField {c : Fallible μ SliceFault α} {c' : Fallible (Recorder μ) String α}
    (h : Records SliceFault.message SliceFault.cause? c c') (owner field : String) :
    Records (CodecError.map SliceFault.message) CodecError.cause? (forField owner field c)
      (forField owner field c') := by
  intro s kept
  rw [GuestBridge.forField, GuestBridge.forField, Fallible.from_adapt, Fallible.from_adapt,
    h s kept]
  rcases c.from s with ⟨e | a, s'⟩ <;> rfl

/-- Walks that are alike record when their slices do. -/
theorem Alike.records {ask : κ → Fallible μ SliceFault α}
    {ask' : κ → Fallible (Recorder μ) String α}
    (hask : ∀ what, Records SliceFault.message SliceFault.cause? (ask what) (ask' what))
    {steps : List (WalkStep κ)} {c : SliceM μ SliceFault β} {c' : SliceM (Recorder μ) String β}
    (h : Alike ask ask' steps c c') :
    Records (CodecError.map SliceFault.message) CodecError.cause? c c' := by
  induction steps generalizing c c' with
  | nil =>
      obtain ⟨b, rfl, rfl⟩ := h
      exact records_pure b
  | cons step rest ih =>
      cases step with
      | ask owner field what =>
          obtain ⟨next, next', rfl, rfl, hnext⟩ := h
          exact ((hask what).forField owner field).bind fun a => ih (hnext a)
      | refuse e =>
          obtain ⟨rfl, rfl⟩ := h
          cases e with
          | indirect _ _ cause => exact cause.elim
          | _ => exact records_throw rfl

end Rules

/-! ## Recorded codecs -/

section Codecs

variable (mem : GuestMemory μ)

theorem recordingSlices_store (text : String) :
    (recordingSlices mem).store text =
      if UInt32.size ≤ (Text.encode text).length then
        throw (SliceFault.tooLong (Text.encode text).length).message
      else if (Text.encode text).isEmpty then pure (0, 0)
      else record (mem.alloc (Text.encode text)) >>= fun address =>
        pure (address, UInt32.ofNat (Text.encode text).length) := by
  rw [recordingSlices]
  dsimp only
  split_ifs <;> rfl

theorem records_store (text : String) :
    Records SliceFault.message SliceFault.cause? ((guestSlices mem).store text)
      ((recordingSlices mem).store text) := by
  rw [guestSlices_store, recordingSlices_store]
  split_ifs
  · exact records_throw rfl
  · exact records_pure _
  · exact (records_record _).bind fun _ => records_pure _

theorem recordingSlices_load (address length : UInt32) :
    (recordingSlices mem).load address length =
      if length = 0 then pure ""
      else record (mem.read address length) >>= fun part => pure (Text.decodeLossy part) := by
  rw [recordingSlices]

theorem records_load (slice : UInt32 × UInt32) :
    Records SliceFault.message SliceFault.cause? ((guestSlices mem).loadSlice slice)
      ((recordingSlices mem).loadSlice slice) := by
  obtain ⟨address, length⟩ := slice
  rw [SliceAccess.loadSlice, SliceAccess.loadSlice, recordingSlices_load, guestSlices]
  dsimp only
  rw [readText_eq]
  split_ifs
  · exact records_pure _
  · rw [Fallible.adapt_bind]
    exact (records_record _).bind fun _ => records_pure _

variable {mem}

theorem recorded_eq {c : SliceM μ SliceFault α} {c' : SliceM (Recorder μ) String α}
    (h : Records (CodecError.map SliceFault.message) CodecError.cause? c c') :
    recorded c' = ExceptT.adapt (fun e => (CallFault.ofCodec e).worded) c := by
  refine Fallible.ext fun s => ?_
  rw [recorded, Fallible.from_ofFunction, h s none, Fallible.from_adapt]
  rcases c.from s with ⟨e | a, s'⟩
  · simp [Except.mapError, CallFault.worded_ofCodec]
  · rfl

variable (mem)

/-- Placing the texts of a struct with failures in words comes to the same. -/
theorem recorded_encodeStruct (type : TypeDescriptor) (v : StructValue) :
    recorded (encodeStruct (recordingSlices mem) type v) =
      ExceptT.adapt (fun e => (CallFault.ofCodec e).worded)
        (encodeStruct (guestSlices mem) type v) :=
  recorded_eq ((encodeType_alike (guestSlices mem) (recordingSlices mem) type v).records
    (records_store mem))

/-- Fetching the texts of a struct with failures in words comes to the same. -/
theorem recorded_decodeStruct (type : TypeDescriptor) (raw : Bytes) :
    recorded (decodeStruct (recordingSlices mem) type raw) =
      ExceptT.adapt (fun e => (CallFault.ofCodec e).worded)
        (decodeStruct (guestSlices mem) type raw) :=
  recorded_eq ((decodeType_alike (guestSlices mem) (recordingSlices mem) type raw).records
    (records_load mem))

end Codecs

/-! ## Structs in a guest -/

/-- Places a struct value in guest memory, with failures of its texts in words. -/
def placeRecorded (b : Backend σ) (type : TypeDescriptor) (v : StructValue) :
    Fallible (Traced σ) WordedFault UInt32 := do
  let bytes ← recorded (encodeStruct (recordingSlices b.memory) type v)
  ExceptT.adapt WordedFault.sandbox (b.memory.alloc bytes)

/-- Fetches a struct value from guest memory, with failures of its texts in words. -/
def fetchRecorded (b : Backend σ) (type : TypeDescriptor) (address : UInt32) :
    Fallible (Traced σ) WordedFault StructValue := do
  let bytes ← ExceptT.adapt WordedFault.sandbox (b.memory.read address type.size)
  recorded (decodeStruct (recordingSlices b.memory) type bytes)

theorem placeRecorded_eq (b : Backend σ) (type : TypeDescriptor) (v : StructValue) :
    placeRecorded b type v = ExceptT.adapt CallFault.worded (Runtime.placeStruct b type v) := by
  rw [placeRecorded, Runtime.placeStruct, Fallible.adapt_bind, Fallible.adapt_adapt,
    recorded_encodeStruct]
  refine congrArg _ (funext fun bytes => ?_)
  rw [sandboxStep, Fallible.adapt_adapt]
  rfl

theorem fetchRecorded_eq (b : Backend σ) (type : TypeDescriptor) (address : UInt32) :
    fetchRecorded b type address =
      ExceptT.adapt CallFault.worded (Runtime.fetchStruct b type address) := by
  rw [fetchRecorded, Runtime.fetchStruct, Fallible.adapt_bind, sandboxStep, Fallible.adapt_adapt]
  refine congrArg _ (funext fun bytes => ?_)
  rw [Fallible.adapt_adapt, recorded_decodeStruct]

/-! ## Failures of calls -/

namespace WordedFault

/-- The fault is not one of the guest, or at least no trap. -/
def Own : WordedFault → Prop
  | sandbox e => ¬ e.IsTrap
  | layout _ => True

/-- The fault that the failure of a call becomes, given the struct and the field for which the call
was made: a fatal one as it is, and any other in words. -/
def blamed (blame : Option (String × String)) (e : SandboxError) : WordedFault :=
  match blame with
  | none => .sandbox e
  | some (owner, field) => .ofKept (some e) (.indirect owner field e.message)

theorem blamed_trap (blame : Option (String × String)) (message : String) :
    blamed blame (.trap message true) = .sandbox (.trap message true) := by
  cases blame <;> rfl

end WordedFault

namespace CallFault

theorem Own.worded {fault : CallFault} (h : fault.Own) : fault.worded.Own := by
  cases fault with
  | sandbox e => exact h
  | layout e => trivial

theorem worded_blamed (blame : Option (String × String)) (e : SandboxError) :
    (blamed blame e).worded = .blamed blame e := by
  rcases blame with _ | ⟨owner, field⟩
  · rfl
  · exact worded_ofCodec (.indirect owner field (.guest e))

end CallFault

namespace Fallible

/-- The computation fails with what the failure of a call becomes in words for the field that is to
blame given the calls before, and has no trap of its own. -/
def EndsInWords (c : Fallible (Traced σ) WordedFault α) (blame : Trace → Option (String × String)) :
    Prop :=
  c.Ends (fun _ _ => True) WordedFault.Own fun before e fault => fault = .blamed (blame before) e

variable {blame : Trace → Option (String × String)}

theorem EndsBlaming.inWords {c : ProgramM σ α} (h : c.EndsBlaming blame) :
    EndsInWords (ExceptT.adapt CallFault.worded c) blame := by
  refine h.adapt (fun _ _ => id) (fun _ hown => hown.worded) fun before e fault hfault => ?_
  rw [hfault, CallFault.worded_blamed]

/-- A call that fails is the last one, and the computation fails for it: with its error if that is
a fatal trap.  It has no trap that was not met. -/
theorem EndsInWords.faults {c : Fallible (Traced σ) WordedFault α} (h : c.EndsInWords blame)
    (t : Traced σ) :
    ∃ added, (c.from t).2.trace = t.trace ++ added ∧
      (∀ (before after : Trace) entry e, added = before ++ entry :: after →
        entry.failure? = some e → after = [] ∧ before.Clean ∧
          (c.from t).1 = .error (.blamed (blame before) e)) ∧
      (added.Clean → ∀ message fatal, (c.from t).1 ≠ .error (.sandbox (.trap message fatal))) ∧
      ∀ entry ∈ added, ∀ message, entry.failure? = some (.trap message true) →
        (c.from t).1 = .error (.sandbox (.trap message true)) := by
  obtain ⟨added, htrace, hends⟩ := h t
  generalize (c.from t).1 = x at hends ⊢
  have hlast : ∀ (before after : Trace) entry e, added = before ++ entry :: after →
      entry.failure? = some e →
        after = [] ∧ before.Clean ∧ x = .error (.blamed (blame before) e) := by
    rintro before after entry e rfl hentry
    cases hends with
    | answered clean | refused clean => simp [clean entry (by simp)] at hentry
    | failed hlast hfault =>
        obtain ⟨rfl, rfl, rfl⟩ := hlast.of_append hentry
        exact ⟨rfl, hlast.1, by rw [hfault]⟩
  refine ⟨added, htrace, hlast, fun hclean message fatal hresult => ?_, ?_⟩
  · cases hresult
    cases hends with
    | refused _ hown => exact hown ⟨message, fatal, rfl⟩
    | failed hfails =>
        obtain ⟨-, entry, rfl, hentry⟩ := hfails
        simp [hclean entry (by simp)] at hentry
  · intro entry hmem message hentry
    obtain ⟨before, after, hadded⟩ := List.append_of_mem hmem
    rw [(hlast before after entry _ hadded hentry).2.2, WordedFault.blamed_trap]

end Fallible

/-- Placing a struct with failures of its texts in words stops at the first call that fails, for the
field whose text was to be placed.  A fatal trap that is met counts for itself. -/
theorem placeRecorded_faults (b : Backend σ) (type : TypeDescriptor) (v : StructValue)
    (t : Traced σ) :
    let x := ((placeRecorded b type v).from t).1
    ∃ added, ((placeRecorded b type v).from t).2.trace = t.trace ++ added ∧
      (∀ (before after : Trace) entry e, added = before ++ entry :: after →
        entry.failure? = some e → after = [] ∧ before.Clean ∧
          x = .error (.blamed (storedFor type v)[before.length]? e)) ∧
      (added.Clean → ∀ message fatal, x ≠ .error (.sandbox (.trap message fatal))) ∧
      ∀ entry ∈ added, ∀ message, entry.failure? = some (.trap message true) →
        x = .error (.sandbox (.trap message true)) := by
  rw [placeRecorded_eq]
  exact (Runtime.placeStruct_ends b type v).inWords.faults t

/-- Fetching a struct with failures of its texts in words stops at the first call that fails, for
the field whose text was to be fetched.  A fatal trap that is met counts for itself. -/
theorem fetchRecorded_faults (b : Backend σ) (type : TypeDescriptor) (address : UInt32)
    (t : Traced σ) :
    let x := ((fetchRecorded b type address).from t).1
    ∃ added, ((fetchRecorded b type address).from t).2.trace = t.trace ++ added ∧
      (∀ (before after : Trace) entry e, added = before ++ entry :: after →
        entry.failure? = some e → after = [] ∧ before.Clean ∧
          x = .error (.blamed (fetchBlame type before) e)) ∧
      (added.Clean → ∀ message fatal, x ≠ .error (.sandbox (.trap message fatal))) ∧
      ∀ entry ∈ added, ∀ message, entry.failure? = some (.trap message true) →
        x = .error (.sandbox (.trap message true)) := by
  rw [fetchRecorded_eq]
  exact (Runtime.fetchStruct_ends b type address).inWords.faults t

end GuestBridge
