import GuestBridge.Proofs.Layout.Walk
import GuestBridge.Proofs.Runtime.Guest

/-!
# How work in a sandbox ends

`Ends answers own fails` lists the ways in which work in a sandbox can end: it answers or is refused
and no call failed, or its last call failed, no call before it did, and it fails with what `fails`
makes of that.  `Fallible.Ends` says that a computation ends in one of these ways from wherever it
starts; it has a rule for each way to compose computations, so that nothing is asked of a sandbox
any more once a call failed.

Marshalling fails with the very error of the sandbox (`lowerValues_ends`, `liftValues_ends`), and a
codec on behalf of the field whose text was wanted: the fields that come to ask the guest are
`storedFor` and `loadedFor`, in order (`encodeType_ends`, `decodeType_ends`).
-/

namespace GuestBridge

variable {σ α β ε ε' κ : Type} {b : Backend σ}

/-! ## Calls that fail -/

/-- The error that the call was answered with. -/
def TraceEntry.failure? (entry : TraceEntry) : Option SandboxError :=
  match entry.call with
  | .load (.error e) | .runInitializer _ (.error e) | .invoke _ _ (.error e) | .alloc _ (.error e)
  | .read _ _ (.error e) => some e
  | _ => none

/-- No call failed. -/
def Trace.Clean (t : Trace) : Prop :=
  ∀ entry ∈ t, entry.failure? = none

/-- The last call failed with the error, and none before it. -/
def Trace.FailsAfter (t before : Trace) (e : SandboxError) : Prop :=
  before.Clean ∧ ∃ entry, t = before ++ [entry] ∧ entry.failure? = some e

namespace Trace

variable {t t' before : Trace} {e : SandboxError}

theorem clean_nil : Clean [] := by
  simp [Clean]

theorem clean_singleton {entry : TraceEntry} : Clean [entry] ↔ entry.failure? = none := by
  simp [Clean]

theorem Clean.append (h : t.Clean) (h' : t'.Clean) : Clean (t ++ t') :=
  List.forall_mem_append.2 ⟨h, h'⟩

theorem failsAfter_singleton {entry : TraceEntry} (h : entry.failure? = some e) :
    FailsAfter [entry] [] e :=
  ⟨clean_nil, entry, rfl, h⟩

/-- A trace that has a last entry is taken apart at that one or at an earlier one. -/
theorem eq_last_or_mem {last entry : TraceEntry} {after : Trace}
    (h : t ++ [last] = before ++ entry :: after) :
    (after = [] ∧ before = t ∧ entry = last) ∨ entry ∈ t := by
  rcases List.eq_nil_or_concat after with rfl | ⟨after, z, rfl⟩
  · obtain ⟨rfl, hentry⟩ := List.append_inj' h rfl
    exact .inl ⟨rfl, rfl, (List.cons.inj hentry).1.symm⟩
  · rw [List.concat_eq_append, ← List.cons_append, ← List.append_assoc] at h
    obtain ⟨rfl, -⟩ := List.append_inj' h rfl
    exact .inr (by simp)

/-- Whichever way the trace is taken apart at a call that failed, it is the last one. -/
theorem FailsAfter.of_append {before' after : Trace} {entry : TraceEntry} {e' : SandboxError}
    (h : FailsAfter (before' ++ entry :: after) before e) (he : entry.failure? = some e') :
    after = [] ∧ before' = before ∧ e' = e := by
  obtain ⟨hclean, last, heq, hlast⟩ := h
  rcases eq_last_or_mem heq.symm with ⟨rfl, rfl, rfl⟩ | hentry
  · exact ⟨rfl, rfl, Option.some.inj (he.symm.trans hlast)⟩
  · simp [hclean entry hentry] at he

theorem FailsAfter.append (h : t.Clean) (h' : t'.FailsAfter before e) :
    FailsAfter (t ++ t') (t ++ before) e := by
  obtain ⟨hbefore, entry, rfl, hentry⟩ := h'
  exact ⟨h.append hbefore, entry, (List.append_assoc _ _ _).symm, hentry⟩

end Trace

/-! ## Rules -/

/-- The ways in which work can end that leaves a trace. -/
inductive Ends (answers : Trace → α → Prop) (own : ε → Prop)
    (fails : Trace → SandboxError → ε → Prop) : Trace → Except ε α → Prop where
  | answered {t : Trace} {a : α} (clean : t.Clean) (h : answers t a) :
      Ends answers own fails t (.ok a)
  | refused {t : Trace} {fault : ε} (clean : t.Clean) (h : own fault) :
      Ends answers own fails t (.error fault)
  | failed {t before : Trace} {e : SandboxError} {fault : ε} (hlast : t.FailsAfter before e)
      (h : fails before e fault) : Ends answers own fails t (.error fault)

namespace Ends

variable {answers answers' : Trace → α → Prop} {own : ε → Prop}
  {fails : Trace → SandboxError → ε → Prop} {t : Trace} {x : Except ε α}

theorem mapError (h : Ends answers own fails t x) {g : ε → ε'} {own' : ε' → Prop}
    {fails' : Trace → SandboxError → ε' → Prop} (hanswers : ∀ t a, answers t a → answers' t a)
    (hown : ∀ fault, own fault → own' (g fault))
    (hfails : ∀ before e fault, fails before e fault → fails' before e (g fault)) :
    Ends answers' own' fails' t (x.mapError g) := by
  cases h with
  | answered clean h => exact .answered clean (hanswers _ _ h)
  | refused clean h => exact .refused clean (hown _ h)
  | failed hlast h => exact .failed hlast (hfails _ _ _ h)

theorem mono (h : Ends answers own fails t x) {own' : ε → Prop}
    {fails' : Trace → SandboxError → ε → Prop} (hanswers : ∀ t a, answers t a → answers' t a)
    (hown : ∀ fault, own fault → own' fault)
    (hfails : ∀ before e fault, fails before e fault → fails' before e fault) :
    Ends answers' own' fails' t x := by
  cases x <;> exact h.mapError (g := id) hanswers hown hfails

/-- What goes on after calls that were answered ends as it does there. -/
theorem after {added : Trace} (clean : added.Clean)
    (h : Ends (fun t => answers (added ++ t)) own (fun before => fails (added ++ before)) t x) :
    Ends answers own fails (added ++ t) x := by
  cases h with
  | answered clean' h => exact .answered (clean.append clean') h
  | refused clean' h => exact .refused (clean.append clean') h
  | failed hlast h => exact .failed (.append clean hlast) h

end Ends

namespace Fallible

/-- From every sandbox under way, what the computation adds to the trace and ends with is one of the
ways. -/
def Ends (answers : Trace → α → Prop) (own : ε → Prop) (fails : Trace → SandboxError → ε → Prop)
    (c : Fallible (Traced σ) ε α) : Prop :=
  ∀ t, ∃ added, (c.from t).2.trace = t.trace ++ added ∧
    GuestBridge.Ends answers own fails added (c.from t).1

variable {answers answers' : Trace → α → Prop} {own : ε → Prop}
  {fails : Trace → SandboxError → ε → Prop}

theorem ends_pure {a : α} (h : answers [] a) :
    Ends answers own fails (pure a : Fallible (Traced σ) ε α) :=
  fun _ => ⟨[], (List.append_nil _).symm, .answered Trace.clean_nil h⟩

theorem ends_throw {fault : ε} (h : own fault) :
    Ends answers own fails (throw fault : Fallible (Traced σ) ε α) :=
  fun _ => ⟨[], (List.append_nil _).symm, .refused Trace.clean_nil h⟩

theorem Ends.bind {c : Fallible (Traced σ) ε α} {f : α → Fallible (Traced σ) ε β}
    {answers' : Trace → β → Prop} (hc : c.Ends answers own fails)
    (hf : ∀ added a, answers added a → (f a).Ends (fun t => answers' (added ++ t)) own
      (fun before => fails (added ++ before))) :
    (c >>= f).Ends answers' own fails := by
  intro t
  obtain ⟨added, htrace, hends⟩ := hc t
  rw [from_bind]
  rcases hfrom : c.from t with ⟨x, t'⟩
  rw [hfrom] at htrace hends
  cases hends with
  | answered clean h =>
      obtain ⟨more, hmore, hends'⟩ := hf added _ h t'
      exact ⟨added ++ more, by rw [hmore, htrace, List.append_assoc], hends'.after clean⟩
  | refused clean h => exact ⟨added, htrace, .refused clean h⟩
  | failed hlast h => exact ⟨added, htrace, .failed hlast h⟩

theorem Ends.adapt {c : Fallible (Traced σ) ε α} (hc : c.Ends answers own fails) {g : ε → ε'}
    {own' : ε' → Prop} {fails' : Trace → SandboxError → ε' → Prop}
    (hanswers : ∀ t a, answers t a → answers' t a) (hown : ∀ fault, own fault → own' (g fault))
    (hfails : ∀ before e fault, fails before e fault → fails' before e (g fault)) :
    Fallible.Ends answers' own' fails' (ExceptT.adapt g c : Fallible (Traced σ) ε' α) := by
  intro t
  obtain ⟨added, htrace, hends⟩ := hc t
  exact ⟨added, htrace, hends.mapError hanswers hown hfails⟩

theorem Ends.mono {c : Fallible (Traced σ) ε α} (hc : c.Ends answers own fails)
    {own' : ε → Prop} {fails' : Trace → SandboxError → ε → Prop}
    (hanswers : ∀ t a, answers t a → answers' t a) (hown : ∀ fault, own fault → own' fault)
    (hfails : ∀ before e fault, fails before e fault → fails' before e fault) :
    c.Ends answers' own' fails' := by
  intro t
  obtain ⟨added, htrace, hends⟩ := hc t
  exact ⟨added, htrace, hends.mono hanswers hown hfails⟩

end Fallible

/-- A call that is answered with its error ends as it was answered. -/
theorem perform_ends {op : σ → Reply σ α} {entry : Except SandboxError α → SandboxCall}
    {answers : Trace → α → Prop} {own : SandboxError → Prop}
    {fails : Trace → SandboxError → SandboxError → Prop}
    (hok : ∀ a events, TraceEntry.failure? ⟨entry (.ok a), events⟩ = none ∧
      answers [⟨entry (.ok a), events⟩] a)
    (herror : ∀ e events, TraceEntry.failure? ⟨entry (.error e), events⟩ = some e ∧
      fails [] e e) :
    (Backend.perform op entry).Ends answers own fails := by
  intro t
  refine ⟨_, rfl, ?_⟩
  cases hresult : (op t.sandbox).result with
  | ok a =>
      obtain ⟨hclean, hanswers⟩ := hok a (op t.sandbox).events
      simp only [Backend.perform, Fallible.from_ofFunction, hresult]
      exact .answered (Trace.clean_singleton.2 hclean) hanswers
  | error e =>
      obtain ⟨hfailure, hfails⟩ := herror e (op t.sandbox).events
      simp only [Backend.perform, Fallible.from_ofFunction, hresult]
      exact .failed (Trace.failsAfter_singleton hfailure) hfails

theorem alloc_ends (b : Backend σ) (bytes : Bytes) (own : SandboxError → Prop) :
    (b.memory.alloc bytes).Ends
      (fun t address => ∃ events, t = [⟨.alloc bytes (.ok address), events⟩]) own
      (fun before e fault => before = [] ∧ fault = e) :=
  perform_ends (fun _ events => ⟨rfl, events, rfl⟩) fun _ _ => ⟨rfl, rfl, rfl⟩

theorem read_ends (b : Backend σ) (address length : UInt32) (own : SandboxError → Prop) :
    (b.memory.read address length).Ends
      (fun t bytes => ∃ events, t = [⟨.read address length (.ok bytes), events⟩]) own
      (fun before e fault => before = [] ∧ fault = e) :=
  perform_ends (fun _ events => ⟨rfl, events, rfl⟩) fun _ _ => ⟨rfl, rfl, rfl⟩

/-! ## Marshalling -/

/-- The computation fails with the very error of a call that failed, and traps for no other
reason. -/
def Fallible.EndsPlainly (c : Fallible (Traced σ) SandboxError α) : Prop :=
  c.Ends (fun _ _ => True) (fun e => ¬ e.IsTrap) fun _ e fault => fault = e

namespace Fallible.EndsPlainly

theorem of_ends {c : Fallible (Traced σ) SandboxError α} {answers : Trace → α → Prop}
    (h : c.Ends answers (fun _ => False) fun before e fault => before = [] ∧ fault = e) :
    c.EndsPlainly :=
  Ends.mono h (fun _ _ _ => trivial) (fun _ => False.elim) fun _ _ _ h => h.2

theorem composes : Composes (fun e => ¬ e.IsTrap)
    (fun {α : Type} (c : Fallible (Traced σ) SandboxError α) => c.EndsPlainly) :=
  ⟨fun _ => ends_pure trivial, fun he => ends_throw he, fun hc hf => Ends.bind hc fun _ a _ => hf a⟩

end Fallible.EndsPlainly

section Marshal

open Fallible

theorem lowerValues_ends (b : Backend σ) (args : List Value) :
    (lowerValues b.memory args).EndsPlainly :=
  lowerValues_composes EndsPlainly.composes (fun _ => .of_ends (alloc_ends b _ _)) args

theorem liftValues_ends (b : Backend σ) (kinds : List Kind) (words : List Word) :
    (liftValues b.memory kinds words).EndsPlainly :=
  liftValues_composes EndsPlainly.composes (fun _ _ => .of_ends (read_ends b _ _ _)) kinds words

theorem traceInvoke_ends (b : Backend σ) (name : String) (words : List Word) :
    (b.traceInvoke name words).EndsPlainly :=
  perform_ends (fun _ _ => ⟨rfl, trivial⟩) fun _ _ => ⟨rfl, rfl⟩

end Marshal

/-! ## Texts of fields -/

/-- The fields on whose behalf something is wanted that does come to ask, up to where something does
not fit. -/
def askers (asks : κ → Bool) : List (WalkStep κ) → List (String × String)
  | [] => []
  | .ask owner field what :: rest =>
      if asks what then (owner, field) :: askers asks rest else askers asks rest
  | .refuse _ :: _ => []

/-- The fields of a struct value, by struct and name, whose texts are placed in a guest, in order:
the empty ones are not. -/
def storedFor (type : TypeDescriptor) (v : StructValue) : List (String × String) :=
  askers (fun text => text ≠ "") (storeSteps type v)

/-- The fields of encoded bytes, by struct and name, whose texts are fetched from a guest, in order:
the empty ones are not. -/
def loadedFor (type : TypeDescriptor) (raw : Bytes) : List (String × String) :=
  askers (fun slice => slice.2 ≠ 0) (loadSteps type raw)

/-- The error of the guest that a text failed for. -/
def SliceFault.cause? : SliceFault → Option SandboxError
  | tooLong _ => none
  | guest e => some e

@[inherit_doc SliceFault.cause?]
def CodecError.cause? : CodecError SliceFault → Option SandboxError
  | indirect _ _ cause => cause.cause?
  | _ => none

/-- A text comes to ask the guest once or not at all. -/
def Fallible.EndsOnce (c : Fallible (Traced σ) SliceFault α) (asks : Bool) : Prop :=
  c.Ends (fun t _ => t.length = if asks then 1 else 0) (fun fault => fault.cause? = none)
    fun before e fault => before = [] ∧ asks = true ∧ fault = .guest e

/-- A codec that is wanted for the fields asks the guest once for each, and fails on behalf of the
field for which the guest failed. -/
def Fallible.EndsFor (c : Fallible (Traced σ) (CodecError SliceFault) α)
    (fields : List (String × String)) : Prop :=
  c.Ends (fun t _ => t.length = fields.length) (fun fault => fault.cause? = none)
    fun before e fault => ∃ owner field, fields[before.length]? = some (owner, field) ∧
      fault = .indirect owner field (.guest e)

/-- A walk on which each text is asked for once or not at all. -/
theorem Alike.endsFor {ρ ε' : Type} {ask : κ → Fallible (Traced σ) SliceFault α}
    {ask' : κ → Fallible ρ ε' α} {asks : κ → Bool} (hask : ∀ what, (ask what).EndsOnce (asks what))
    {steps : List (WalkStep κ)} {c : SliceM (Traced σ) SliceFault β} {c' : SliceM ρ ε' β}
    (h : Alike ask ask' steps c c') : c.EndsFor (askers asks steps) := by
  induction steps generalizing c c' with
  | nil =>
      obtain ⟨b, rfl, -⟩ := h
      exact Fallible.ends_pure rfl
  | cons step rest ih =>
      cases step with
      | refuse e =>
          obtain ⟨rfl, -⟩ := h
          refine Fallible.ends_throw ?_
          cases e with
          | indirect _ _ cause => exact cause.elim
          | _ => rfl
      | ask owner field what =>
          obtain ⟨next, next', rfl, -, hnext⟩ := h
          have hfirst : Fallible.Ends (fun t _ => t.length = if asks what then 1 else 0)
              (fun fault => fault.cause? = none)
              (fun before e fault => ∃ owner' field',
                (askers asks (.ask owner field what :: rest))[before.length]? =
                  some (owner', field') ∧ fault = .indirect owner' field' (.guest e))
              (forField owner field (ask what)) := by
            refine (hask what).adapt (fun _ _ => id) (fun _ => id) ?_
            rintro before e fault ⟨rfl, hasks, rfl⟩
            exact ⟨owner, field, by rw [askers, if_pos hasks]; rfl, rfl⟩
          refine hfirst.bind fun added a hadded => ?_
          refine (ih (hnext a)).mono (fun t _ ht => ?_) (fun _ => id) ?_
          · rw [List.length_append, hadded, ht, askers]
            split_ifs
            · exact Nat.add_comm 1 _
            · exact Nat.zero_add _
          · rintro before e fault ⟨owner', field', hfield, rfl⟩
            refine ⟨owner', field', ?_, rfl⟩
            rw [List.length_append, hadded, askers]
            split_ifs
            · rwa [Nat.add_comm, List.getElem?_cons_succ]
            · rwa [Nat.zero_add]

theorem store_ends (b : Backend σ) (text : String) :
    ((guestSlices b.memory).store text).EndsOnce (text ≠ "") := by
  rw [guestSlices_store]
  split_ifs with hlong hempty
  · exact Fallible.ends_throw rfl
  · have htext : text = "" := Text.encode_eq_nil_iff.1 (List.isEmpty_iff.1 hempty)
    exact Fallible.ends_pure (by simp [htext])
  · have htext : text ≠ "" := by
      rintro rfl
      exact hempty rfl
    refine Fallible.Ends.bind ((alloc_ends b _ fun _ => False).adapt (fun _ _ => id)
      (fun _ => False.elim) ?_) fun added a hadded => ?_
    · rintro before e fault ⟨rfl, rfl⟩
      exact ⟨rfl, by simp [htext], rfl⟩
    · obtain ⟨events, rfl⟩ := hadded
      exact Fallible.ends_pure (by simp [htext])

theorem load_ends (b : Backend σ) (slice : UInt32 × UInt32) :
    ((guestSlices b.memory).loadSlice slice).EndsOnce (slice.2 ≠ 0) := by
  obtain ⟨address, length⟩ := slice
  change Fallible.EndsOnce (ExceptT.adapt SliceFault.guest (readText b.memory address length)) _
  rw [readText_eq]
  split_ifs with hlength
  · exact Fallible.ends_pure (by simp [hlength])
  · have hread : Fallible.Ends (fun t _ => t.length = 1) (fun _ => False)
        (fun before e fault => before = [] ∧ fault = e)
        (b.memory.read address length >>= fun part => pure (Text.decodeLossy part)) := by
      refine (read_ends b _ _ _).bind fun added a hadded => ?_
      obtain ⟨events, rfl⟩ := hadded
      exact Fallible.ends_pure rfl
    refine hread.adapt (fun t _ ht => by simp [ht, hlength]) (fun _ => False.elim) ?_
    rintro before e fault ⟨rfl, rfl⟩
    exact ⟨rfl, by simp [hlength], rfl⟩

/-- Encoding asks the guest once for each field whose text is placed. -/
theorem encodeStruct_ends (b : Backend σ) (type : TypeDescriptor) (v : StructValue) :
    (encodeStruct (guestSlices b.memory) type v).EndsFor (storedFor type v) :=
  (encodeType_alike (guestSlices b.memory) (guestSlices b.memory) type v).endsFor (store_ends b)

/-- Decoding asks the guest once for each field whose text is fetched. -/
theorem decodeStruct_ends (b : Backend σ) (type : TypeDescriptor) (raw : Bytes) :
    (decodeStruct (guestSlices b.memory) type raw).EndsFor (loadedFor type raw) :=
  (decodeType_alike (guestSlices b.memory) (guestSlices b.memory) type raw).endsFor (load_ends b)

end GuestBridge
