import GuestBridge.Proofs.Call.Marshal
import GuestBridge.Proofs.Layout.Codec
import GuestBridge.Runtime.Call

/-!
# Work in a guest

What a computation asks of a sandbox is what it adds to the trace.  `Traced.Grows P` relates a
sandbox under way to a later one when every entry added in between has `P`: guest memory never asks
for an export (`memory_leads_grows`), and a call only for the one it is about, with the words of its
arguments (`invokeWith_leads`).  `inGuest` leaves the configuration and the program as they were.
-/

namespace GuestBridge

variable {σ α : Type} {b : Backend σ}

/-! ## The trace -/

/-- The entry does not ask for an export. -/
def TraceEntry.Quiet (entry : TraceEntry) : Prop :=
  ∀ name words result, entry.call ≠ .invoke name words result

/-- The entry asks for the named export with words of the types. -/
def TraceEntry.Invokes (name : String) (types : List WireType) (entry : TraceEntry) : Prop :=
  ∃ words result, entry.call = .invoke name words result ∧ words.map Word.type = types

/-- The one export that is asked for is the named one, and its answer are words of the types. -/
def Trace.Answered (name : String) (types : List WireType) (t : Trace) : Prop :=
  ∃ before words out events later,
    t = before ++ ⟨.invoke name words (.ok out), events⟩ :: later ∧
      (∀ entry ∈ before ++ later, entry.Quiet) ∧ out.map Word.type = types

/-- The later trace is the earlier one with entries added of which each has `P`. -/
def Traced.Grows (P : TraceEntry → Prop) (t t' : Traced σ) : Prop :=
  ∃ added, t'.trace = t.trace ++ added ∧ ∀ entry ∈ added, P entry

instance (P : TraceEntry → Prop) : IsPreorder (Traced σ) (Traced.Grows P) where
  refl t := ⟨[], (List.append_nil _).symm, by simp⟩
  trans := by
    rintro t₁ t₂ t₃ ⟨added, h, hadded⟩ ⟨added', h', hadded'⟩
    refine ⟨added ++ added', by rw [h', h, List.append_assoc], fun entry hentry => ?_⟩
    rcases List.mem_append.1 hentry with hentry | hentry
    · exact hadded entry hentry
    · exact hadded' entry hentry

theorem Traced.Grows.mono {P Q : TraceEntry → Prop} {t t' : Traced σ} (h : t.Grows P t')
    (hPQ : ∀ entry, P entry → Q entry) : t.Grows Q t' := by
  obtain ⟨added, htrace, hadded⟩ := h
  exact ⟨added, htrace, fun entry hentry => hPQ entry (hadded entry hentry)⟩

theorem perform_leads {P : TraceEntry → Prop} {op : σ → Reply σ α}
    {entry : Except SandboxError α → SandboxCall} (h : ∀ result events, P ⟨entry result, events⟩) :
    (Backend.perform op entry).Leads (Traced.Grows P) := by
  intro t
  refine ⟨_, rfl, fun e he => ?_⟩
  obtain rfl := List.mem_singleton.1 he
  exact h _ _

theorem perform_from_ok {op : σ → Reply σ α} {entry : Except SandboxError α → SandboxCall} {a : α}
    {t t' : Traced σ} (h : (Backend.perform op entry).from t = (.ok a, t')) :
    (op t.sandbox).result = .ok a ∧ t'.sandbox = (op t.sandbox).state ∧
      ∃ events, t'.trace = t.trace ++ [⟨entry (.ok a), events⟩] := by
  obtain ⟨hresult, rfl⟩ := Prod.mk.inj h
  exact ⟨hresult, rfl, _, by rw [hresult]⟩

theorem memory_leads_grows (b : Backend σ) {P : TraceEntry → Prop}
    (h : ∀ entry : TraceEntry, entry.Quiet → P entry) : b.memory.Leads (Traced.Grows P) :=
  ⟨fun _ => perform_leads fun _ _ => h _ fun _ _ _ => SandboxCall.noConfusion,
    fun _ _ => perform_leads fun _ _ => h _ fun _ _ _ => SandboxCall.noConfusion⟩

/-! ## Slices in guest memory -/

theorem guestSlices_store {μ : Type} (mem : GuestMemory μ) (text : String) :
    (guestSlices mem).store text =
      if UInt32.size ≤ (Text.encode text).length then throw (.tooLong (Text.encode text).length)
      else if (Text.encode text).isEmpty then pure (0, 0)
      else ExceptT.adapt SliceFault.guest (mem.alloc (Text.encode text)) >>= fun address =>
        pure (address, UInt32.ofNat (Text.encode text).length) := by
  rw [guestSlices]
  dsimp only
  split_ifs <;> rfl

theorem guestSlices_leads {μ : Type} {mem : GuestMemory μ} {R : μ → μ → Prop} [IsPreorder μ R]
    (h : mem.Leads R) : (guestSlices mem).Leads R := by
  refine ⟨fun text => ?_, fun address length => (readText_leads h address length).adapt _⟩
  rw [guestSlices_store]
  split_ifs
  · exact Fallible.leads_throw _
  · exact Fallible.leads_pure _
  · exact ((h.alloc _).adapt _).bind fun _ => Fallible.leads_pure _

namespace Runtime

/-! ## Calls and structs -/

/-- A call asks for the one export with the words of its arguments. -/
theorem invokeWith_leads (b : Backend σ) (name : String) (s : Signature) (args : List Value) :
    (invokeWith b name s args).Leads (Traced.Grows fun entry =>
      entry.Quiet ∨ entry.Invokes name (wireTypes (args.map Value.kind))) := by
  have hmem := memory_leads_grows b fun entry (h : entry.Quiet) =>
    Or.inl (b := entry.Invokes name (wireTypes (args.map Value.kind))) h
  refine ((lowerValues_leads hmem args).adapt _).bind_of_ok fun words t t' hwords => ?_
  have htypes := lowerValues_types (Fallible.adapt_from_ok_iff.1 hwords)
  refine Fallible.Leads.bind ?_ fun out => (liftValues_leads hmem s.results out).adapt _
  exact (perform_leads fun result _ => .inr ⟨words, result, rfl, htypes⟩).adapt _

/-- A call that answers got words of the result types, and answers with values of the kinds. -/
theorem invokeWith_ok {name : String} {s : Signature} {args values : List Value}
    {t t' : Traced σ} (h : (invokeWith b name s args).from t = (.ok values, t')) :
    values.map Value.kind = s.results ∧
      ∃ added, t'.trace = t.trace ++ added ∧ Trace.Answered name s.wireResults added := by
  have hmem := memory_leads_grows (P := TraceEntry.Quiet) b fun _ => id
  obtain ⟨words, t₁, hwords, h⟩ := Fallible.bind_from_ok_iff.1 h
  obtain ⟨out, t₂, hout, h⟩ := Fallible.bind_from_ok_iff.1 h
  obtain ⟨hkinds, htypes⟩ := liftValues_types (Fallible.adapt_from_ok_iff.1 h)
  obtain ⟨before, hbefore, hquiet⟩ := ((lowerValues_leads hmem args).adapt _).of_from hwords
  obtain ⟨later, hlater, hquiet'⟩ := ((liftValues_leads hmem s.results out).adapt _).of_from h
  obtain ⟨-, -, events, hinvoke⟩ := perform_from_ok (Fallible.adapt_from_ok_iff.1 hout)
  refine ⟨hkinds, before ++ ⟨.invoke name words (.ok out), events⟩ :: later, ?_, ?_⟩
  · rw [hlater, hinvoke, hbefore]
    simp
  · exact ⟨before, words, out, events, later, rfl,
      List.forall_mem_append.2 ⟨hquiet, hquiet'⟩, htypes⟩

section Leads

variable {R : Traced σ → Traced σ → Prop} [IsPreorder (Traced σ) R] (h : b.memory.Leads R)
include h

theorem placeStruct_leads (type : TypeDescriptor) (v : StructValue) :
    (placeStruct b type v).Leads R :=
  ((encodeType_leads (guestSlices_leads h) type v).adapt _).bind fun _ => (h.alloc _).adapt _

theorem fetchStruct_leads (type : TypeDescriptor) (address : UInt32) :
    (fetchStruct b type address).Leads R :=
  ((h.read _ _).adapt _).bind fun _ => (decodeType_leads (guestSlices_leads h) type _).adapt _

end Leads

/-! ## Outcomes -/

/-- The operation leaves the configuration and the program of the runtime as they were, and each
entry it adds to the trace has `P`. -/
structure Keeps (P : TraceEntry → Prop) (rt : Runtime σ) (out : Outcome σ α) : Prop where
  config : out.runtime.config = rt.config
  program : out.runtime.program = rt.program
  trace : ∀ entry ∈ out.trace, P entry

section InGuest

variable {P : TraceEntry → Prop} {rt : Runtime σ} {digest function : String} {program : Program}
  {sandbox : σ} {op : ProgramM σ α}

theorem keeps_refuse (rt : Runtime σ) (e : RuntimeError) : Keeps P rt (rt.refuse (α := α) e) :=
  ⟨rfl, rfl, by simp [refuse]⟩

theorem settle_eq (config : Config) (digest : String) (program : Program) (t : Traced σ)
    (function : String) (fault : CallFault) :
    ∃ e phase, settle (α := α) config digest program t function fault =
        ⟨.error e, ⟨config, phase⟩, t.trace⟩ ∧
      (phase = .ready digest program t.sandbox ∨
        ∃ reason, phase = .broken digest program t.sandbox reason) := by
  unfold settle
  split
  case h_2 => exact ⟨_, _, rfl, .inr ⟨_, rfl⟩⟩
  all_goals exact ⟨_, _, rfl, .inl rfl⟩

/-- What is done in a guest answers as the computation does, and ends with the program ready or
broken in the state of the sandbox that the computation led to. -/
theorem inGuest_eq (config : Config) (digest : String) (program : Program) (function : String)
    {x : Except CallFault α} {t : Traced σ} (h : op.from ⟨sandbox, []⟩ = (x, t)) :
    ∃ result phase,
      inGuest config digest program sandbox function op = ⟨result, ⟨config, phase⟩, t.trace⟩ ∧
      (∀ a, result = .ok a ↔ x = .ok a) ∧
      (phase = .ready digest program t.sandbox ∨
        ∃ reason, phase = .broken digest program t.sandbox reason) := by
  unfold inGuest
  rw [h]
  rcases x with fault | a
  · obtain ⟨e, phase, hsettle, hphase⟩ := settle_eq config digest program t function fault
    exact ⟨_, phase, hsettle, by simp, hphase⟩
  · exact ⟨_, _, rfl, by simp, .inl rfl⟩

theorem inGuest_ok {config : Config} {a : α}
    (h : (inGuest config digest program sandbox function op).result = .ok a) :
    ∃ t, op.from ⟨sandbox, []⟩ = (.ok a, t) ∧
      inGuest config digest program sandbox function op =
        ⟨.ok a, ⟨config, .ready digest program t.sandbox⟩, t.trace⟩ := by
  unfold inGuest at h ⊢
  rcases hfrom : op.from ⟨sandbox, []⟩ with ⟨fault | a', t⟩
  · obtain ⟨e, phase, hsettle, -⟩ := settle_eq (α := α) config digest program t function fault
    simp [hfrom, hsettle] at h
  · rw [hfrom] at h
    cases h
    exact ⟨t, rfl, rfl⟩

theorem keeps_inGuest (hphase : rt.phase = .ready digest program sandbox)
    (hop : op.Leads (Traced.Grows P)) :
    Keeps P rt (inGuest rt.config digest program sandbox function op) := by
  rcases hfrom : op.from ⟨sandbox, []⟩ with ⟨x, t⟩
  obtain ⟨added, htrace, hadded⟩ := hop.of_from hfrom
  obtain ⟨result, phase, heq, -, hready⟩ := inGuest_eq rt.config digest program function hfrom
  rw [heq]
  refine ⟨rfl, ?_, fun entry hentry => hadded entry ?_⟩
  · rw [Runtime.program, Runtime.program, hphase]
    rcases hready with rfl | ⟨reason, rfl⟩ <;> rfl
  · rwa [htrace, List.nil_append] at hentry

end InGuest

/-! ## Operations -/

theorem args_kinds_of_firstMismatch {index : Nat} {args : List Value} {params : List Kind}
    (hlength : args.length = params.length) (h : firstMismatch index args params = none) :
    args.map Value.kind = params := by
  induction args generalizing index params with
  | nil => exact (List.length_eq_zero_iff.1 hlength.symm).symm
  | cons v args ih =>
      cases params with
      | nil => simp at hlength
      | cons k params =>
          rw [firstMismatch] at h
          split_ifs at h with hkind
          rw [List.map_cons, hkind, ih (Nat.succ.inj hlength) h]

/-- A call is prepared under the signature of the function, with arguments of its kinds. -/
theorem prepareCall_ok {program : Program} {name : String} {args : List Value} {s : Signature}
    (h : prepareCall program name args = .ok s) :
    program.exports.get? name = some s ∧ args.map Value.kind = s.params := by
  unfold prepareCall at h
  split at h
  · cases h
  · rename_i s' hget
    split_ifs at h with hlength
    split at h
    · cases h
    · rename_i hmatch
      cases h
      exact ⟨hget, args_kinds_of_firstMismatch (Decidable.not_not.1 hlength) hmatch⟩

/-- If the entry asks for an export, it is a function of the runtime and the words are those of its
parameters. -/
def CallEntry (rt : Runtime σ) (entry : TraceEntry) : Prop :=
  entry.Quiet ∨ ∃ name s, rt.signature? name = some s ∧ entry.Invokes name s.wireParams

theorem signature?_of_ready {rt : Runtime σ} {digest : String} {program : Program} {sandbox : σ}
    (h : rt.phase = .ready digest program sandbox) (name : String) :
    rt.signature? name = program.exports.get? name := by
  rw [signature?, exports, Runtime.program, h]

theorem keeps_invoke {rt : Runtime σ} {digest name : String} {program : Program} {sandbox : σ}
    {args : List Value} {s : Signature} (hphase : rt.phase = .ready digest program sandbox)
    (h : prepareCall program name args = .ok s) :
    Keeps (CallEntry rt) rt
      (inGuest rt.config digest program sandbox name (invokeWith b name s args)) := by
  obtain ⟨hget, hkinds⟩ := prepareCall_ok h
  refine keeps_inGuest hphase ((invokeWith_leads b name s args).mono fun _ _ hgrows => ?_)
  rw [hkinds] at hgrows
  exact hgrows.mono fun entry hentry => hentry.imp_right fun hinvokes =>
    ⟨name, s, (signature?_of_ready hphase name).trans hget, hinvokes⟩

theorem keeps_callMulti (b : Backend σ) (rt : Runtime σ) (name : String) (args : List Value) :
    Keeps (CallEntry rt) rt (callMulti b rt name args) := by
  unfold callMulti
  split
  · rename_i digest program sandbox hphase
    split
    · exact keeps_refuse rt _
    · rename_i s hprepare
      exact keeps_invoke hphase hprepare
  · exact keeps_refuse rt _

theorem keeps_call (b : Backend σ) (rt : Runtime σ) (name : String) (args : List Value) :
    Keeps (CallEntry rt) rt (call b rt name args) := by
  unfold call
  split
  · rename_i digest program sandbox hphase
    split
    · exact keeps_refuse rt _
    · rename_i s hprepare
      split_ifs
      · exact keeps_refuse rt _
      · have hkeeps := keeps_invoke (b := b) hphase hprepare
        exact ⟨hkeeps.config, hkeeps.program, hkeeps.trace⟩
  · exact keeps_refuse rt _

theorem keeps_writeStruct (b : Backend σ) (r : Registry) (rt : Runtime σ) (v : StructValue) :
    Keeps TraceEntry.Quiet rt (writeStruct b r rt v) := by
  have hmem := memory_leads_grows (P := TraceEntry.Quiet) b fun _ => id
  unfold writeStruct
  split
  · rename_i digest program sandbox hphase
    split
    · exact keeps_refuse rt _
    · exact keeps_inGuest hphase (placeStruct_leads hmem _ v)
  · exact keeps_refuse rt _

theorem keeps_readStruct (b : Backend σ) (r : Registry) (rt : Runtime σ) (typeName : String)
    (address : UInt32) :
    Keeps TraceEntry.Quiet rt (readStruct b r rt typeName address) := by
  have hmem := memory_leads_grows (P := TraceEntry.Quiet) b fun _ => id
  unfold readStruct
  split
  · rename_i digest program sandbox hphase
    split
    · exact keeps_refuse rt _
    · exact keeps_inGuest hphase (fetchStruct_leads hmem _ address)
  · exact keeps_refuse rt _

/-- A call that answers got words of the result types, and answers with values of the kinds. -/
theorem callMulti_ok {rt : Runtime σ} {name : String} {args values : List Value}
    (h : (callMulti b rt name args).result = .ok values) :
    ∃ s, rt.signature? name = some s ∧ values.map Value.kind = s.results ∧
      (callMulti b rt name args).trace.Answered name s.wireResults := by
  unfold callMulti at h ⊢
  split at h
  · rename_i digest program sandbox hphase
    split at h
    · cases h
    · rename_i s hprepare
      obtain ⟨hget, -⟩ := prepareCall_ok hprepare
      obtain ⟨t, hfrom, heq⟩ := inGuest_ok h
      obtain ⟨hkinds, added, htrace, hanswered⟩ := invokeWith_ok hfrom
      rw [List.nil_append] at htrace
      refine ⟨s, (signature?_of_ready hphase name).trans hget, hkinds, ?_⟩
      simpa only [hphase, hprepare, heq, htrace] using hanswered
  · cases h

/-- The results of a function with one result are one value. -/
theorem exists_eq_singleton {s : Signature} {values : List Value}
    (hkinds : values.map Value.kind = s.results) (hcount : s.results.length = 1) :
    ∃ v, values = [v] :=
  List.length_eq_one_iff.1 (by rw [← hcount, ← hkinds, List.length_map])

/-- A call for one result answers when the call for any results answers with just that one. -/
theorem call_ok {rt : Runtime σ} {name : String} {args : List Value} {v : Value}
    (h : (call b rt name args).result = .ok v) :
    (callMulti b rt name args).result = .ok [v] ∧
      (call b rt name args).trace = (callMulti b rt name args).trace := by
  unfold call at h ⊢
  unfold callMulti
  split at h
  · rename_i digest program sandbox hphase
    split at h
    · cases h
    · rename_i s hprepare
      split_ifs at h with hcount
      · cases h
      · obtain ⟨values, hvalues, hlast⟩ := bind_eq_ok_iff.1 h
        obtain ⟨t, hfrom, -⟩ := inGuest_ok hvalues
        obtain ⟨v', rfl⟩ := exists_eq_singleton (invokeWith_ok hfrom).1 (not_not.1 hcount)
        cases hlast
        simp only [if_neg hcount]
        exact ⟨hvalues, trivial⟩
  · cases h

end Runtime

end GuestBridge
