import GuestBridge.Proofs.Runtime.Ends
import GuestBridge.Proofs.Runtime.Lifecycle

/-!
# Failures of the sandbox

A request that a runtime in working order makes of the guest stops at the first call that fails.
`Request.blame` tells for which field of a struct that call was made, if it was made for one, and
`SandboxError.reportedAs` how the failure is reported then; only a fatal trap makes the runtime
fail, also one met far down in a struct (`Runtime.answer_guest_ends`).
-/

namespace GuestBridge

variable {σ α β : Type} {b : Backend σ}

/-! ## Blame -/

/-- How the failure of a call is reported on behalf of a function or a type, given the struct and
the field for which the call was made. -/
def SandboxError.reportedAs (subject : String) (blame : Option (String × String)) :
    SandboxError → RuntimeError
  | .trap message true => .trap subject message
  | e =>
      match blame with
      | some (owner, field) => .layout (.indirect owner field (.guest e))
      | none =>
          match e with
          | .trap message _ => .trap subject message
          | e => .marshal subject e

/-- The fault is not one of the guest, or at least no trap. -/
def CallFault.Own : CallFault → Prop
  | sandbox e => ¬ e.IsTrap
  | layout e => e.cause? = none

/-- The fault that the failure of a call becomes, given the struct and the field for which the call
was made. -/
def CallFault.blamed (blame : Option (String × String)) (e : SandboxError) : CallFault :=
  match blame with
  | none => .sandbox e
  | some (owner, field) => .ofCodec (.indirect owner field (.guest e))

namespace CallFault

variable {blame : Option (String × String)} {e : SandboxError}

theorem ofCodec_of_cause? {e : CodecError SliceFault} (h : e.cause? = none) :
    ofCodec e = .layout e := by
  unfold ofCodec
  split
  · cases h
  · rfl

theorem report_blamed (subject : String) (blame : Option (String × String)) (e : SandboxError) :
    (blamed blame e).report subject = e.reportedAs subject blame := by
  rcases blame with _ | ⟨owner, field⟩ <;> cases e with
  | trap message fatal => cases fatal <;> rfl
  | _ => rfl

theorem fatalTrap?_blamed {message : String} :
    fatalTrap? (.error (blamed blame e) : Except CallFault α) = some message ↔
      e = .trap message true := by
  rw [Runtime.fatalTrap?_eq_some_iff]
  rcases blame with _ | ⟨owner, field⟩ <;> cases e with
  | trap message fatal => cases fatal <;> simp [blamed, ofCodec, SandboxError.isFatal]
  | _ => simp [blamed, ofCodec, SandboxError.isFatal]

theorem isSome_fatalTrap?_blamed :
    (fatalTrap? (.error (blamed blame e) : Except CallFault α)).isSome = e.isFatal := by
  rcases blame with _ | ⟨owner, field⟩ <;> cases e with
  | trap message fatal => cases fatal <;> rfl
  | _ => rfl

theorem Own.report_ne_trap {fault : CallFault} (h : fault.Own) (subject : String) :
    ∀ name message, fault.report subject ≠ .trap name message := by
  cases fault with
  | layout e => nofun
  | sandbox e =>
      cases e with
      | trap message fatal => exact (h ⟨message, fatal, rfl⟩).elim
      | _ => nofun

theorem Own.fatalTrap? {fault : CallFault} (h : fault.Own) :
    fatalTrap? (.error fault : Except CallFault α) = none := by
  cases fault with
  | layout e => rfl
  | sandbox e =>
      cases e with
      | trap message fatal => exact (h ⟨message, fatal, rfl⟩).elim
      | _ => rfl

end CallFault

/-! ## Work for the guest -/

/-- The computation fails with what the failure of a call becomes for the field that is to blame
given the calls before, and has no trap of its own. -/
def Fallible.EndsBlaming (c : ProgramM σ α) (blame : Trace → Option (String × String)) : Prop :=
  c.Ends (fun _ _ => True) CallFault.Own fun before e fault => fault = .blamed (blame before) e

theorem Fallible.EndsBlaming.map {c : ProgramM σ α} {blame : Trace → Option (String × String)}
    (h : c.EndsBlaming blame) (f : α → β) : (f <$> c).EndsBlaming blame := by
  rw [map_eq_pure_bind]
  exact h.bind fun _ _ _ => Fallible.ends_pure trivial

/-- The field for whose text the guest is asked when the bytes of a struct are read and after the
given calls. -/
def fetchBlame (type : TypeDescriptor) : Trace → Option (String × String)
  | ⟨.read _ _ (.ok bytes), _⟩ :: before => (loadedFor type bytes)[before.length]?
  | _ => none

namespace Runtime

theorem sandboxStep_ends {c : Fallible (Traced σ) SandboxError α} (h : c.EndsPlainly) :
    (sandboxStep c).EndsBlaming fun _ => none :=
  h.adapt (fun _ _ => id) (fun _ => id) fun _ _ _ => congrArg CallFault.sandbox

theorem invokeWith_ends (b : Backend σ) (name : String) (s : Signature) (args : List Value) :
    (invokeWith b name s args).EndsBlaming fun _ => none :=
  (sandboxStep_ends (lowerValues_ends b args)).bind fun _ words _ =>
    (sandboxStep_ends (traceInvoke_ends b name words)).bind fun _ out _ =>
      sandboxStep_ends (liftValues_ends b s.results out)

/-- What a codec fails with is blamed on the field. -/
theorem ofCodec_ends {c : Fallible (Traced σ) (CodecError SliceFault) α}
    {fields : List (String × String)} (h : c.EndsFor fields) :
    Fallible.Ends (fun t _ => t.length = fields.length) CallFault.Own
      (fun before e fault => fault = .blamed fields[before.length]? e)
      (ExceptT.adapt CallFault.ofCodec c : ProgramM σ α) := by
  refine h.adapt (fun _ _ => id) (fun fault hown => ?_) ?_
  · rw [CallFault.ofCodec_of_cause? hown]
    exact hown
  · rintro before e fault ⟨owner, field, hfield, rfl⟩
    rw [hfield]
    rfl

theorem placeStruct_ends (b : Backend σ) (type : TypeDescriptor) (v : StructValue) :
    (placeStruct b type v).EndsBlaming fun before => (storedFor type v)[before.length]? := by
  refine (ofCodec_ends (encodeStruct_ends b type v)).bind fun added bytes hadded => ?_
  refine (alloc_ends b bytes fun _ => False).adapt (fun _ _ _ => trivial) (fun _ => False.elim) ?_
  -- The bytes are placed when all texts are, so no field is left to blame.
  rintro before e fault ⟨rfl, rfl⟩
  rw [List.append_nil, hadded, List.getElem?_eq_none le_rfl]
  rfl

theorem fetchStruct_ends (b : Backend σ) (type : TypeDescriptor) (address : UInt32) :
    (fetchStruct b type address).EndsBlaming (fetchBlame type) := by
  refine Fallible.Ends.bind ((read_ends b address type.size fun _ => False).adapt (fun _ _ => id)
    (fun _ => False.elim) ?_) fun added bytes hadded => ?_
  · rintro before e fault ⟨rfl, rfl⟩
    rfl
  · obtain ⟨events, rfl⟩ := hadded
    exact (ofCodec_ends (decodeStruct_ends b type bytes)).mono (fun _ _ _ => trivial) (fun _ => id)
      fun _ _ _ => id

end Runtime

/-- The struct and the field for whose text a request asks the guest next after the given calls, if
it is for one. -/
def Request.blame (r : Registry) (request : Request) (before : Trace) : Option (String × String) :=
  match request with
  | .writeStruct v => (r.get? v.typeName).bind fun type => (storedFor type v)[before.length]?
  | .readStruct typeName _ => (r.get? typeName).bind fun type => fetchBlame type before
  | _ => none

namespace Runtime

variable {r : Registry} {rt : Runtime σ} {request : Request} {operation : Operation}
  {program : Program}

theorem work_ends {op : ProgramM σ Answer} (h : work b r program request = .ok op) :
    op.EndsBlaming (request.blame r) := by
  cases work_case h with
  | call | callMulti => exact (invokeWith_ends b _ _ _).map _
  | @writeStruct v type hlookup =>
      have hblame : Request.blame r (.writeStruct v) =
          fun before => (storedFor type v)[before.length]? := by
        funext before
        rw [Request.blame, Registry.lookup_eq_ok_iff.1 hlookup, Option.bind_some]
      exact hblame ▸ (placeStruct_ends b type v).map _
  | @readStruct typeName address type hlookup =>
      have hblame : Request.blame r (.readStruct typeName address) = fetchBlame type := by
        funext before
        rw [Request.blame, Registry.lookup_eq_ok_iff.1 hlookup, Option.bind_some]
      exact hblame ▸ (fetchStruct_ends b type address).map _
  | none => exact Fallible.ends_pure trivial

theorem prepareCall_error {name : String} {args : List Value} {e : RuntimeError}
    (h : prepareCall program name args = .error e) :
    ∀ subject message, e ≠ .trap subject message := by
  unfold prepareCall at h
  split at h
  · cases h
    nofun
  · split_ifs at h
    · cases h
      nofun
    · split at h <;> cases h
      nofun

/-- A request that does not fit is not refused for a trap. -/
theorem work_error {e : RuntimeError} (h : work b r program request = .error e) :
    ∀ subject message, e ≠ .trap subject message := by
  cases request with
  | call name args =>
      simp only [work] at h
      split at h
      · rename_i hprepare
        cases h
        exact prepareCall_error hprepare
      · split_ifs at h
        cases h
        rintro _ _ ⟨⟩
  | callMulti name args =>
      simp only [work] at h
      split at h <;> cases h
      rename_i hprepare
      exact prepareCall_error hprepare
  | writeStruct v | readStruct typeName address =>
      simp only [work] at h
      split at h <;> cases h
      rintro _ _ ⟨⟩
  | _ => cases h

/-- A runtime in working order gets to the end of a request or is stopped by a call that fails. -/
theorem answer_guest_ends (b : Backend σ) (r : Registry) (hready : rt.state = .ready)
    (hguest : request.operation? = some operation) :
    let out := (rt.answer b r request).1
    (out.trace.Clean ∧ out.runtime.state = .ready ∧
      ∀ subject message, out.result ≠ .error (.trap subject message)) ∨
    ∃ before e, out.trace.FailsAfter before e ∧
      out.result = .error (e.reportedAs request.subject (request.blame r before)) ∧
      out.runtime.state = (if e.isFatal then .failed else .ready) ∧
      ∀ message, e = .trap message true →
        out.runtime.failure? = some (.trap request.subject message) := by
  intro out
  obtain ⟨config, phase⟩ := rt
  cases phase with
  | ready digest program sandbox =>
      have hout : out = _ := congrArg Prod.fst (answer_of_ready (b := b) (r := r) rfl hguest)
      cases hwork : work b r program request with
      | error e =>
          rw [hwork] at hout
          rw [hout]
          exact .inl ⟨Trace.clean_nil, rfl, fun subject message h =>
            work_error hwork subject message (Except.error.inj h)⟩
      | ok op =>
          obtain ⟨added, htrace, hends⟩ := work_ends hwork ⟨sandbox, []⟩
          rcases hfrom : op.from ⟨sandbox, []⟩ with ⟨x, t⟩
          rw [hfrom] at htrace hends
          obtain rfl : t.trace = added := htrace
          rw [hwork] at hout
          dsimp only at hout
          rw [hout, inGuest_eq_of_from hfrom, state_phaseAfter]
          cases hends with
          | answered clean _ => exact .inl ⟨clean, rfl, nofun⟩
          | refused clean hown =>
              refine .inl ⟨clean, ?_, fun subject message h => ?_⟩
              · rw [hown.fatalTrap?]
                rfl
              · exact hown.report_ne_trap request.subject _ _ (Except.error.inj h)
          | failed hlast hfault =>
              obtain rfl := hfault
              refine .inr ⟨_, _, hlast, ?_, ?_, fun message hmessage => ?_⟩
              · exact congrArg Except.error (CallFault.report_blamed _ _ _)
              · rw [CallFault.isSome_fatalTrap?_blamed]
              · rw [failure?, phaseAfter, CallFault.fatalTrap?_blamed.2 hmessage]
  | _ => cases hready

/-- A fatal trap that is met is reported, and kept as the reason for which the runtime failed. -/
theorem answer_of_fatal (b : Backend σ) (r : Registry) (hready : rt.state = .ready)
    (hguest : request.operation? = some operation) {entry : TraceEntry}
    (hentry : entry ∈ (rt.answer b r request).1.trace) {message : String}
    (htrap : entry.failure? = some (.trap message true)) :
    (rt.answer b r request).1.result = .error (.trap request.subject message) ∧
      (rt.answer b r request).1.runtime.failure? = some (.trap request.subject message) := by
  rcases answer_guest_ends b r hready hguest with
    ⟨hclean, -, -⟩ | ⟨before, e, hlast, hresult, -, hreason⟩
  · simp [hclean entry hentry] at htrap
  · obtain ⟨before', after, htrace⟩ := List.append_of_mem hentry
    obtain ⟨-, -, rfl⟩ := Trace.FailsAfter.of_append (htrace ▸ hlast) htrap
    exact ⟨hresult, hreason message rfl⟩

/-- Whatever is asked of the guest, a call that fails is the last one, and its error is what is
reported; if it is a fatal trap, the runtime has failed, and otherwise it is still in working order.
It fails for nothing else, and reports no trap that was not met.  Once it has failed, every further
request for the guest is answered with the reason until the runtime is closed. -/
theorem answer_faults (b : Backend σ) (r : Registry) (hready : rt.state = .ready)
    (hguest : request.operation? = some operation) :
    let out := (rt.answer b r request).1
    (∀ (before after : Trace) entry e, out.trace = before ++ entry :: after →
      entry.failure? = some e → after = [] ∧ before.Clean ∧
        out.result = .error (e.reportedAs request.subject (request.blame r before)) ∧
        out.runtime.state = if e.isFatal then .failed else .ready) ∧
    (out.trace.Clean →
      out.runtime.state = .ready ∧ ∀ subject message, out.result ≠ .error (.trap subject message)) ∧
    ∀ entry ∈ out.trace, ∀ message, entry.failure? = some (.trap message true) →
      out.result = .error (.trap request.subject message) ∧
      out.runtime.failure? = some (.trap request.subject message) ∧
      ∀ w : World σ, w.runtime = out.runtime → ∀ more, Request.close ∉ more →
        ∀ request' operation', request'.operation? = some operation' →
          let w' := w.afterAll b more
          w'.runtime.answer b w'.registry request' =
            (w'.runtime.refuse (.runtimeFailed (.trap request.subject message)), w'.registry) := by
  intro out
  refine ⟨?_, ?_, fun entry hentry message htrap => ?_⟩
  · intro before after entry e htrace he
    rcases answer_guest_ends b r hready hguest with
      ⟨hclean, -, -⟩ | ⟨before', e', hlast, hresult, hstate, -⟩
    · have hentry : entry ∈ out.trace := by simp [htrace]
      simp [hclean entry hentry] at he
    · obtain ⟨rfl, rfl, rfl⟩ := Trace.FailsAfter.of_append (htrace ▸ hlast) he
      exact ⟨rfl, hlast.1, hresult, hstate⟩
  · intro hclean
    rcases answer_guest_ends b r hready hguest with
      ⟨-, hstate, hresult⟩ | ⟨before, e, ⟨-, entry, htrace, he⟩, -⟩
    · exact ⟨hstate, hresult⟩
    · have hentry : entry ∈ out.trace := by simp [out, htrace]
      simp [hclean entry hentry] at he
  · obtain ⟨hresult, hfailure⟩ := answer_of_fatal b r hready hguest hentry htrap
    exact ⟨hresult, hfailure, fun w hw more hopen request' operation' hguest' =>
      World.answer_of_failure? (hw ▸ hfailure) hopen hguest'⟩

/-- A sandbox whose allocator is broken. -/
def brokenAllocator : Backend Unit where
  load _ _ _ := (.ok (), [])
  exports _ := []
  runInitializer _ s := ⟨.ok false, s, []⟩
  invoke _ _ s := ⟨.ok [], s, []⟩
  alloc _ s := ⟨.error (.trap "no heap" true), s, []⟩
  read _ _ s := ⟨.ok [], s, []⟩

/-- A pair whose left label has a text. -/
def textedPair : StructValue :=
  ⟨"pair", [
    ("left", .struct "label" [("text", .scalar (.string "hi")), ("id", .scalar (.u32 7))]),
    ("right", .struct "label" [("text", .scalar (.string "")), ("id", .scalar (.u32 9))])]⟩

/-- A runtime in working order on that sandbox, over a registry that has the pair. -/
def brokenWorld : World Unit :=
  ⟨Registry.primitives.afterAll Registry.pairRequests, ⟨.standard, .ready "" .none ()⟩, []⟩

theorem answer_faults_pair :
    (brokenWorld.runtime.answer brokenAllocator brokenWorld.registry
      (.writeStruct textedPair)).1.result = .error (.trap "pair" "no heap") ∧
    ((brokenWorld.after brokenAllocator (.writeStruct textedPair)).runtime.answer brokenAllocator
        brokenWorld.registry (.callMulti "run" [])).1.result =
      .error (.runtimeFailed (.trap "pair" "no heap")) := by
  have htrace : (brokenWorld.runtime.answer brokenAllocator brokenWorld.registry
      (.writeStruct textedPair)).1.trace =
        [⟨.alloc [104, 105] (.error (.trap "no heap" true)), []⟩] := by
    cbv
  obtain ⟨-, -, hfatal⟩ := answer_faults brokenAllocator brokenWorld.registry
    (rfl : brokenWorld.runtime.state = .ready)
    (rfl : (Request.writeStruct textedPair).operation? = some .writeStruct)
  obtain ⟨hresult, -, hlater⟩ := hfatal _ (htrace ▸ List.mem_singleton_self _) "no heap" rfl
  have hrefused := hlater (brokenWorld.after brokenAllocator (.writeStruct textedPair))
    (by rw [World.after_eq]) [] (by simp) (.callMulti "run" []) .call rfl
  exact ⟨hresult, congrArg (fun answer => answer.1.result) hrefused⟩

end Runtime

end GuestBridge
