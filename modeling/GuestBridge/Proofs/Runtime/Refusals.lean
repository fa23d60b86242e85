import GuestBridge.Proofs.Runtime.Lifecycle
import GuestBridge.Proofs.SortedMap
import GuestBridge.Sandbox.Scripted

/-!
# Requests that are refused

Some errors only ever tell that a request was refused (`RuntimeError.IsRefusal`).  `Runtime.Refuses`
lists the refusals of a runtime with the reason for each, and `Program.Refuses` those of a program
in working order: a function it does not have, arguments or results that do not fit, a type that the
registry does not have.

A request is answered with such an error just when it is refused (`Runtime.answer_refused_iff`).
Then the sandbox is asked nothing and everything stays as it was, in a runtime and in the cells that
show it; work in a guest never fails with one (`World.afterAll_refusals`).
-/

namespace GuestBridge

variable {σ : Type} {b : Backend σ} {r : Registry}

/-! ## Errors -/

/-- The error is one for which a request is refused. -/
def RuntimeError.IsRefusal : RuntimeError → Prop
  | noSuchFunction .. | arity .. | argumentType .. | resultCount .. => True
  | runtimeFailed _ | closed | invalidState .. | registry _ => True
  | compile _ | instantiation _ | trap .. | marshal .. | layout _ => False

/-- The error of cells is one for which a request is refused.  So is every error that cells have
ready for the case that they do not fit. -/
def CellError.IsRefusal : CellError → Prop
  | told e => e.IsRefusal
  | underWay _ | noSandbox | unknownFailure => True

/-- What work in a guest fails with is no refusal. -/
theorem CallFault.not_isRefusal_report (subject : String) (fault : CallFault) :
    ¬ (fault.report subject).IsRefusal := by
  rcases fault with e | e
  · cases e <;> exact id
  · exact id

/-! ## What does not fit -/

namespace Request

/-- The function that is called and its arguments. -/
def callee? : Request → Option (String × List Value)
  | .call name args | .callMulti name args => some (name, args)
  | _ => none

/-- The type of the struct that is written or read. -/
def structType? : Request → Option String
  | .writeStruct v => some v.typeName
  | .readStruct typeName _ => some typeName
  | _ => none

end Request

/-- The arguments do not fit the function, for the error: their number is another one, or the first
of another kind than its parameter stands after arguments that fit. -/
inductive Signature.Refuses (name : String) (s : Signature) : List Value → RuntimeError → Prop where
  | arity {args : List Value} (h : args.length ≠ s.params.length) :
      Signature.Refuses name s args (.arity name s.params.length args.length)
  | kind {before after : List Value} {v : Value} {k : Kind} {rest : List Kind}
      (hparams : s.params = before.map Value.kind ++ k :: rest)
      (hlength : after.length = rest.length) (hkind : v.kind ≠ k) :
      Signature.Refuses name s (before ++ v :: after)
        (.argumentType name before.length ⟨k, v.kind⟩)

/-- The request does not fit the program in working order, for the error. -/
inductive Program.Refuses (r : Registry) (program : Program) : Request → RuntimeError → Prop where
  | noFunction {request : Request} {name : String} {args : List Value}
      (hcall : request.callee? = some (name, args))
      (hnone : program.exports.get? name = Option.none) :
      Program.Refuses r program request (.noSuchFunction name program.exports.keys)
  | arguments {request : Request} {name : String} {args : List Value} {s : Signature}
      {e : RuntimeError} (hcall : request.callee? = some (name, args))
      (hs : program.exports.get? name = some s) (h : s.Refuses name args e) :
      Program.Refuses r program request e
  | results {name : String} {args : List Value} {s : Signature}
      (hs : program.exports.get? name = some s) (hkinds : args.map Value.kind = s.params)
      (hcount : s.results.length ≠ 1) :
      Program.Refuses r program (.call name args) (.resultCount name 1 s.results.length)
  | noType {request : Request} {typeName : String} {e : RegistryError}
      (htype : request.structType? = some typeName) (h : r.lookup typeName = .error e) :
      Program.Refuses r program request (.registry e)

/-- The runtime refuses the request, for the error: it was given a module before, it is not in
working order, or the request does not fit its program. -/
inductive Runtime.Refuses (r : Registry) (rt : Runtime σ) : Request → RuntimeError → Prop where
  | again {bytecode : Bytes} {host : HostBindings} (h : rt.state ≠ .uninstantiated) :
      Runtime.Refuses r rt (.instantiate bytecode host) (.invalidState .instantiate rt.state)
  | early {request : Request} {operation : Operation}
      (hguest : request.operation? = some operation) (h : rt.state = .uninstantiated) :
      Runtime.Refuses r rt request (.invalidState operation .uninstantiated)
  | failed {request : Request} {operation : Operation} {reason : FailureReason}
      (hguest : request.operation? = some operation) (h : rt.failure? = some reason) :
      Runtime.Refuses r rt request (.runtimeFailed reason)
  | closed {request : Request} {operation : Operation}
      (hguest : request.operation? = some operation) (h : rt.state = .closed) :
      Runtime.Refuses r rt request .closed
  | unfit {request : Request} {e : RuntimeError} (hready : rt.state = .ready)
      (h : rt.program.Refuses r request e) : Runtime.Refuses r rt request e

theorem Signature.Refuses.isRefusal {name : String} {s : Signature} {args : List Value}
    {e : RuntimeError} (h : s.Refuses name args e) : e.IsRefusal := by
  cases h <;> trivial

theorem Program.Refuses.isRefusal {program : Program} {request : Request} {e : RuntimeError}
    (h : program.Refuses r request e) : e.IsRefusal := by
  cases h with
  | noFunction | results | noType => trivial
  | arguments _ _ h => exact h.isRefusal

theorem Runtime.Refuses.isRefusal {rt : Runtime σ} {request : Request} {e : RuntimeError}
    (h : rt.Refuses r request e) : e.IsRefusal := by
  cases h with
  | again | early | failed | closed => trivial
  | unfit _ h => exact h.isRefusal

theorem Program.Refuses.operation? {program : Program} {request : Request} {e : RuntimeError}
    (h : program.Refuses r request e) : ∃ operation, request.operation? = some operation := by
  cases h with
  | noFunction hcall | arguments hcall => cases request <;> cases hcall <;> exact ⟨_, rfl⟩
  | results => exact ⟨_, rfl⟩
  | noType htype => cases request <;> cases htype <;> exact ⟨_, rfl⟩

/-! ## Preparing a call -/

namespace Runtime

theorem firstMismatch_append {index : Nat} (before : List Value) {args : List Value}
    {params : List Kind} :
    firstMismatch index (before ++ args) (before.map Value.kind ++ params) =
      firstMismatch (index + before.length) args params := by
  induction before generalizing index with
  | nil => rfl
  | cons v before ih =>
      rw [List.cons_append, List.map_cons, List.cons_append, firstMismatch, if_pos rfl, ih,
        List.length_cons, Nat.add_assoc, Nat.add_comm 1]

/-- The argument that is found is the first one of another kind than its parameter. -/
theorem firstMismatch_eq_some {index found : Nat} {mismatch : TypeMismatch} {args : List Value}
    {params : List Kind} (h : firstMismatch index args params = some (found, mismatch)) :
    ∃ before v after k rest, args = before ++ v :: after ∧
      params = before.map Value.kind ++ k :: rest ∧ v.kind ≠ k ∧
      found = index + before.length ∧ mismatch = ⟨k, v.kind⟩ := by
  induction args generalizing index params with
  | nil => cases h
  | cons v args ih =>
      cases params with
      | nil => cases h
      | cons k params =>
          rw [firstMismatch] at h
          split_ifs at h with hkind
          · obtain ⟨before, v', after, k', rest, rfl, rfl, hne, rfl, rfl⟩ := ih h
            refine ⟨v :: before, v', after, k', rest, rfl, ?_, hne, ?_, rfl⟩
            · rw [← hkind]
              rfl
            · rw [List.length_cons]
              omega
          · cases h
            exact ⟨[], v, args, k, params, rfl, rfl, hkind, rfl, rfl⟩

variable {program : Program} {name : String} {args : List Value}

theorem prepareCall_eq_ok_iff {s : Signature} :
    prepareCall program name args = .ok s ↔
      program.exports.get? name = some s ∧ args.map Value.kind = s.params := by
  refine ⟨prepareCall_ok, fun ⟨hs, hkinds⟩ => ?_⟩
  have hlength : args.length = s.params.length := by rw [← hkinds, List.length_map]
  have hmatch : firstMismatch 0 args s.params = none := by
    have happend : firstMismatch 0 (args ++ []) (args.map Value.kind ++ []) =
        firstMismatch (0 + args.length) [] [] := firstMismatch_append args
    rwa [List.append_nil, List.append_nil, hkinds] at happend
  rw [prepareCall, hs]
  dsimp only
  rw [if_neg (not_not.2 hlength), hmatch]

/-- A call is not prepared when there is no such function, or when the arguments do not fit it. -/
theorem prepareCall_eq_error_iff {e : RuntimeError} :
    prepareCall program name args = .error e ↔
      program.exports.get? name = none ∧ e = .noSuchFunction name program.exports.keys ∨
      ∃ s, program.exports.get? name = some s ∧ s.Refuses name args e := by
  rw [prepareCall]
  cases hs : program.exports.get? name with
  | none => simp [eq_comm]
  | some s =>
      dsimp only
      refine ⟨fun h => .inr ⟨s, rfl, ?_⟩, ?_⟩
      · split_ifs at h with hlength
        · cases h
          exact .arity hlength
        · split at h <;> cases h
          rename_i hmatch
          obtain ⟨before, v, after, k, rest, rfl, hparams, hkind, hindex, rfl⟩ :=
            firstMismatch_eq_some hmatch
          obtain rfl := hindex.trans (Nat.zero_add _)
          refine .kind hparams ?_ hkind
          simpa [hparams] using hlength
      · rintro (⟨⟨⟩, -⟩ | ⟨s', hs', h⟩)
        obtain rfl := Option.some.inj hs'
        cases h with
        | arity hlength => rw [if_pos hlength]
        | @kind before after v k rest hparams hlength hkind =>
            have hmatch : firstMismatch 0 (before ++ v :: after) s.params =
                some (before.length, ⟨k, v.kind⟩) := by
              rw [hparams, firstMismatch_append, firstMismatch, if_neg hkind, Nat.zero_add]
            rw [if_neg (by simp [hparams, hlength]), hmatch]

/-- A request comes to no work for a program just when it does not fit. -/
theorem work_eq_error_iff {request : Request} {e : RuntimeError} :
    work b r program request = .error e ↔ program.Refuses r request e := by
  have hprepared : ∀ {request name args}, request.callee? = some (name, args) →
      prepareCall program name args = .error e → program.Refuses r request e := by
    intro request name args hcall h
    rcases prepareCall_eq_error_iff.1 h with ⟨hnone, rfl⟩ | ⟨s, hs, h⟩
    · exact .noFunction hcall hnone
    · exact .arguments hcall hs h
  constructor
  · intro h
    cases request with
    | call name args =>
        simp only [work] at h
        split at h
        · rename_i hprepare
          cases h
          exact hprepared rfl hprepare
        · rename_i s hprepare
          split_ifs at h with hcount
          cases h
          obtain ⟨hs, hkinds⟩ := prepareCall_ok hprepare
          exact .results hs hkinds hcount
    | callMulti name args =>
        simp only [work] at h
        split at h <;> cases h
        rename_i hprepare
        exact hprepared rfl hprepare
    | writeStruct v =>
        simp only [work] at h
        split at h <;> cases h
        rename_i hlookup
        exact .noType rfl hlookup
    | readStruct typeName address =>
        simp only [work] at h
        split at h <;> cases h
        rename_i hlookup
        exact .noType rfl hlookup
    | _ => cases h
  · intro h
    cases h with
    | @noFunction request name args hcall hnone =>
        have hprepare : prepareCall program name args = .error (.noSuchFunction name _) :=
          prepareCall_eq_error_iff.2 (.inl ⟨hnone, rfl⟩)
        cases request <;> cases hcall <;> simp only [work, hprepare]
    | arguments hcall hs h =>
        have hprepare := prepareCall_eq_error_iff.2 (.inr ⟨_, hs, h⟩)
        cases request <;> cases hcall <;> simp only [work, hprepare]
    | results hs hkinds hcount =>
        simp only [work, prepareCall_eq_ok_iff.2 ⟨hs, hkinds⟩, if_pos hcount]
    | noType htype h =>
        cases request <;> cases htype <;> simp only [work, h]

/-! ## Refusals -/

variable {rt : Runtime σ} {request : Request} {e : RuntimeError}

/-- A module was given before, or the runtime is not in working order, or the request does not fit
its program. -/
theorem Refuses.reason (h : rt.Refuses r request e) :
    (rt.state ≠ .uninstantiated ∧ e = .invalidState .instantiate rt.state ∧
      ∃ bytecode host, request = .instantiate bytecode host) ∨
    (rt.state ≠ .ready ∧
      ∃ operation, request.operation? = some operation ∧ e = rt.refusal operation) ∨
    rt.state = .ready ∧ rt.program.Refuses r request e := by
  cases h with
  | again h => exact .inl ⟨h, rfl, _, _, rfl⟩
  | early hguest h =>
      exact .inr (.inl ⟨by rw [h]; nofun, _, hguest, (refusal_of_uninstantiated h _).symm⟩)
  | failed hguest h =>
      exact .inr (.inl ⟨by rw [state_of_failure? h]; nofun, _, hguest,
        (refusal_of_failure? h _).symm⟩)
  | closed hguest h => exact .inr (.inl ⟨by rw [h]; nofun, _, hguest, (refusal_of_closed h _).symm⟩)
  | unfit hready h => exact .inr (.inr ⟨hready, h⟩)

/-- A refusal is the answer, and nothing else happens. -/
theorem Refuses.answer (h : rt.Refuses r request e) (b : Backend σ) :
    rt.answer b r request = (rt.refuse e, r) := by
  rcases h.reason with ⟨hstate, rfl, bytecode, host, rfl⟩ | ⟨hstate, operation, hguest, rfl⟩ |
    ⟨hready, hunfit⟩
  · obtain ⟨config, phase⟩ := rt
    cases phase with
    | uninstantiated => exact (hstate rfl).elim
    | _ => rfl
  · exact answer_of_not_ready hstate hguest
  · obtain ⟨config, phase⟩ := rt
    cases phase with
    | ready digest program sandbox =>
        obtain ⟨operation, hguest⟩ := hunfit.operation?
        have hwork : work b r program request = .error e := work_eq_error_iff.2 hunfit
        rw [answer_of_ready rfl hguest, hwork]
    | _ => cases hready

/-- A function that is missing comes with the names of all functions. -/
theorem Refuses.available {name : String} {available : List String}
    (h : rt.Refuses r request (.noSuchFunction name available)) : available = rt.exports.keys := by
  cases h with
  | unfit _ h =>
      cases h with
      | noFunction => rfl
      | arguments _ _ h => cases h

/-- The argument that is named is the first one of another kind than its parameter. -/
theorem Refuses.first_misfit {name : String} {index : Nat} {mismatch : TypeMismatch}
    (h : rt.Refuses r request (.argumentType name index mismatch)) :
    ∃ args s, request.callee? = some (name, args) ∧ rt.signature? name = some s ∧
      args.length = s.params.length ∧
      (args.map Value.kind)[index]? = some mismatch.actual ∧
      s.params[index]? = some mismatch.expected ∧ mismatch.actual ≠ mismatch.expected ∧
      ∀ earlier < index, (args.map Value.kind)[earlier]? = s.params[earlier]? := by
  cases h with
  | unfit _ h =>
      cases h with
      | @arguments _ _ args s _ hcall hs h =>
          cases h with
          | @kind before after v k rest hparams hlength hkind =>
              refine ⟨_, s, hcall, hs, ?_, ?_, ?_, hkind, fun earlier hearlier => ?_⟩
              · simp [hparams, hlength]
              · simp
              · simp [hparams]
              · simp [hparams, List.getElem?_append, hearlier]

theorem refuses_of_not_ready {operation : Operation} (hstate : rt.state ≠ .ready)
    (hguest : request.operation? = some operation) :
    rt.Refuses r request (rt.refusal operation) := by
  obtain ⟨config, phase⟩ := rt
  cases phase with
  | uninstantiated => exact .early hguest rfl
  | ready digest program sandbox => exact (hstate rfl).elim
  | unloaded digest reason | broken digest program sandbox reason => exact .failed hguest rfl
  | closed digest program => exact .closed hguest rfl

/-- In working order, work in the guest that fails with an error of a refusal does not fit. -/
theorem unfit_of_result {config : Config} {digest : String} {program : Program} {sandbox : σ}
    {operation : Operation} (hguest : request.operation? = some operation)
    (hresult : ((⟨config, .ready digest program sandbox⟩ : Runtime σ).answer b r request).1.result =
      .error e) (hrefusal : e.IsRefusal) : program.Refuses r request e := by
  rw [answer_of_ready rfl hguest] at hresult
  cases hwork : work b r program request with
  | error e' =>
      rw [hwork] at hresult
      obtain rfl := Except.error.inj hresult
      exact work_eq_error_iff.1 hwork
  | ok op =>
      rw [hwork] at hresult
      dsimp only at hresult
      rcases hfrom : op.from ⟨sandbox, []⟩ with ⟨fault | answer, t⟩
      · rw [inGuest_eq_of_from hfrom] at hresult
        obtain rfl := Except.error.inj hresult
        exact (fault.not_isRefusal_report _ hrefusal).elim
      · rw [inGuest_eq_of_from hfrom] at hresult
        cases hresult

/-- Of the requests that are no work in the guest, only being given another module is answered with
an error of a refusal. -/
theorem refuses_of_result_outside (hnone : request.operation? = none)
    (hresult : (rt.answer b r request).1.result = .error e) (hrefusal : e.IsRefusal) :
    rt.Refuses r request e := by
  have hcase := answer_case b r rt request
  generalize rt.answer b r request = answered at hcase hresult
  cases hcase with
  | registry | up | closed => cases hresult
  | down =>
      obtain rfl := Except.error.inj hresult
      exact hrefusal.elim
  | again hphase =>
      obtain rfl := Except.error.inj hresult
      refine .again fun hstate => hphase ?_
      obtain ⟨config, phase⟩ := rt
      cases phase <;> cases hstate
      rfl
  | refused hsome | served hsome => simp [hnone] at hsome

/-- A request is answered with an error of a refusal just when it is refused. -/
theorem answer_refused_iff :
    (rt.answer b r request).1.result = .error e ∧ e.IsRefusal ↔ rt.Refuses r request e := by
  refine ⟨fun ⟨hresult, hrefusal⟩ => ?_, fun h => ⟨by rw [h.answer b]; rfl, h.isRefusal⟩⟩
  cases hguest : request.operation? with
  | none => exact refuses_of_result_outside hguest hresult hrefusal
  | some operation =>
      by_cases hready : rt.state = .ready
      · obtain ⟨config, phase⟩ := rt
        cases phase with
        | ready digest program sandbox => exact .unfit rfl (unfit_of_result hguest hresult hrefusal)
        | _ => cases hready
      · rw [answer_of_not_ready hready hguest] at hresult
        obtain rfl := Except.error.inj hresult
        exact refuses_of_not_ready hready hguest

end Runtime

/-- Cells that show a runtime refuse what it refuses, and write nothing. -/
theorem Cells.Shows.answer_of_refuses {c : Cells σ} {rt : Runtime σ} (h : c.Shows rt)
    {request : Request} {e : RuntimeError} (hrefuses : rt.Refuses r request e) (b : Backend σ) :
    c.answer b r request = (c.refuse (.told e), r) := by
  rcases hrefuses.reason with ⟨hstate, rfl, bytecode, host, rfl⟩ |
    ⟨hstate, operation, hguest, rfl⟩ | ⟨hready, hunfit⟩
  · exact h.instantiate_of_state_ne hstate _ _
  · exact h.answer_of_not_ready hstate hguest
  · have hprogram : (⟨c.exports, c.metadata⟩ : Program) = rt.program := by
      rw [h.exports, h.metadata]
      rfl
    have hserve : ∀ operation, c.serve b r operation request = c.refuse (.told e) := by
      intro operation
      rw [Cells.serve, h.ensureReady_of_ready hready, hprogram,
        Runtime.work_eq_error_iff.2 hunfit]
    obtain ⟨operation, hguest⟩ := hunfit.operation?
    cases request <;> cases hguest <;> simp only [Cells.answer, hserve]

namespace World

/-- After any run, a request that is answered with an error of a refusal, by the runtime or by the
cells moved by the same requests, was refused for it: nothing was asked of the sandbox, and the
runtime, the cells and the registry are as they were.  What such an error tells is the reason for
the refusal.  A function that is missing comes with the names of all functions in order, and an
argument that does not fit is the first one of another kind than its parameter. -/
theorem afterAll_refusals (b : Backend σ) (r : Registry) (config : Config)
    (requests : List Request) (request : Request) :
    let w := (start r config).afterAll b requests
    let c := ((Cells.new config).afterAll b r requests).1
    let told := w.runtime.answer b w.registry request
    let written := c.answer b w.registry request
    (∀ e, told.1.result = .error e → e.IsRefusal →
      told.1.trace = [] ∧ told.1.runtime = w.runtime ∧ told.2 = w.registry) ∧
    (∀ e, written.1.result = .error e → e.IsRefusal →
      written.1.trace = [] ∧ written.1.cells = c ∧ written.2 = w.registry) ∧
    (∀ e, told.1.result = .error e ∧ e.IsRefusal ↔ w.runtime.Refuses w.registry request e) ∧
    (∀ name available, told.1.result = .error (.noSuchFunction name available) →
      available = w.runtime.exports.keys ∧ available.Pairwise (· < ·) ∧
        ∀ other, other ∈ available ↔ (w.runtime.signature? other).isSome) ∧
    ∀ name index mismatch, told.1.result = .error (.argumentType name index mismatch) →
      ∃ args s, request.callee? = some (name, args) ∧ w.runtime.signature? name = some s ∧
        args.length = s.params.length ∧
        (args.map Value.kind)[index]? = some mismatch.actual ∧
        s.params[index]? = some mismatch.expected ∧ mismatch.actual ≠ mismatch.expected ∧
        ∀ earlier < index, (args.map Value.kind)[earlier]? = s.params[earlier]? := by
  intro w c told written
  have hshows : c.Shows w.runtime :=
    ((Cells.shows_new config).afterAll (w := .start r config) b requests).1
  have hrefused : ∀ {e}, told.1.result = .error e → e.IsRefusal →
      w.runtime.Refuses w.registry request e :=
    fun hresult hrefusal => Runtime.answer_refused_iff.1 ⟨hresult, hrefusal⟩
  refine ⟨fun e hresult hrefusal => ?_, fun e hresult hrefusal => ?_,
    fun e => Runtime.answer_refused_iff, fun name available hresult => ?_,
    fun name index mismatch hresult => ?_⟩
  · have htold : told = (w.runtime.refuse e, w.registry) := (hrefused hresult hrefusal).answer b
    rw [htold]
    exact ⟨rfl, rfl, rfl⟩
  · have hagrees : written.1.Agrees told.1 := (hshows.answer b w.registry request).1
    obtain ⟨e', htold, rfl⟩ : ∃ e', told.1.result = .error e' ∧ .told e' = e := by
      have hsame := hagrees.result
      rw [hresult] at hsame
      cases htold : told.1.result with
      | error e' => exact ⟨e', rfl, (Except.error.inj (htold ▸ hsame)).symm⟩
      | ok answer => rw [htold] at hsame; cases hsame
    have hwritten : written = (c.refuse (.told e'), w.registry) :=
      hshows.answer_of_refuses (hrefused htold hrefusal) b
    rw [hwritten]
    exact ⟨rfl, rfl, rfl⟩
  · obtain rfl := (hrefused hresult trivial).available
    exact ⟨rfl, List.pairwise_map.2 w.runtime.exports.sorted, fun other => SortedMap.mem_keys_iff⟩
  · exact (hrefused hresult trivial).first_misfit

/-- A sandbox with an export that takes words of two types and answers with none. -/
def sinkScript : Scripted.Script where
  exports := [⟨"sink", [.i32, .i64, .i64], []⟩]
  arena := .zeroed 64 256 []
  loadFailure := none
  initializer := .ok true
  actions := [("sink", [⟨none, .answer []⟩])]

/-- A call whose second argument is the first that does not fit is refused for it, and one that
fits is refused for its results. -/
theorem afterAll_refusals_sink :
    let b := Scripted.backend sinkScript
    let w := (start .primitives .standard).afterAll b [.instantiate [] .empty]
    let misfit := w.runtime.answer b w.registry (.call "sink" [.i32 1, .i32 2, .u64 3])
    let fitting := w.runtime.answer b w.registry (.call "sink" [.i32 1, .i64 2, .i64 3])
    (misfit.1.result = .error (.argumentType "sink" 1 ⟨.i64, .i32⟩) ∧ misfit.1.trace = [] ∧
      misfit.1.runtime = w.runtime ∧ misfit.2 = w.registry) ∧
    fitting.1.result = .error (.resultCount "sink" 1 0) ∧ fitting.1.trace = [] ∧
      fitting.1.runtime = w.runtime ∧ fitting.2 = w.registry := by
  intro b w misfit fitting
  have hmisfit : misfit.1.result = .error (.argumentType "sink" 1 ⟨.i64, .i32⟩) := by rfl
  have hfitting : fitting.1.result = .error (.resultCount "sink" 1 0) := by rfl
  have hrefusals := afterAll_refusals b .primitives .standard [.instantiate [] .empty]
  exact ⟨⟨hmisfit, (hrefusals _).1 _ hmisfit trivial⟩, hfitting,
    (hrefusals _).1 _ hfitting trivial⟩

end World

end GuestBridge
