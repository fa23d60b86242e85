import GuestBridge.Proofs.Runtime.World

/-!
# Answers to requests

`Runtime.answer` is what a runtime answers to a request, whatever is asked, and a world moves by it
(`World.after_eq`).  Four kinds of requests are for the guest: a runtime in working order first
prepares them without asking the sandbox anything (`Runtime.work`) and then runs what they come
to in the guest (`answer_of_ready`), and any other runtime refuses them (`answer_of_not_ready`).
`AnswerCase` lists all that can be answered to a request of any kind (`answer_case`).

What is run in a guest asks at most for exports and memory, and `inGuest_eq` tells the runtime after
it: broken by a fatal trap, and by nothing else (`fatalTrap?`).
-/

namespace GuestBridge

variable {σ α β : Type} {b : Backend σ}

/-! ## Answers -/

/-- What a request is answered with. -/
inductive Answer where
  | done
  | value (v : Value)
  | values (values : List Value)
  | address (address : UInt32)
  | struct (v : StructValue)

/-- The answer of a call that has one result. -/
def Answer.ofResults : List Value → Answer
  | [v] => .value v
  | results => .values results

namespace Request

/-- What a request for the guest is called when it is refused; the others are not for the guest. -/
def operation? : Request → Option Operation
  | .call .. | .callMulti .. => some .call
  | .writeStruct _ => some .writeStruct
  | .readStruct .. => some .readStruct
  | .registry _ | .instantiate .. | .close => none

/-- The function or the type on whose behalf a request for the guest is made. -/
def subject : Request → String
  | .call name _ | .callMulti name _ => name
  | .writeStruct v => v.typeName
  | .readStruct typeName _ => typeName
  | .registry _ | .instantiate .. | .close => ""

end Request

/-- The outcome with another answer. -/
def Outcome.map (f : α → β) (out : Outcome σ α) : Outcome σ β :=
  ⟨out.result.map f, out.runtime, out.trace⟩

namespace Runtime

/-- The answer to a request, and the registry after it. -/
def answer (b : Backend σ) (r : Registry) (rt : Runtime σ) :
    Request → Outcome σ Answer × Registry
  | .registry request => (⟨.ok .done, rt, []⟩, r.after request)
  | .instantiate bytecode host =>
      let (out, r') := rt.instantiate b r bytecode host
      (out.map fun _ => .done, r')
  | .call name args => ((rt.call b name args).map .value, r)
  | .callMulti name args => ((rt.callMulti b name args).map .values, r)
  | .writeStruct v => ((rt.writeStruct b r v).map .address, r)
  | .readStruct typeName address => ((rt.readStruct b r typeName address).map .struct, r)
  | .close => (⟨.ok .done, rt.close.1, rt.close.2⟩, r)

/-- What a request for the guest comes to for a program, or why it does not fit. -/
def work (b : Backend σ) (r : Registry) (program : Program) :
    Request → Except RuntimeError (ProgramM σ Answer)
  | .call name args =>
      match prepareCall program name args with
      | .error e => .error e
      | .ok s =>
          if s.results.length ≠ 1 then .error (.resultCount name 1 s.results.length)
          else .ok (Answer.ofResults <$> invokeWith b name s args)
  | .callMulti name args =>
      match prepareCall program name args with
      | .error e => .error e
      | .ok s => .ok (Answer.values <$> invokeWith b name s args)
  | .writeStruct v =>
      match r.lookup v.typeName with
      | .error e => .error (.registry e)
      | .ok type => .ok (Answer.address <$> placeStruct b type v)
  | .readStruct typeName address =>
      match r.lookup typeName with
      | .error e => .error (.registry e)
      | .ok type => .ok (Answer.struct <$> fetchStruct b type address)
  | .registry _ | .instantiate .. | .close => .ok (pure .done)

end Runtime

/-! ## In a guest -/

/-- The message of a fatal trap, if that is what the work ended with. -/
def fatalTrap? : Except CallFault α → Option String
  | .error (.sandbox (.trap message true)) => some message
  | _ => none

/-- How a fault is reported on behalf of a function or type. -/
def CallFault.report (subject : String) : CallFault → RuntimeError
  | .layout e => .layout e
  | .sandbox (.trap message _) => .trap subject message
  | .sandbox e => .marshal subject e

/-- The entry is for an export or the memory of a guest. -/
def TraceEntry.InGuest (entry : TraceEntry) : Prop :=
  match entry.call with
  | .invoke .. | .alloc .. | .read .. => True
  | .load _ | .exports _ | .runInitializer .. | .release => False

theorem memory_leads_inGuest (b : Backend σ) : b.memory.Leads (Traced.Grows TraceEntry.InGuest) :=
  ⟨fun _ => perform_leads fun _ _ => trivial, fun _ _ => perform_leads fun _ _ => trivial⟩

namespace Runtime

variable {config : Config} {digest subject : String} {program : Program} {sandbox : σ}
  {op : ProgramM σ α}

/-- The phase after work on behalf of `subject` that ended with `x` and left the sandbox there. -/
def phaseAfter (digest : String) (program : Program) (sandbox : σ) (subject : String)
    (x : Except CallFault α) : Phase σ :=
  match fatalTrap? x with
  | some message => .broken digest program sandbox (.trap subject message)
  | none => .ready digest program sandbox

/-- What is run in a guest answers as it does there, and a fatal trap breaks the program. -/
theorem inGuest_eq_of_from {x : Except CallFault α} {t : Traced σ}
    (h : op.from ⟨sandbox, []⟩ = (x, t)) :
    inGuest config digest program sandbox subject op =
      ⟨x.mapError (CallFault.report subject),
        ⟨config, phaseAfter digest program t.sandbox subject x⟩, t.trace⟩ := by
  unfold inGuest
  rw [h]
  rcases x with (e | e) | a
  · cases e with
    | trap message fatal => cases fatal <;> rfl
    | _ => rfl
  · rfl
  · rfl

theorem inGuest_map (f : α → β) :
    inGuest config digest program sandbox subject (f <$> op) =
      (inGuest config digest program sandbox subject op).map f := by
  rcases h : op.from ⟨sandbox, []⟩ with ⟨x, t⟩
  have hmap : (f <$> op).from ⟨sandbox, []⟩ = (x.map f, t) := by rw [Fallible.from_map, h]
  rw [inGuest_eq_of_from h, inGuest_eq_of_from hmap]
  rcases x with (e | e) | a
  · cases e with
    | trap message fatal => cases fatal <;> rfl
    | _ => rfl
  · rfl
  · rfl

/-- A call of a function with one result answers with one value. -/
theorem inGuest_ofResults {name : String} {s : Signature} {args : List Value}
    (hcount : s.results.length = 1) :
    inGuest config digest program sandbox name (Answer.ofResults <$> invokeWith b name s args) =
      let out := inGuest config digest program sandbox name (invokeWith b name s args)
      Outcome.map .value ⟨out.result.bind (lastResult name), out.runtime, out.trace⟩ := by
  rw [inGuest_map]
  rcases h : (invokeWith b name s args).from ⟨sandbox, []⟩ with ⟨fault | values, t⟩
  · rw [inGuest_eq_of_from h]
    rfl
  · obtain ⟨hkinds, -⟩ := invokeWith_ok h
    obtain ⟨v, rfl⟩ := exists_eq_singleton hkinds hcount
    rw [inGuest_eq_of_from h]
    rfl

/-! ## Requests for the guest -/

variable {r : Registry} {rt : Runtime σ} {request : Request} {operation : Operation}

/-- All that a request can come to. -/
inductive WorkCase (b : Backend σ) (r : Registry) (program : Program) :
    Request → ProgramM σ Answer → Prop where
  | call {name : String} {args : List Value} {s : Signature}
      (hprepare : prepareCall program name args = .ok s) (hcount : s.results.length = 1) :
      WorkCase b r program (.call name args) (Answer.ofResults <$> invokeWith b name s args)
  | callMulti {name : String} {args : List Value} {s : Signature}
      (hprepare : prepareCall program name args = .ok s) :
      WorkCase b r program (.callMulti name args) (Answer.values <$> invokeWith b name s args)
  | writeStruct {v : StructValue} {type : TypeDescriptor}
      (hlookup : r.lookup v.typeName = .ok type) :
      WorkCase b r program (.writeStruct v) (Answer.address <$> placeStruct b type v)
  | readStruct {typeName : String} {address : UInt32} {type : TypeDescriptor}
      (hlookup : r.lookup typeName = .ok type) :
      WorkCase b r program (.readStruct typeName address)
        (Answer.struct <$> fetchStruct b type address)
  | none {request : Request} (hguest : request.operation? = none) :
      WorkCase b r program request (pure .done)

theorem work_case {op : ProgramM σ Answer} (h : work b r program request = .ok op) :
    WorkCase b r program request op := by
  cases request with
  | call name args =>
      simp only [work] at h
      split at h
      · cases h
      · rename_i s hprepare
        split_ifs at h with hcount
        cases h
        exact .call hprepare (Decidable.not_not.1 hcount)
  | callMulti name args =>
      simp only [work] at h
      split at h <;> cases h
      rename_i s hprepare
      exact .callMulti hprepare
  | writeStruct v =>
      simp only [work] at h
      split at h <;> cases h
      rename_i type hlookup
      exact .writeStruct hlookup
  | readStruct typeName address =>
      simp only [work] at h
      split at h <;> cases h
      rename_i type hlookup
      exact .readStruct hlookup
  | _ =>
      cases h
      exact .none rfl

theorem work_leads {op : ProgramM σ Answer} (h : work b r program request = .ok op) :
    op.Leads (Traced.Grows TraceEntry.InGuest) := by
  have hmem := memory_leads_inGuest b
  have hinvoke : ∀ name s args,
      (invokeWith b name s args).Leads (Traced.Grows TraceEntry.InGuest) := by
    intro name s args
    refine ((lowerValues_leads hmem args).adapt _).bind fun words => ?_
    refine Fallible.Leads.bind ?_ fun out => (liftValues_leads hmem s.results out).adapt _
    exact (perform_leads fun _ _ => trivial).adapt _
  cases work_case h with
  | call | callMulti => exact (hinvoke _ _ _).map _
  | writeStruct => exact (placeStruct_leads hmem _ _).map _
  | readStruct => exact (fetchStruct_leads hmem _ _).map _
  | none => exact Fallible.leads_pure _

/-- A runtime in working order prepares a request and runs what it comes to in the guest. -/
theorem answer_of_ready (hphase : rt.phase = .ready digest program sandbox)
    (hguest : request.operation? = some operation) :
    rt.answer b r request =
      (match work b r program request with
        | .error e => rt.refuse e
        | .ok op => inGuest rt.config digest program sandbox request.subject op, r) := by
  cases request with
  | call name args =>
      simp only [answer, call, work, hphase]
      cases prepareCall program name args with
      | error e => rfl
      | ok s =>
          dsimp only [Request.subject]
          split_ifs with hcount
          · rfl
          · exact congrArg (·, r) (inGuest_ofResults (Decidable.not_not.1 hcount)).symm
  | callMulti name args =>
      simp only [answer, callMulti, work, hphase]
      cases prepareCall program name args with
      | error e => rfl
      | ok s =>
          exact congrArg (·, r) (inGuest_map _).symm
  | writeStruct v =>
      simp only [answer, writeStruct, work, hphase]
      cases r.lookup v.typeName with
      | error e => rfl
      | ok type =>
          exact congrArg (·, r) (inGuest_map _).symm
  | readStruct typeName address =>
      simp only [answer, readStruct, work, hphase]
      cases r.lookup typeName with
      | error e => rfl
      | ok type =>
          exact congrArg (·, r) (inGuest_map _).symm
  | _ => cases hguest

/-- A runtime that is not in working order refuses a request for the guest. -/
theorem answer_of_not_ready (hstate : rt.state ≠ .ready)
    (hguest : request.operation? = some operation) :
    rt.answer b r request = (rt.refuse (rt.refusal operation), r) := by
  obtain ⟨config, phase⟩ := rt
  cases phase with
  | ready digest program sandbox => exact (hstate rfl).elim
  | _ =>
      cases request <;> cases hguest <;> rfl

/-- A request for the guest is refused, or it is run in the guest of a runtime in working order and
asks there for exports and memory only. -/
theorem answer_guest_cases (b : Backend σ) (r : Registry) (rt : Runtime σ)
    (hguest : request.operation? = some operation) :
    (∃ e, rt.answer b r request = (rt.refuse e, r)) ∨
      ∃ digest program sandbox, rt.phase = .ready digest program sandbox ∧
        ∃ (x : Except CallFault Answer) (t : Traced σ), (∀ entry ∈ t.trace, entry.InGuest) ∧
          rt.answer b r request =
            (⟨x.mapError (CallFault.report request.subject),
              ⟨rt.config, phaseAfter digest program t.sandbox request.subject x⟩, t.trace⟩, r) := by
  by_cases hstate : rt.state = .ready
  · obtain ⟨config, phase⟩ := rt
    cases phase with
    | ready digest program sandbox =>
        rw [answer_of_ready rfl hguest]
        cases hwork : work b r program request with
        | error e => exact .inl ⟨e, rfl⟩
        | ok op =>
            rcases hfrom : op.from ⟨sandbox, []⟩ with ⟨x, t⟩
            obtain ⟨added, htrace, hadded⟩ := (work_leads hwork).of_from hfrom
            obtain rfl : t.trace = added := htrace
            exact .inr ⟨digest, program, sandbox, rfl, x, t, hadded,
              congrArg (·, r) (inGuest_eq_of_from hfrom)⟩
    | _ => cases hstate
  · exact .inl ⟨_, answer_of_not_ready hstate hguest⟩

/-- All that a runtime can answer to a request. -/
inductive AnswerCase (b : Backend σ) (r : Registry) (rt : Runtime σ) :
    Request → Outcome σ Answer × Registry → Prop where
  | registry (request : RegistryRequest) :
      AnswerCase b r rt (.registry request) (⟨.ok .done, rt, []⟩, r.after request)
  | up {bytecode : Bytes} {host : HostBindings} {program : Program} {sandbox : σ} {r' : Registry}
      (hphase : rt.phase = .uninstantiated)
      (hup : (bringUp b rt.config r bytecode host).result = .ok (program, sandbox, r')) :
      AnswerCase b r rt (.instantiate bytecode host)
        (⟨.ok .done, ⟨rt.config, .ready (digestText bytecode) program sandbox⟩,
          (bringUp b rt.config r bytecode host).trace⟩, r')
  | down {bytecode : Bytes} {host : HostBindings} {e : InstantiationError}
      (hphase : rt.phase = .uninstantiated)
      (hup : (bringUp b rt.config r bytecode host).result = .error e) :
      AnswerCase b r rt (.instantiate bytecode host)
        (⟨.error (.instantiation e),
          ⟨rt.config, .unloaded (digestText bytecode) (.instantiation e)⟩,
          (bringUp b rt.config r bytecode host).trace⟩, r)
  | again {bytecode : Bytes} {host : HostBindings} (hphase : rt.phase ≠ .uninstantiated) :
      AnswerCase b r rt (.instantiate bytecode host)
        (rt.refuse (.invalidState .instantiate rt.state), r)
  | refused {request : Request} {operation : Operation}
      (hguest : request.operation? = some operation) (e : RuntimeError) :
      AnswerCase b r rt request (rt.refuse e, r)
  | served {request : Request} {operation : Operation}
      (hguest : request.operation? = some operation) {digest : String} {program : Program}
      {sandbox : σ} (hphase : rt.phase = .ready digest program sandbox)
      (x : Except CallFault Answer) {t : Traced σ} (hinGuest : ∀ entry ∈ t.trace, entry.InGuest) :
      AnswerCase b r rt request
        (⟨x.mapError (CallFault.report request.subject),
          ⟨rt.config, phaseAfter digest program t.sandbox request.subject x⟩, t.trace⟩, r)
  | closed : AnswerCase b r rt .close (⟨.ok .done, rt.close.1, rt.close.2⟩, r)

theorem answer_case (b : Backend σ) (r : Registry) (rt : Runtime σ) (request : Request) :
    AnswerCase b r rt request (rt.answer b r request) := by
  cases hguest : request.operation? with
  | some operation =>
      rcases answer_guest_cases b r rt hguest with
        ⟨e, heq⟩ | ⟨digest, program, sandbox, hphase, x, t, hinGuest, heq⟩
      · exact heq ▸ .refused hguest e
      · exact heq ▸ .served hguest hphase x hinGuest
  | none =>
      cases request with
      | registry request => exact .registry request
      | instantiate bytecode host =>
          rw [answer]
          rcases instantiate_cases b r rt bytecode host with
            ⟨hphase, program, sandbox, r', hup, heq⟩ | ⟨hphase, e, hup, heq⟩ | ⟨hphase, heq⟩
          · exact heq ▸ .up hphase hup
          · exact heq ▸ .down hphase hup
          · exact heq ▸ .again hphase
      | close => exact .closed
      | _ => cases hguest

end Runtime

namespace World

/-- A world moves by the answer to a request. -/
theorem after_eq (b : Backend σ) (w : World σ) (request : Request) :
    w.after b request =
      ⟨(w.runtime.answer b w.registry request).2, (w.runtime.answer b w.registry request).1.runtime,
        w.trace ++ (w.runtime.answer b w.registry request).1.trace⟩ := by
  cases request with
  | registry request => simp [after, Runtime.answer]
  | _ => rfl

end World

end GuestBridge
