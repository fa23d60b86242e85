import GuestBridge.Proofs.Runtime.Cells
import GuestBridge.Sandbox.Scripted

/-!
# The life of a runtime

`Request.MayLead` is the table of all that a request can do to the stage of a runtime.  A runtime
that has failed stays as it is until it is closed, with the reason that the failing operation was
answered with (`failure?_of_answer`, `World.afterAll_of_failed`), and a closed one stays closed.

Cells that are moved by the same requests are always in order (`Cells.InOrder`): they are never left
at work, and what a stage needs is there.  So every request is answered as by a runtime, and none of
the answers that cells keep ready for the case that they do not fit is ever given.
-/

namespace GuestBridge

variable {σ : Type} {b : Backend σ} {r : Registry}

/-! ## Stages -/

/-- The stages to which a request may lead from a stage. -/
def Request.MayLead : Request → Stage → Stage → Prop
  | .close, _, s' => s' = .closed
  | .instantiate .., .uninstantiated, s' => s' = .ready ∨ s' = .failed
  | .call .., .ready, s' | .callMulti .., .ready, s' => s' = .ready ∨ s' = .failed
  | .writeStruct _, .ready, s' | .readStruct .., .ready, s' => s' = .ready ∨ s' = .failed
  | _, s, s' => s' = s

/-- The error that the operation was answered with that failed for the reason. -/
def FailureReason.error : FailureReason → RuntimeError
  | .instantiation e => .instantiation e
  | .trap subject message => .trap subject message

theorem RuntimeState.stage_inj {s s' : RuntimeState} : s.stage = s'.stage ↔ s = s' := by
  cases s <;> cases s' <;> simp [stage]

namespace Request

variable {request : Request} {operation : Operation}

theorem mayLead_self (hguest : request.operation? = some operation) (s : Stage) :
    request.MayLead s s := by
  cases request <;> cases hguest <;> cases s <;> first | rfl | exact .inl rfl

theorem mayLead_of_ready (hguest : request.operation? = some operation) {s' : Stage}
    (h : s' = .ready ∨ s' = .failed) : request.MayLead .ready s' := by
  cases request <;> cases hguest <;> exact h

end Request

namespace Runtime

variable {rt : Runtime σ} {request : Request}

theorem state_phaseAfter {α : Type} (config : Config) (digest : String) (program : Program)
    (sandbox : σ) (subject : String) (x : Except CallFault α) :
    state ⟨config, phaseAfter digest program sandbox subject x⟩ =
      if (fatalTrap? x).isSome then .failed else .ready := by
  unfold phaseAfter
  cases fatalTrap? x <;> rfl

theorem fatalTrap?_eq_some_iff {α : Type} {x : Except CallFault α} {message : String} :
    fatalTrap? x = some message ↔ x = .error (.sandbox (.trap message true)) := by
  unfold fatalTrap?
  split <;> simp_all

/-- The table of stages holds of every request. -/
theorem mayLead_answer (b : Backend σ) (r : Registry) (rt : Runtime σ) (request : Request) :
    request.MayLead rt.state.stage (rt.answer b r request).1.runtime.state.stage := by
  have hcase := answer_case b r rt request
  generalize rt.answer b r request = answered at hcase ⊢
  cases hcase with
  | registry request =>
      show Request.MayLead _ rt.state.stage rt.state.stage
      cases rt.state <;> rfl
  | up hphase _ =>
      rw [state, hphase]
      exact .inl rfl
  | down hphase _ =>
      rw [state, hphase]
      exact .inr rfl
  | again hphase =>
      obtain ⟨config, phase⟩ := rt
      cases phase with
      | uninstantiated => exact (hphase rfl).elim
      | _ => rfl
  | refused hguest e => exact Request.mayLead_self hguest _
  | served hguest hphase x _ =>
      have hready : rt.state = .ready := by rw [state, hphase]
      rw [hready]
      refine Request.mayLead_of_ready hguest ?_
      dsimp only
      rw [state_phaseAfter]
      split_ifs
      · exact .inr rfl
      · exact .inl rfl
  | closed =>
      obtain ⟨config, phase⟩ := rt
      cases phase <;> rfl

/-- A runtime that fails keeps the reason, which is what the failing operation was answered with. -/
theorem failure?_of_answer (hbefore : rt.state ≠ .failed)
    (hafter : (rt.answer b r request).1.runtime.state = .failed) :
    ∃ reason, (rt.answer b r request).1.runtime.failure? = some reason ∧
      (rt.answer b r request).1.result = .error reason.error := by
  have hcase := answer_case b r rt request
  generalize rt.answer b r request = answered at hcase hafter ⊢
  cases hcase with
  | registry | again | refused => exact (hbefore hafter).elim
  | up => cases hafter
  | @down _ _ e => exact ⟨.instantiation e, rfl, rfl⟩
  | served hguest hphase x _ =>
      dsimp only at hafter ⊢
      rw [state_phaseAfter] at hafter
      split_ifs at hafter with htrap
      obtain ⟨message, hmessage⟩ := Option.isSome_iff_exists.1 htrap
      obtain rfl := fatalTrap?_eq_some_iff.1 hmessage
      exact ⟨.trap request.subject message, rfl, rfl⟩
  | closed =>
      obtain ⟨config, phase⟩ := rt
      cases phase <;> cases hafter

theorem state_of_failure? {reason : FailureReason} (h : rt.failure? = some reason) :
    rt.state = .failed := by
  obtain ⟨config, phase⟩ := rt
  cases phase <;> cases h <;> rfl

theorem refusal_of_failure? {reason : FailureReason} (h : rt.failure? = some reason)
    (operation : Operation) : rt.refusal operation = .runtimeFailed reason := by
  obtain ⟨config, phase⟩ := rt
  cases phase <;> cases h <;> rfl

theorem refusal_of_closed (h : rt.state = .closed) (operation : Operation) :
    rt.refusal operation = .closed := by
  obtain ⟨config, phase⟩ := rt
  cases phase <;> cases h
  rfl

theorem refusal_of_uninstantiated (h : rt.state = .uninstantiated) (operation : Operation) :
    rt.refusal operation = .invalidState operation .uninstantiated := by
  obtain ⟨config, phase⟩ := rt
  cases phase <;> cases h
  rfl

theorem state_close (rt : Runtime σ) : rt.close.1.state = .closed := by
  obtain ⟨config, phase⟩ := rt
  cases phase <;> rfl

/-- A runtime that has failed or is closed stays as it is, but that it can be closed. -/
theorem answer_runtime_of_over (hover : rt.state = .failed ∨ rt.state = .closed)
    (hclose : request ≠ .close ∨ rt.state = .closed) :
    (rt.answer b r request).1.runtime = rt := by
  have hcase := answer_case b r rt request
  generalize rt.answer b r request = answered at hcase ⊢
  cases hcase with
  | registry | again | refused => rfl
  | up hphase _ | down hphase _ | served _ hphase _ _ => simp [state, hphase] at hover
  | closed =>
      obtain ⟨config, phase⟩ := rt
      cases phase with
      | closed digest program => rfl
      | _ => simp [state] at hclose

end Runtime

namespace World

variable {w : World σ}

theorem afterAll_of_closed (h : w.runtime.state = .closed) (requests : List Request) :
    (w.afterAll b requests).runtime = w.runtime := by
  induction requests generalizing w with
  | nil => rfl
  | cons request rest ih =>
      have hstep : (w.after b request).runtime = w.runtime := by
        rw [after_eq]
        exact Runtime.answer_runtime_of_over (.inr h) (.inr h)
      exact (ih (by rw [hstep, h])).trans hstep

/-- A runtime that has failed stays as it is until it is closed. -/
theorem afterAll_of_failed (h : w.runtime.state = .failed) (requests : List Request) :
    (Request.close ∈ requests → (w.afterAll b requests).runtime.state = .closed) ∧
      (Request.close ∉ requests → (w.afterAll b requests).runtime = w.runtime) := by
  induction requests generalizing w with
  | nil => exact ⟨nofun, fun _ => rfl⟩
  | cons request rest ih =>
      by_cases hclose : request = .close
      · subst hclose
        have hclosed : (w.after b .close).runtime.state = .closed := w.runtime.state_close
        refine ⟨fun _ => ?_, fun hopen => (hopen List.mem_cons_self).elim⟩
        rw [show w.afterAll b (.close :: rest) = (w.after b .close).afterAll b rest from rfl,
          afterAll_of_closed hclosed, hclosed]
      · have hstep : (w.after b request).runtime = w.runtime := by
          rw [after_eq]
          exact Runtime.answer_runtime_of_over (.inl h) (.inl hclose)
        obtain ⟨hclosed, hopen⟩ := ih (w := w.after b request) (by rw [hstep, h])
        exact ⟨fun hmem => hclosed (List.mem_of_ne_of_mem (Ne.symm hclose) hmem),
          fun hnot => (hopen fun hmem => hnot (List.mem_cons_of_mem _ hmem)).trans hstep⟩

/-- Until it is closed, a runtime that has failed answers with the reason for that. -/
theorem answer_of_failure? {reason : FailureReason} (h : w.runtime.failure? = some reason)
    {requests : List Request} (hopen : Request.close ∉ requests) {request : Request}
    {operation : Operation} (hguest : request.operation? = some operation) :
    let w' := w.afterAll b requests
    w'.runtime.answer b w'.registry request =
      (w'.runtime.refuse (.runtimeFailed reason), w'.registry) := by
  have hfailed := Runtime.state_of_failure? h
  have hsame := (afterAll_of_failed (b := b) hfailed requests).2 hopen
  dsimp only
  rw [hsame, Runtime.answer_of_not_ready (by rw [hfailed]; nofun) hguest,
    Runtime.refusal_of_failure? h]

end World

/-! ## Cells in order -/

namespace Cells

variable {c : Cells σ} {rt : Runtime σ}

/-- The cells are not left at work, and hold what their stage needs and no more. -/
structure InOrder (c : Cells σ) : Prop where
  at_rest : c.stage ≠ .instantiating ∧ c.stage ≠ .callInFlight
  uninstantiated : c.stage = .uninstantiated →
    c.sandbox = none ∧ c.exports = .empty ∧ c.digest = none
  ready : c.stage = .ready → c.sandbox.isSome ∧ c.digest.isSome
  failed : c.stage = .failed → c.failure.isSome
  closed : c.stage = .closed → c.sandbox = none

theorem Shows.inOrder (h : c.Shows rt) : c.InOrder := by
  obtain ⟨config, phase⟩ := rt
  obtain ⟨config', stage, sandbox, exports, metadata, digest, failure⟩ := c
  obtain ⟨-, rfl, rfl, rfl, -, rfl, hfailure⟩ := h
  cases phase with
  | uninstantiated => exact ⟨⟨nofun, nofun⟩, fun _ => ⟨rfl, rfl, rfl⟩, nofun, nofun, nofun⟩
  | ready digest program sandbox =>
      exact ⟨⟨nofun, nofun⟩, nofun, fun _ => ⟨rfl, rfl⟩, nofun, nofun⟩
  | unloaded digest reason =>
      obtain rfl := hfailure nofun
      exact ⟨⟨nofun, nofun⟩, nofun, nofun, fun _ => rfl, nofun⟩
  | broken digest program sandbox reason =>
      obtain rfl := hfailure nofun
      exact ⟨⟨nofun, nofun⟩, nofun, nofun, fun _ => rfl, nofun⟩
  | closed digest program => exact ⟨⟨nofun, nofun⟩, nofun, nofun, nofun, fun _ => rfl⟩

/-- Cells that show a runtime out of working order write nothing for a request for the guest. -/
theorem Shows.answer_of_not_ready (h : c.Shows rt) (hstate : rt.state ≠ .ready) {request : Request}
    {operation : Operation} (hguest : request.operation? = some operation) :
    c.answer b r request = (c.refuse (.told (rt.refusal operation)), r) := by
  cases request <;> cases hguest <;>
    simp only [Cells.answer, Cells.serve, h.ensureReady_of_not_ready hstate]

/-- Cells that show a runtime that was given a module write nothing when they are given another. -/
theorem Shows.instantiate_of_state_ne (h : c.Shows rt) (hstate : rt.state ≠ .uninstantiated)
    (bytecode : Bytes) (host : HostBindings) :
    c.instantiate b r bytecode host =
      (c.refuse (.told (.invalidState .instantiate rt.state)), r) := by
  have hstage := h.stage
  rw [Cells.instantiate, if_neg, Cells.invalidState, hstage]
  · cases rt.state <;> rfl
  · rw [hstage]
    exact fun hun => hstate (RuntimeState.stage_inj.1 hun)

theorem Shows.stage_eq_iff (h : c.Shows rt) (state : RuntimeState) :
    c.stage = state.stage ↔ rt.state = state := by
  rw [h.stage, RuntimeState.stage_inj]

/-- Cells that come to fail keep the reason, which is what the request was answered with. -/
theorem Shows.failure_of_answer (h : c.Shows rt) (b : Backend σ) (r : Registry)
    (request : Request) :
    let out := (c.answer b r request).1
    c.stage ≠ .failed → out.cells.stage = .failed →
      ∃ reason, out.cells.failure = some reason ∧ out.result = .error (.told reason.error) := by
  intro out hbefore hafter
  have hagrees : out.Agrees _ := (h.answer b r request).1
  have hfailed := (hagrees.cells.stage_eq_iff .failed).1 hafter
  obtain ⟨reason, hreason, hresult⟩ :=
    Runtime.failure?_of_answer (fun hstate => hbefore ((h.stage_eq_iff .failed).2 hstate)) hfailed
  refine ⟨reason, ?_, ?_⟩
  · rw [hagrees.cells.failure (by rw [hfailed]; nofun), hreason]
  · rw [hagrees.result, hresult]
    rfl

section Refusals

variable {request : Request} {operation : Operation}

theorem Shows.answer_of_failed (h : c.Shows rt) (hstage : c.stage = .failed)
    (hguest : request.operation? = some operation) :
    ∃ reason, c.failure = some reason ∧
      c.answer b r request = (c.refuse (.told (.runtimeFailed reason)), r) := by
  have hstate := (h.stage_eq_iff .failed).1 hstage
  obtain ⟨reason, hreason⟩ := Option.isSome_iff_exists.1 (h.inOrder.failed hstage)
  refine ⟨reason, hreason, ?_⟩
  rw [h.failure (by rw [hstate]; nofun)] at hreason
  rw [h.answer_of_not_ready (by rw [hstate]; nofun) hguest, Runtime.refusal_of_failure? hreason]

theorem Shows.answer_of_closed (h : c.Shows rt) (hstage : c.stage = .closed)
    (hguest : request.operation? = some operation) :
    c.answer b r request = (c.refuse (.told .closed), r) := by
  have hstate := (h.stage_eq_iff .closed).1 hstage
  rw [h.answer_of_not_ready (by rw [hstate]; nofun) hguest, Runtime.refusal_of_closed hstate]

theorem Shows.answer_of_uninstantiated (h : c.Shows rt) (hstage : c.stage = .uninstantiated)
    (hguest : request.operation? = some operation) :
    c.answer b r request =
      (c.refuse (.told (.invalidState operation .uninstantiated)), r) := by
  have hstate := (h.stage_eq_iff .uninstantiated).1 hstage
  rw [h.answer_of_not_ready (by rw [hstate]; nofun) hguest,
    Runtime.refusal_of_uninstantiated hstate]

end Refusals

section Runs

variable {w : World σ}

theorem Shows.afterAll_of_closed (h : c.Shows w.runtime) (hstage : c.stage = .closed)
    (requests : List Request) : (c.afterAll b w.registry requests).1.stage = .closed := by
  have hstate := (h.stage_eq_iff .closed).1 hstage
  refine ((h.afterAll b requests).1.stage_eq_iff .closed).2 ?_
  rw [World.afterAll_of_closed hstate, hstate]

/-- Cells that have failed are closed in the end, or still failed for the same reason. -/
theorem Shows.afterAll_of_failed (h : c.Shows w.runtime) (hstage : c.stage = .failed)
    (requests : List Request) :
    let c' := (c.afterAll b w.registry requests).1
    c'.stage = .closed ∨ c'.stage = .failed ∧ c'.failure = c.failure := by
  have hstate := (h.stage_eq_iff .failed).1 hstage
  have hopen : w.runtime.state ≠ .closed := by rw [hstate]; nofun
  have hmore := (h.afterAll b requests).1
  obtain ⟨hclosed, hsame⟩ := World.afterAll_of_failed (b := b) hstate requests
  by_cases hclose : Request.close ∈ requests
  · exact .inl ((hmore.stage_eq_iff .closed).2 (hclosed hclose))
  · rw [hsame hclose] at hmore
    refine .inr ⟨(hmore.stage_eq_iff .failed).2 hstate, ?_⟩
    rw [hmore.failure hopen, h.failure hopen]

end Runs

/-- Cells that were moved by any run of requests are in order and show the runtime that was moved by
the same.  Every further request moves them by the table of stages and is answered as the runtime
answers it; if it makes them fail, it is answered with the reason they keep.  Giving them another
module is refused, and so is a request for the guest out of working order, with the reason kept, as
closed, or as not brought up; a refusal writes nothing.  Closed cells stay closed, and failed ones
keep their reason until they are closed. -/
theorem afterAll_inOrder (b : Backend σ) (r : Registry) (config : Config)
    (requests : List Request) :
    let w := (World.start r config).afterAll b requests
    let c := ((new config).afterAll b r requests).1
    ((new config).afterAll b r requests).2 = w.registry ∧ c.Shows w.runtime ∧ c.InOrder ∧
    (∀ request,
      let out := (c.answer b w.registry request).1
      out.Agrees (w.runtime.answer b w.registry request).1 ∧ out.cells.InOrder ∧
      request.MayLead c.stage out.cells.stage ∧
      (c.stage ≠ .failed → out.cells.stage = .failed →
        ∃ reason, out.cells.failure = some reason ∧ out.result = .error (.told reason.error))) ∧
    (∀ bytecode host, c.stage ≠ .uninstantiated → ∃ state : RuntimeState, state.stage = c.stage ∧
      c.answer b w.registry (.instantiate bytecode host) =
        (c.refuse (.told (.invalidState .instantiate state)), w.registry)) ∧
    (∀ request operation, request.operation? = some operation →
      (c.stage = .failed → ∃ reason, c.failure = some reason ∧
        c.answer b w.registry request =
          (c.refuse (.told (.runtimeFailed reason)), w.registry)) ∧
      (c.stage = .closed →
        c.answer b w.registry request = (c.refuse (.told .closed), w.registry)) ∧
      (c.stage = .uninstantiated →
        c.answer b w.registry request =
          (c.refuse (.told (.invalidState operation .uninstantiated)), w.registry))) ∧
    ∀ more,
      let c' := (c.afterAll b w.registry more).1
      (c.stage = .closed → c'.stage = .closed) ∧
      (c.stage = .failed → c'.stage = .closed ∨ c'.stage = .failed ∧ c'.failure = c.failure) := by
  intro w c
  have hstart := (shows_new config).afterAll (w := .start r config) b requests
  have hshows : c.Shows w.runtime := hstart.1
  refine ⟨hstart.2, hshows, hshows.inOrder, fun request => ?_, fun bytecode host hstage => ?_,
    fun request operation hguest => ⟨fun hstage => hshows.answer_of_failed hstage hguest,
      fun hstage => hshows.answer_of_closed hstage hguest,
      fun hstage => hshows.answer_of_uninstantiated hstage hguest⟩,
    fun more => ⟨fun hstage => hshows.afterAll_of_closed hstage more,
      fun hstage => hshows.afterAll_of_failed hstage more⟩⟩
  · have hagrees := (hshows.answer b w.registry request).1
    refine ⟨hagrees, hagrees.cells.inOrder, ?_, hshows.failure_of_answer b w.registry request⟩
    rw [hshows.stage, hagrees.cells.stage]
    exact Runtime.mayLead_answer b w.registry w.runtime request
  · have hstate : w.runtime.state ≠ .uninstantiated := fun h => hstage ((hshows.stage_eq_iff _).2 h)
    exact ⟨w.runtime.state, hshows.stage.symm, hshows.instantiate_of_state_ne hstate _ _⟩

/-- An export that traps fatally when it is called. -/
def trapScript : Scripted.Script where
  exports := [⟨"boom", [], []⟩]
  arena := .zeroed 64 256 []
  loadFailure := none
  initializer := .ok true
  actions := [("boom", [⟨none, .fail (.trap "gone" true)⟩])]

/-- The export is brought up and called. -/
def trapRequests : List Request :=
  [.instantiate [] .empty, .callMulti "boom" []]

theorem afterAll_inOrder_trap :
    let c := ((new .standard).afterAll (Scripted.backend trapScript) .primitives trapRequests).1
    c.stage = .failed ∧ c.failure = some (.trap "boom" "gone") ∧
      c.answer (Scripted.backend trapScript) .primitives (.callMulti "boom" []) =
        (c.refuse (.told (.runtimeFailed (.trap "boom" "gone"))), .primitives) ∧
      ∀ more, (c.afterAll (Scripted.backend trapScript) .primitives more).1.stage = .closed ∨
        (c.afterAll (Scripted.backend trapScript) .primitives more).1.stage = .failed ∧
          (c.afterAll (Scripted.backend trapScript) .primitives more).1.failure =
            some (.trap "boom" "gone") := by
  intro c
  have hstage : c.stage = .failed := by rfl
  have hfailure : c.failure = some (.trap "boom" "gone") := by rfl
  obtain ⟨-, -, -, -, -, hrefused, hmore⟩ :=
    afterAll_inOrder (Scripted.backend trapScript) .primitives .standard trapRequests
  obtain ⟨reason, hreason, hanswer⟩ := (hrefused (.callMulti "boom" []) .call rfl).1 hstage
  obtain rfl := Option.some.inj (hreason.symm.trans hfailure)
  refine ⟨hstage, hfailure, hanswer, fun more => ?_⟩
  rw [← hfailure]
  exact (hmore more).2 hstage

end Cells

end GuestBridge
