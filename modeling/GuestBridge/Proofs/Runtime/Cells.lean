import GuestBridge.Proofs.Runtime.Requests

/-!
# A runtime in cells

The phase of a runtime holds just what there is at each point.  Here a runtime is kept in cells that
nothing ties together: a stage, a sandbox or none, a digest or none, a reason of failure or none.
Every operation writes the cells one after the other and reads them back as it goes, so it has to
say what it answers where they do not fit: in a stage that is only passed on the way (`underWay`),
in working order without a sandbox (`noSandbox`), or failed without a reason (`unknownFailure`).

`Cells.Shows` says that the cells hold what a runtime tells of itself.  Every request keeps it and
is answered alike (`Shows.answer`), and so is every run (`Shows.afterAll`).
-/

namespace GuestBridge

variable {σ : Type} {b : Backend σ} {r : Registry}

/-! ## Cells -/

/-- The point at which a runtime is, also while it works. -/
inductive Stage where
  | uninstantiated
  | instantiating
  | ready
  | callInFlight
  | failed
  | closed
  deriving DecidableEq, Repr

/-- The stage of a runtime that is at rest. -/
def RuntimeState.stage : RuntimeState → Stage
  | uninstantiated => .uninstantiated
  | ready => .ready
  | failed => .failed
  | closed => .closed

/-- The state of a runtime at a stage, unless it is at work. -/
def Stage.state? : Stage → Option RuntimeState
  | uninstantiated => some .uninstantiated
  | ready => some .ready
  | failed => some .failed
  | closed => some .closed
  | instantiating | callInFlight => none

/-- A runtime kept in cells. -/
structure Cells (σ : Type) where
  config : Config
  stage : Stage
  sandbox : Option σ
  exports : SortedMap String Signature
  metadata : Metadata
  digest : Option String
  failure : Option FailureReason

/-- What an operation on cells fails with: an error of a runtime, or that the cells do not fit. -/
inductive CellError where
  | told (e : RuntimeError)
  | underWay (operation : Operation)
  | noSandbox
  | unknownFailure
  deriving DecidableEq, Repr

/-- The answer of an operation, the cells after it, and what was asked of the sandbox. -/
structure CellOutcome (σ : Type) where
  result : Except CellError Answer
  cells : Cells σ
  trace : Trace

namespace Cells

/-- The cells before a module. -/
def new (config : Config) : Cells σ :=
  ⟨config, .uninstantiated, none, .empty, .empty, none, none⟩

/-- An operation that is refused and writes nothing. -/
def refuse (c : Cells σ) (e : CellError) : CellOutcome σ :=
  ⟨.error e, c, []⟩

/-- That an operation is not for the stage of the cells. -/
def invalidState (c : Cells σ) (operation : Operation) : CellError :=
  match c.stage.state? with
  | some state => .told (.invalidState operation state)
  | none => .underWay operation

/-- Whether the cells are in working order. -/
def ensureReady (c : Cells σ) (operation : Operation) : Except CellError Unit :=
  match c.stage with
  | .ready => .ok ()
  | .failed =>
      match c.failure with
      | some reason => .error (.told (.runtimeFailed reason))
      | none => .error .unknownFailure
  | .closed => .error (.told .closed)
  | _ => .error (c.invalidState operation)

/-- Brings up a module. -/
def instantiate (b : Backend σ) (r : Registry) (c : Cells σ) (bytecode : Bytes)
    (host : HostBindings) : CellOutcome σ × Registry :=
  if c.stage = .uninstantiated then
    let c := { c with stage := .instantiating }
    let digest := digestText bytecode
    let up := bringUp b c.config r bytecode host
    match up.result with
    | .ok (program, sandbox, r') =>
        let c := { c with
          sandbox := some sandbox, exports := program.exports, metadata := program.metadata }
        let c := { c with digest := some digest, stage := .ready }
        (⟨.ok .done, c, up.trace⟩, r')
    | .error e =>
        let c := { c with digest := some digest }
        let c := { c with failure := some (.instantiation e), stage := .failed }
        (⟨.error (.told (.instantiation e)), c, up.trace⟩, r)
  else (c.refuse (c.invalidState .instantiate), r)

/-- Writes down what a fault does to the cells, and tells how it is reported. -/
def classify (c : Cells σ) (subject : String) (fault : CallFault) : RuntimeError × Cells σ :=
  match fault with
  | .layout e => (.layout e, c)
  | .sandbox (.trap message true) =>
      (.trap subject message,
        { c with stage := .failed, failure := some (.trap subject message) })
  | .sandbox (.trap message false) => (.trap subject message, c)
  | .sandbox e => (.marshal subject e, c)

/-- Runs a computation in the sandbox of the cells. -/
def withGuest (c : Cells σ) (operation : Operation) (subject : String) (op : ProgramM σ Answer) :
    CellOutcome σ :=
  match c.ensureReady operation with
  | .error e => c.refuse e
  | .ok () =>
      match c.sandbox with
      | none => c.refuse .noSandbox
      | some sandbox =>
          let c := { c with stage := .callInFlight }
          let (outcome, t) := op.from ⟨sandbox, []⟩
          let c := { c with sandbox := some t.sandbox, stage := .ready }
          match outcome with
          | .ok answer => ⟨.ok answer, c, t.trace⟩
          | .error fault =>
              let (e, c) := c.classify subject fault
              ⟨.error (.told e), c, t.trace⟩

/-- Prepares a request for the guest and runs what it comes to. -/
def serve (b : Backend σ) (r : Registry) (c : Cells σ) (operation : Operation)
    (request : Request) : CellOutcome σ :=
  match c.ensureReady operation with
  | .error e => c.refuse e
  | .ok () =>
      match Runtime.work b r ⟨c.exports, c.metadata⟩ request with
      | .error e => c.refuse (.told e)
      | .ok op => c.withGuest operation request.subject op

/-- Releases the sandbox if there is one. -/
def close (c : Cells σ) : CellOutcome σ :=
  if c.stage = .closed then ⟨.ok .done, c, []⟩
  else
    match c.sandbox with
    | some _ => ⟨.ok .done, { c with sandbox := none, stage := .closed }, [⟨.release, []⟩]⟩
    | none => ⟨.ok .done, { c with stage := .closed }, []⟩

/-- The answer to a request, and the registry after it. -/
def answer (b : Backend σ) (r : Registry) (c : Cells σ) (request : Request) :
    CellOutcome σ × Registry :=
  match request with
  | .registry request => (⟨.ok .done, c, []⟩, r.after request)
  | .instantiate bytecode host => c.instantiate b r bytecode host
  | .close => (c.close, r)
  | .call .. | .callMulti .. => (c.serve b r .call request, r)
  | .writeStruct _ => (c.serve b r .writeStruct request, r)
  | .readStruct .. => (c.serve b r .readStruct request, r)

/-- The cells after a run of requests, and the registry after it. -/
def afterAll (b : Backend σ) (c : Cells σ) (r : Registry) : List Request → Cells σ × Registry
  | [] => (c, r)
  | request :: rest =>
      let (out, r') := c.answer b r request
      out.cells.afterAll b r' rest

/-! ## Cells and runtimes -/

/-- The cells hold what the runtime tells of itself.  Of a closed runtime the reason for which it
may have failed before is not told. -/
structure Shows (c : Cells σ) (rt : Runtime σ) : Prop where
  config : c.config = rt.config
  stage : c.stage = rt.state.stage
  sandbox : c.sandbox = rt.sandbox?
  exports : c.exports = rt.exports
  metadata : c.metadata = rt.metadata
  digest : c.digest = rt.digest?
  failure : rt.state ≠ .closed → c.failure = rt.failure?

end Cells

/-- The operations answer alike, ask the same of the sandbox, and leave cells that show the
runtime. -/
structure CellOutcome.Agrees (o : CellOutcome σ) (out : Outcome σ Answer) : Prop where
  result : o.result = out.result.mapError .told
  cells : o.cells.Shows out.runtime
  trace : o.trace = out.trace

namespace Cells

variable {c : Cells σ} {rt : Runtime σ}

theorem shows_new (config : Config) : (new config : Cells σ).Shows (.new config) :=
  ⟨rfl, rfl, rfl, rfl, rfl, rfl, fun _ => rfl⟩

theorem Shows.refuse (h : c.Shows rt) (e : RuntimeError) :
    (c.refuse (.told e)).Agrees (rt.refuse e) :=
  ⟨rfl, h, rfl⟩

theorem Shows.ensureReady_of_ready (h : c.Shows rt) (hstate : rt.state = .ready)
    (operation : Operation) : c.ensureReady operation = .ok () := by
  unfold Cells.ensureReady
  rw [h.stage, hstate]
  rfl

/-- Cells that show a runtime out of working order refuse with its words. -/
theorem Shows.ensureReady_of_not_ready (h : c.Shows rt) (hstate : rt.state ≠ .ready)
    (operation : Operation) : c.ensureReady operation = .error (.told (rt.refusal operation)) := by
  obtain ⟨config, phase⟩ := rt
  have hstage := h.stage
  have hfailure := h.failure
  unfold Cells.ensureReady
  cases phase with
  | ready digest program sandbox => exact (hstate rfl).elim
  | unloaded digest reason | broken digest program sandbox reason =>
      rw [hstage, hfailure nofun]
      rfl
  | uninstantiated =>
      rw [hstage]
      simp only [Cells.invalidState, hstage]
      rfl
  | closed digest program =>
      rw [hstage]
      rfl

theorem Shows.instantiate (h : c.Shows rt) (b : Backend σ) (r : Registry) (bytecode : Bytes)
    (host : HostBindings) :
    (c.instantiate b r bytecode host).1.Agrees (rt.answer b r (.instantiate bytecode host)).1 ∧
      (c.instantiate b r bytecode host).2 = (rt.answer b r (.instantiate bytecode host)).2 := by
  obtain ⟨config, phase⟩ := rt
  have hconfig : c.config = config := h.config
  have hstage := h.stage
  rw [Runtime.answer, Cells.instantiate]
  cases phase with
  | uninstantiated =>
      rw [if_pos (show c.stage = .uninstantiated from hstage)]
      unfold Runtime.instantiate
      dsimp only
      rw [hconfig]
      rcases (bringUp b config r bytecode host).result with e | ⟨program, sandbox, r'⟩
      · exact ⟨⟨rfl, ⟨rfl, rfl, h.sandbox, h.exports, h.metadata, rfl, fun _ => rfl⟩, rfl⟩, rfl⟩
      · have hfailure := h.failure (by rintro ⟨⟩)
        exact ⟨⟨rfl, ⟨rfl, rfl, rfl, rfl, rfl, rfl, fun _ => hfailure⟩, rfl⟩, rfl⟩
  | _ =>
      have hother : c.stage ≠ .uninstantiated := by
        rw [hstage]
        rintro ⟨⟩
      rw [if_neg hother]
      refine ⟨⟨?_, h, rfl⟩, rfl⟩
      simp only [Cells.refuse, Cells.invalidState, hstage]
      rfl

/-- Work in a guest leaves the cells that show the runtime after it. -/
theorem Shows.withGuest (h : c.Shows rt) {digest : String} {program : Program} {sandbox : σ}
    (hphase : rt.phase = .ready digest program sandbox) (operation : Operation) (subject : String)
    (op : ProgramM σ Answer) :
    (c.withGuest operation subject op).Agrees
      (Runtime.inGuest rt.config digest program sandbox subject op) := by
  obtain ⟨config, phase⟩ := rt
  obtain rfl : phase = .ready digest program sandbox := hphase
  have hsandbox : c.sandbox = some sandbox := h.sandbox
  rw [Cells.withGuest, h.ensureReady_of_ready rfl]
  dsimp only
  rw [hsandbox]
  dsimp only
  rcases hfrom : op.from ⟨sandbox, []⟩ with ⟨x, t⟩
  rw [Runtime.inGuest_eq_of_from hfrom]
  have hready : ({ c with sandbox := some t.sandbox, stage := .ready } : Cells σ).Shows
      ⟨config, .ready digest program t.sandbox⟩ :=
    ⟨h.config, rfl, rfl, h.exports, h.metadata, h.digest, fun _ => h.failure nofun⟩
  rcases x with (e | e) | answer
  · cases e with
    | trap message fatal =>
        cases fatal with
        | true =>
            exact ⟨rfl, ⟨h.config, rfl, rfl, h.exports, h.metadata, h.digest, fun _ => rfl⟩, rfl⟩
        | false => exact ⟨rfl, hready, rfl⟩
    | _ => exact ⟨rfl, hready, rfl⟩
  · exact ⟨rfl, hready, rfl⟩
  · exact ⟨rfl, hready, rfl⟩

theorem Shows.serve (h : c.Shows rt) (b : Backend σ) (r : Registry) {operation : Operation}
    {request : Request} (hguest : request.operation? = some operation) :
    (c.serve b r operation request).Agrees (rt.answer b r request).1 := by
  rw [Cells.serve]
  by_cases hstate : rt.state = .ready
  · rw [h.ensureReady_of_ready hstate]
    obtain ⟨config, phase⟩ := rt
    cases phase with
    | ready digest program sandbox =>
        have hprogram : (⟨c.exports, c.metadata⟩ : Program) = program := by
          rw [h.exports, h.metadata]
          rfl
        rw [Runtime.answer_of_ready rfl hguest, hprogram]
        dsimp only
        cases Runtime.work b r program request with
        | error e => exact h.refuse e
        | ok op => exact h.withGuest rfl operation request.subject op
    | _ => cases hstate
  · rw [h.ensureReady_of_not_ready hstate, Runtime.answer_of_not_ready hstate hguest]
    exact h.refuse _

theorem Shows.close (h : c.Shows rt) :
    c.close.Agrees ⟨.ok .done, rt.close.1, rt.close.2⟩ := by
  obtain ⟨config, phase⟩ := rt
  have hstage := h.stage
  have hsandbox := h.sandbox
  unfold Cells.close
  cases phase with
  | closed digest program =>
      rw [if_pos (show c.stage = .closed from hstage)]
      exact ⟨rfl, h, rfl⟩
  | _ =>
      rw [if_neg (by rw [hstage]; nofun), hsandbox]
      exact ⟨rfl, ⟨h.config, rfl, rfl, h.exports, h.metadata, h.digest,
        fun hopen => (hopen rfl).elim⟩, rfl⟩

/-- Every request is answered alike by a runtime and by cells that show it. -/
theorem Shows.answer (h : c.Shows rt) (b : Backend σ) (r : Registry) (request : Request) :
    (c.answer b r request).1.Agrees (rt.answer b r request).1 ∧
      (c.answer b r request).2 = (rt.answer b r request).2 := by
  cases request with
  | registry request => exact ⟨⟨rfl, h, rfl⟩, rfl⟩
  | instantiate bytecode host => exact h.instantiate b r bytecode host
  | close => exact ⟨h.close, rfl⟩
  | _ => exact ⟨h.serve b r rfl, rfl⟩

/-- After every run the cells show the runtime, and the registries are the same. -/
theorem Shows.afterAll {w : World σ} (h : c.Shows w.runtime) (b : Backend σ)
    (requests : List Request) :
    (c.afterAll b w.registry requests).1.Shows (w.afterAll b requests).runtime ∧
      (c.afterAll b w.registry requests).2 = (w.afterAll b requests).registry := by
  induction requests generalizing c w with
  | nil => exact ⟨h, rfl⟩
  | cons request rest ih =>
      obtain ⟨hagrees, hregistry⟩ := h.answer b w.registry request
      have hstep := ih (c := (c.answer b w.registry request).1.cells) (w := w.after b request) (by
        rw [World.after_eq]
        exact hagrees.cells)
      rw [World.after_eq] at hstep
      dsimp only at hstep
      rw [← hregistry] at hstep
      simpa only [Cells.afterAll, World.afterAll, List.foldl_cons, World.after_eq,
        hregistry] using hstep

end Cells

end GuestBridge
