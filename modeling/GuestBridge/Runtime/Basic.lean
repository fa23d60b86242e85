import GuestBridge.Runtime.Error
import GuestBridge.Sandbox.Backend

/-!
# Programs

A `Runtime` brings up one module in its own sandbox and is then called until it fails or is closed.
Its `Phase` holds what there is at each point: a sandbox only while there is one, and of what was
brought up (`Program`) as much as is left.

Every operation answers with the runtime after it and with what was asked of the sandbox
(`Outcome`).
-/

namespace GuestBridge

/-- A module that was brought up: the functions to call, and what it tells about itself. -/
structure Program where
  exports : SortedMap String Signature
  metadata : Metadata

/-- The program of a runtime that has none. -/
def Program.none : Program :=
  ⟨.empty, .empty⟩

/-- Where a runtime is. Failing while it is brought up leaves no sandbox; failing later keeps it. -/
inductive Phase (σ : Type) where
  | uninstantiated
  | ready (digest : String) (program : Program) (sandbox : σ)
  | unloaded (digest : String) (reason : FailureReason)
  | broken (digest : String) (program : Program) (sandbox : σ) (reason : FailureReason)
  | closed (digest : Option String) (program : Program)

/-- A program under way. -/
structure Runtime (σ : Type) where
  config : Config
  phase : Phase σ

/-- The answer of an operation, the runtime after it, and what was asked of the sandbox. -/
structure Outcome (σ α : Type) where
  result : Except RuntimeError α
  runtime : Runtime σ
  trace : Trace

namespace Runtime

variable {σ α : Type}

/-- A runtime before its module. -/
def new (config : Config) : Runtime σ :=
  ⟨config, .uninstantiated⟩

/-- How far the runtime is. -/
def state (rt : Runtime σ) : RuntimeState :=
  match rt.phase with
  | .uninstantiated => .uninstantiated
  | .ready .. => .ready
  | .unloaded .. | .broken .. => .failed
  | .closed .. => .closed

/-- The program as far as there is one. -/
def program (rt : Runtime σ) : Program :=
  match rt.phase with
  | .uninstantiated | .unloaded .. => .none
  | .ready _ program _ | .broken _ program _ _ | .closed _ program => program

def exports (rt : Runtime σ) : SortedMap String Signature :=
  rt.program.exports

def metadata (rt : Runtime σ) : Metadata :=
  rt.program.metadata

def signature? (rt : Runtime σ) (name : String) : Option Signature :=
  rt.exports.get? name

/-- The digest of the module that was given, whether or not it was brought up. -/
def digest? (rt : Runtime σ) : Option String :=
  match rt.phase with
  | .uninstantiated => none
  | .ready digest .. | .unloaded digest _ | .broken digest .. => some digest
  | .closed digest _ => digest

/-- The sandbox, while there is one. -/
def sandbox? (rt : Runtime σ) : Option σ :=
  match rt.phase with
  | .ready _ _ sandbox | .broken _ _ sandbox _ => some sandbox
  | _ => none

/-- The reason for which the runtime has failed. -/
def failure? (rt : Runtime σ) : Option FailureReason :=
  match rt.phase with
  | .unloaded _ reason | .broken _ _ _ reason => some reason
  | _ => none

/-- An operation that is refused and does nothing. -/
def refuse (rt : Runtime σ) (e : RuntimeError) : Outcome σ α :=
  ⟨.error e, rt, []⟩

/-- Why an operation that needs a program in working order is refused. -/
def refusal (rt : Runtime σ) (operation : Operation) : RuntimeError :=
  match rt.phase with
  | .unloaded _ reason | .broken _ _ _ reason => .runtimeFailed reason
  | .closed .. => .closed
  | _ => .invalidState operation rt.state

/-- Releases the sandbox if there is one. A runtime that is closed stays as it is. -/
def close (rt : Runtime σ) : Runtime σ × Trace :=
  match rt.phase with
  | .closed .. => (rt, [])
  | _ =>
      ({ rt with phase := .closed rt.digest? rt.program },
        if rt.sandbox?.isSome then [⟨.release, []⟩] else [])

def text (rt : Runtime σ) : String :=
  let state := rt.state.name
  let digest := match rt.digest? with
    | some digest =>
        let quoted := Text.quote digest
        s!"Some({quoted})"
    | none => "None"
  let exports := ", ".intercalate (rt.exports.keys.map Text.quote)
  s!"ProgramRuntime \x7b state: {state}, digest: {digest}, exports: [{exports}], .. \x7d"

end Runtime

end GuestBridge
