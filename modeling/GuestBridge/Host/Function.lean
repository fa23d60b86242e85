import GuestBridge.Call.Signature

/-!
# Host functions

A `HostFunction` is called by a guest under the name it was imported by, with values of its
parameter kinds, and answers one value. Its body may keep things to itself from call to call, so
what it answers depends on the calls there have been (`HostHistory`). `callAfter` checks that the
answer has the declared kind. A failure is either an ordinary one or a fatal one, after which the
program cannot go on.
-/

namespace GuestBridge

/-- A call as the body of a host function sees it: the import name and the arguments. -/
structure HostContext where
  function : String
  args : List Value
  deriving DecidableEq, Repr

/-- The calls of host functions there have been, the latest first. -/
abbrev HostHistory := List HostContext

/-- Why a host function fails, in its own words. -/
inductive HostCallError where
  | failed (message : String)
  | fatal (message : String)
  deriving DecidableEq, Repr

namespace HostCallError

/-- The program cannot go on. -/
def isFatal : HostCallError → Bool
  | failed _ => false
  | fatal _ => true

def message : HostCallError → String
  | failed message => message
  | fatal message => s!"fatal: {message}"

end HostCallError

/-- A function of the host: the kinds it takes and returns, and what it does at a call, given the
calls before. -/
structure HostFunction where
  params : List Kind
  result : Kind
  body : HostHistory → HostContext → Except HostCallError Value

namespace HostFunction

/-- The signature under which a guest calls the function. -/
def signature (f : HostFunction) : Signature :=
  ⟨f.params, [f.result]⟩

/-- The wording of an answer of another kind than the declared one. -/
def wrongResult (function : String) (actual declared : Kind) : String :=
  let actual := actual.name
  let declared := declared.name
  s!"host function `{function}` returned {actual}, declared {declared}"

/-- Runs the body after the calls in `past` and checks the kind of its answer. -/
def callAfter (f : HostFunction) (past : HostHistory) (ctx : HostContext) :
    Except HostCallError Value :=
  match f.body past ctx with
  | .error e => .error e
  | .ok v =>
      if v.kind = f.result then .ok v
      else .error (.failed (wrongResult ctx.function v.kind f.result))

/-- Calls the function before there was any other call. -/
def call (f : HostFunction) (ctx : HostContext) : Except HostCallError Value :=
  f.callAfter [] ctx

def text (f : HostFunction) : String :=
  let params := ", ".intercalate (f.params.map Kind.name)
  let result := f.result.name
  s!"HostFunction \x7b params: [{params}], result: {result}, .. \x7d"

end HostFunction

end GuestBridge
