import GuestBridge.Sandbox.Arena
import GuestBridge.Sandbox.Backend

/-!
# Scripted sandboxes

A sandbox whose answers are given as data. It never looks at bytecode: it exports what its script
says, each export answers its calls from a list of actions, and its memory is an arena.
-/

namespace GuestBridge

namespace Scripted

/-- How a call ends. -/
inductive Ending where
  | fail (e : SandboxError)
  | echo
  | answer (words : List Word)
  deriving Repr

/-- What a call does: it may write memory, and then it ends. -/
structure Action where
  put : Option (Nat × Bytes)
  ending : Ending
  deriving Repr

/-- The answers of a sandbox. -/
structure Script where
  exports : List ExportInfo
  arena : Arena
  loadFailure : Option SandboxError
  initializer : Except SandboxError Bool
  actions : List (String × List Action)

/-- A sandbox under way: its script, of which the actions and the arena change. -/
abbrev State := Script

/-- The actions after the first one of `name` is done; the last one of a list stays. -/
def dropAction (name : String) : List (String × List Action) → List (String × List Action)
  | [] => []
  | (n, actions) :: rest =>
      if n = name then
        match actions with
        | _ :: next :: more => (n, next :: more) :: rest
        | short => (n, short) :: rest
      else (n, actions) :: dropAction name rest

/-- Does an action on a call with the given words. -/
def perform (action : Action) (words : List Word) (s : State) : Reply State (List Word) :=
  let s := match action.put with
    | some (address, bytes) => { s with arena := s.arena.poke address bytes }
    | none => s
  match action.ending with
  | .fail e => ⟨.error e, s, []⟩
  | .echo => ⟨.ok words, s, []⟩
  | .answer result => ⟨.ok result, s, []⟩

/-- Answers a call from the actions of its name. -/
def invoke (name : String) (words : List Word) (s : State) : Reply State (List Word) :=
  match findEntry name s.actions with
  | some (action :: _) => perform action words { s with actions := dropAction name s.actions }
  | _ => ⟨.error (.missingExport name), s, []⟩

/-- Runs an operation of the arena. -/
def inArena {α : Type} (op : Arena → Except SandboxError α × Arena) (s : State) : Reply State α :=
  let (result, arena) := op s.arena
  ⟨result, { s with arena := arena }, []⟩

/-- The sandbox of a script. -/
def backend (script : Script) : Backend State where
  load _ _ _ := match script.loadFailure with
    | some e => (.error e, [])
    | none => (.ok script, [])
  exports s := s.exports
  runInitializer _ s := ⟨s.initializer, s, []⟩
  invoke := invoke
  alloc bytes := inArena (Arena.alloc bytes)
  read address length := inArena (Arena.read address length)

end Scripted

end GuestBridge
