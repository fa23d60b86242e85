import GuestBridge.Sandbox.Error
import GuestBridge.Wasm.Type

/-!
# Imports and exports

What a module imports and exports, each with its type (`ExternType`).
-/

namespace GuestBridge

namespace Wasm

/-- The sort of what a module imports or exports. -/
inductive Item where
  | function
  | table
  | memory
  | global
  deriving DecidableEq, Repr

/-- The type of a global: that of its value, and whether it can be assigned to. -/
structure GlobalType where
  type : ValType
  assignable : Bool
  deriving DecidableEq, Repr

/-- The type of what is imported or exported. -/
inductive ExternType where
  | function (type : FuncType)
  | table
  | memory
  | global (type : GlobalType)
  deriving DecidableEq, Repr

namespace ExternType

/-- The sort it belongs to. -/
def item : ExternType → Item
  | function _ => .function
  | table => .table
  | memory => .memory
  | global _ => .global

/-- The type of a function. -/
def function? : ExternType → Option FuncType
  | function type => some type
  | _ => none

/-- The type of a global. -/
def global? : ExternType → Option GlobalType
  | global type => some type
  | _ => none

end ExternType

/-- An import: its names and its type. -/
structure Import where
  name : ImportName
  type : ExternType
  deriving DecidableEq, Repr

end Wasm

end GuestBridge
