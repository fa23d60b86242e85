import GuestBridge.Wasm.Module

/-!
# Typing of functions

A module is only brought up if every instruction of it finds the operands it works on. `check`
follows the types of the operands through instructions, from those before to those after. Code that
is never reached, such as after a branch, may take for granted whatever operands it wants
(`Stack.unreached`).
-/

namespace GuestBridge

namespace Wasm

/-- The types of operands, the top in front. Under them there is nothing, or else whatever is
wanted. -/
structure Stack where
  types : List ValType
  endless : Bool
  deriving DecidableEq, Repr

namespace Stack

/-- Operands of unreached code. -/
def unreached : Stack := ⟨[], true⟩

def push (type : ValType) (s : Stack) : Stack :=
  { s with types := type :: s.types }

/-- More operands, the last of them on top. -/
def pushAll (types : List ValType) (s : Stack) : Stack :=
  { s with types := types.reverse ++ s.types }

/-- Takes an operand of any type off the top. -/
def dropTop (s : Stack) : Option Stack :=
  match s.types with
  | _ :: rest => some { s with types := rest }
  | [] => if s.endless then some s else none

/-- Takes an operand of the type off the top. -/
def pop (type : ValType) (s : Stack) : Option Stack :=
  match s.types with
  | found :: rest => if found = type then some { s with types := rest } else none
  | [] => if s.endless then some s else none

/-- Takes operands off the top, the first of the list first. -/
def popEach (types : List ValType) (s : Stack) : Option Stack :=
  types.foldlM (fun s type => s.pop type) s

/-- Takes operands off the top, the last of the list being the top. -/
def popAll (types : List ValType) (s : Stack) : Option Stack :=
  s.popEach types.reverse

/-- The operands are of these types, and there are no others. -/
def isExactly (types : List ValType) (s : Stack) : Bool :=
  (s.popAll types).any fun rest => rest.types.isEmpty

end Stack

/-- What instructions can name. -/
structure Scope where
  types : List FuncType
  functions : List FuncType
  globals : List GlobalType
  hasMemory : Bool
  locals : List ValType

/-- What an operation on two words takes twice and answers. -/
def BinaryOp.type : BinaryOp → WireType
  | addI32 | subI32 | mulI32 | divI32 => .i32
  | mulI64 => .i64
  | mulF32 => .f32
  | addF64 => .f64

/-- The operands after an instruction that takes and leaves operands of these types. -/
def Stack.apply (params results : List ValType) (s : Stack) : Option Stack :=
  (s.popAll params).map (Stack.pushAll results)

/-- The same for an instruction that uses memory. -/
def Stack.access (scope : Scope) (params results : List ValType) (s : Stack) : Option Stack :=
  if scope.hasMemory then s.apply params results else none

mutual

/-- The operands after an instruction. A label has the types that a branch to it takes along. -/
def checkInstr (scope : Scope) (labels : List (List ValType)) : Instr → Stack → Option Stack
  | .unreachable, _ => some .unreached
  | .nop, s => some s
  | .block type body, s => do
      let t ← type.type? scope.types
      let inner ← check scope (t.results :: labels) body ⟨t.params.reverse, false⟩
      if inner.isExactly t.results then s.apply t.params t.results else none
  | .loop type body, s => do
      let t ← type.type? scope.types
      let inner ← check scope (t.params :: labels) body ⟨t.params.reverse, false⟩
      if inner.isExactly t.results then s.apply t.params t.results else none
  | .branch type yes no, s => do
      let s ← s.pop (.word .i32)
      let t ← type.type? scope.types
      let afterYes ← check scope (t.results :: labels) yes ⟨t.params.reverse, false⟩
      let afterNo ← check scope (t.results :: labels) no ⟨t.params.reverse, false⟩
      if afterYes.isExactly t.results ∧ afterNo.isExactly t.results then
        s.apply t.params t.results
      else none
  | .br depth, s => do
      let types ← labels[depth]?
      let _ ← s.popAll types
      return .unreached
  | .brIf depth, s => do
      let s ← s.pop (.word .i32)
      let types ← labels[depth]?
      s.apply types types
  | .call index, s => do
      let t ← scope.functions[index]?
      s.apply t.params t.results
  | .drop, s => s.dropTop
  | .localGet index, s => do
      let type ← scope.locals[index]?
      return s.push type
  | .localSet index, s => do
      let type ← scope.locals[index]?
      s.pop type
  | .globalGet index, s => do
      let g ← scope.globals[index]?
      return s.push g.type
  | .globalSet index, s => do
      let g ← scope.globals[index]?
      if g.assignable then s.pop g.type else none
  | .load type _, s => s.access scope [.word .i32] [.word type]
  | .loadByte _, s => s.access scope [.word .i32] [.word .i32]
  | .store type _, s => s.access scope [.word .i32, .word type] []
  | .storeByte _, s => s.access scope [.word .i32, .word .i32] []
  | .memorySize, s => s.access scope [] [.word .i32]
  | .memoryGrow, s => s.access scope [.word .i32] [.word .i32]
  | .const value, s => some (s.push value.type)
  | .isZero, s => s.apply [.word .i32] [.word .i32]
  | .binary op, s => s.apply [.word op.type, .word op.type] [.word op.type]

/-- The operands after instructions. -/
def check (scope : Scope) (labels : List (List ValType)) : List Instr → Stack → Option Stack
  | [], s => some s
  | instr :: rest, s => (checkInstr scope labels instr s).bind (check scope labels rest)

end

namespace Module

/-- What the instructions of a function can name. -/
def scope (m : Module) (f : GuestFunction) : Scope where
  types := m.types
  functions := m.functionTypes
  globals := m.globalTypes
  hasMemory := 0 < m.count .memory
  locals := f.type.params ++ f.locals

/-- The body of a function leaves its results. -/
def isTyped (m : Module) (f : GuestFunction) : Bool :=
  (check (m.scope f) [f.type.results] f.body ⟨[], false⟩).any (Stack.isExactly f.type.results)

/-- The module of a binary, if it is in order and its functions are typed. -/
def load (binary : Bytes) : Option Module := do
  let m ← read binary
  if m.functions.all m.isTyped then some m else none

end Module

end Wasm

end GuestBridge
