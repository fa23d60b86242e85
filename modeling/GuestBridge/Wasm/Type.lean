import GuestBridge.Call.Signature

/-!
# Types and operands

A function of a module takes and returns words and references (`FuncType`). A reference is never
anything but null here, since no instruction makes another one, and none of them crosses the
boundary.
-/

namespace GuestBridge

namespace Wasm

/-- What a reference refers to. -/
inductive RefType where
  | function
  | external
  deriving DecidableEq, Repr

/-- The type of an operand. -/
inductive ValType where
  | word (type : WireType)
  | ref (type : RefType)
  deriving DecidableEq, Repr

/-- The name a type has in messages. -/
def ValType.name : ValType → String
  | word type => type.tag
  | ref .function => "funcref"
  | ref .external => "externref"

/-- The word type, if it is one. -/
def ValType.wire? : ValType → Option WireType
  | word type => some type
  | ref _ => none

/-- What a function takes and returns. -/
structure FuncType where
  params : List ValType
  results : List ValType
  deriving DecidableEq, Repr

namespace FuncType

/-- The type of a function that is called with the words of a signature. -/
def ofSignature (s : Signature) : FuncType :=
  ⟨s.wireParams.map .word, s.wireResults.map .word⟩

def listText (types : List ValType) : String :=
  "(" ++ ", ".intercalate (types.map ValType.name) ++ ")"

def text (t : FuncType) : String :=
  listText t.params ++ " -> " ++ listText t.results

/-- The word types, if the function takes and returns nothing else. -/
def wires? (t : FuncType) : Option (List WireType × List WireType) := do
  let params ← t.params.mapM ValType.wire?
  let results ← t.results.mapM ValType.wire?
  return (params, results)

end FuncType

/-- What instructions work on. -/
inductive Operand where
  | word (w : Word)
  | null (type : RefType)
  deriving DecidableEq, Repr

namespace Operand

def type : Operand → ValType
  | word w => .word w.type
  | null type => .ref type

/-- The word, if it is one. -/
def word? : Operand → Option Word
  | word w => some w
  | null _ => none

def ofBool (b : Bool) : Operand :=
  word (.i32 (if b then 1 else 0))

/-- What a local variable of the type holds before anything is assigned to it. -/
def initial : ValType → Operand
  | .word .i32 => word (.i32 0)
  | .word .i64 => word (.i64 0)
  | .word .f32 => word (.f32 (Binary.zero _))
  | .word .f64 => word (.f64 (Binary.zero _))
  | .ref type => null type

end Operand

end Wasm

end GuestBridge
