import GuestBridge.Wasm.Instr

/-!
# Traps and operations on words

A guest that cannot go on traps (`Trap`), with a wording for each cause. Here are the operations on
words, some of which trap, and the form that words have in memory.
-/

namespace GuestBridge

namespace Wasm

/-- Why a guest cannot go on, or is not called at all. -/
inductive Trap where
  | unreachable
  | outOfBounds
  | divideByZero
  | overflow
  | stackExhausted
  | outOfFuel
  | argumentCount
  | argumentType
  | resultCount
  /-- An instruction without the operands it works on. -/
  | illTyped
  deriving DecidableEq, Repr

namespace Trap

def message : Trap → String
  | unreachable => "wasm `unreachable` instruction executed"
  | outOfBounds => "out of bounds memory access"
  | divideByZero => "integer divide by zero"
  | overflow => "integer overflow"
  | stackExhausted => "call stack exhausted"
  | outOfFuel => "all fuel consumed by WebAssembly"
  | argumentCount => "encountered an incorrect number of parameters"
  | argumentType => "encountered incorrect function parameter type"
  | resultCount => "encountered an incorrect number of results"
  | illTyped => "operands do not match the instruction"

end Trap

/-! ## Operations -/

/-- The quotient of integers, cut toward zero, if it is in range. -/
def divide (a b : Int32) : Except Trap Int32 :=
  if b = 0 then .error .divideByZero
  else if a = Int32.minValue ∧ b = -1 then .error .overflow
  else .ok (a / b)

/-- The answer of an operation on two words. -/
def BinaryOp.apply : BinaryOp → Word → Word → Except Trap Word
  | addI32, .i32 a, .i32 b => .ok (.i32 (a + b))
  | subI32, .i32 a, .i32 b => .ok (.i32 (a - b))
  | mulI32, .i32 a, .i32 b => .ok (.i32 (a * b))
  | divI32, .i32 a, .i32 b => Word.i32 <$> divide a b
  | mulI64, .i64 a, .i64 b => .ok (.i64 (a * b))
  | mulF32, .f32 a, .f32 b => .ok (.f32 (a.mul b))
  | addF64, .f64 a, .f64 b => .ok (.f64 (a.add b))
  | _, _, _ => .error .illTyped

/-! ## Words in memory -/

/-- The bytes a word of the type takes. -/
def wordSize : WireType → Nat
  | .i32 | .f32 => 4
  | .i64 | .f64 => 8

/-- The bytes of a word. -/
def wordBytes : Word → Bytes
  | .i32 v => Bytes.ofUInt32 v.toUInt32
  | .i64 v => Bytes.ofUInt64 v.toUInt64
  | .f32 v => Bytes.toLittleEndian 4 v.bits.toNat
  | .f64 v => Bytes.toLittleEndian 8 v.bits.toNat

/-- The word of a type that bytes hold. -/
def wordOfBytes (bytes : Bytes) : WireType → Word
  | .i32 => .i32 bytes.toUInt32.toInt32
  | .i64 => .i64 bytes.toUInt64.toInt64
  | .f32 => .f32 ⟨BitVec.ofNat 32 (Bytes.ofLittleEndian bytes)⟩
  | .f64 => .f64 ⟨BitVec.ofNat 64 (Bytes.ofLittleEndian bytes)⟩

end Wasm

end GuestBridge
