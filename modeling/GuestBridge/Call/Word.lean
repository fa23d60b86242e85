import GuestBridge.Value

/-!
# Words

Guest functions take and return words of four numeric types (`WireType`). A value of a kind crosses
the boundary as the words `Kind.wireTypes` tells: one word for a number, and an address and a length
for a text.
-/

namespace GuestBridge

/-- The type of a word. -/
inductive WireType where
  | i32
  | i64
  | f32
  | f64
  deriving DecidableEq, Repr

namespace WireType

def all : List WireType := [i32, i64, f32, f64]

/-- The name a word type has in messages. -/
def name : WireType → String
  | i32 => "I32"
  | i64 => "I64"
  | f32 => "F32"
  | f64 => "F64"

/-- The name a word type has in documents. -/
def tag : WireType → String
  | i32 => "i32"
  | i64 => "i64"
  | f32 => "f32"
  | f64 => "f64"

def ofTag? (tag : String) : Option WireType :=
  all.find? fun t => t.tag = tag

/-- The kind taken for a word whose meaning is not declared. -/
def defaultKind : WireType → Kind
  | i32 => .i32
  | i64 => .i64
  | f32 => .f32
  | f64 => .f64

end WireType

/-- A word. -/
inductive Word where
  | i32 (v : Int32)
  | i64 (v : Int64)
  | f32 (v : Binary32)
  | f64 (v : Binary64)
  deriving DecidableEq, Repr

namespace Word

def type : Word → WireType
  | i32 _ => .i32
  | i64 _ => .i64
  | f32 _ => .f32
  | f64 _ => .f64

def text : Word → String
  | i32 v => "I32(" ++ toString v.toInt ++ ")"
  | i64 v => "I64(" ++ toString v.toInt ++ ")"
  | f32 v => "F32(" ++ preciseStyle.text v ++ ")"
  | f64 v => "F64(" ++ preciseStyle.text v ++ ")"

end Word

/-- The words a value of the kind crosses the boundary as. -/
def Kind.wireTypes : Kind → List WireType
  | .u32 | .i32 => [.i32]
  | .u64 | .i64 => [.i64]
  | .f32 => [.f32]
  | .f64 => [.f64]
  | .string => [.i32, .i32]

/-- The words that values of the kinds cross the boundary as. -/
def wireTypes (kinds : List Kind) : List WireType :=
  kinds.flatMap Kind.wireTypes

end GuestBridge
