import GuestBridge.Number.Shortest
import GuestBridge.Text.Quoted

/-!
# Typed values

A `Value` is a number of one of six fixed widths or a text, and `Kind` names the seven sorts.
Nothing is converted between kinds: `payload` gives the content of a value of the asked kind and
otherwise says which kind was met instead (`TypeMismatch`). `same` is the equality of the content,
numeric for floating-point numbers.
-/

namespace GuestBridge

/-- The sort of a value. -/
inductive Kind where
  | u32
  | u64
  | i32
  | i64
  | f32
  | f64
  | string
  deriving DecidableEq, Repr

namespace Kind

def all : List Kind := [u32, u64, i32, i64, f32, f64, string]

/-- The name a kind has in messages. -/
def name : Kind → String
  | u32 => "U32"
  | u64 => "U64"
  | i32 => "I32"
  | i64 => "I64"
  | f32 => "F32"
  | f64 => "F64"
  | string => "String"

/-- The name a kind has in documents. -/
def tag : Kind → String
  | u32 => "u32"
  | u64 => "u64"
  | i32 => "i32"
  | i64 => "i64"
  | f32 => "f32"
  | f64 => "f64"
  | string => "string"

def ofTag? (tag : String) : Option Kind :=
  all.find? fun k => k.tag = tag

/-- What a value of the kind holds. -/
@[reducible] def Payload : Kind → Type
  | u32 => UInt32
  | u64 => UInt64
  | i32 => Int32
  | i64 => Int64
  | f32 => Binary32
  | f64 => Binary64
  | string => String

end Kind

/-- A value of one kind was met where another was asked for. -/
structure TypeMismatch where
  expected : Kind
  actual : Kind
  deriving DecidableEq, Repr

def TypeMismatch.message (e : TypeMismatch) : String :=
  "type mismatch: expected " ++ e.expected.name ++ ", got " ++ e.actual.name

/-- A value of one of the seven kinds. -/
inductive Value where
  | u32 (v : UInt32)
  | u64 (v : UInt64)
  | i32 (v : Int32)
  | i64 (v : Int64)
  | f32 (v : Binary32)
  | f64 (v : Binary64)
  | string (v : String)
  deriving DecidableEq, Repr

namespace Value

def kind : Value → Kind
  | u32 _ => .u32
  | u64 _ => .u64
  | i32 _ => .i32
  | i64 _ => .i64
  | f32 _ => .f32
  | f64 _ => .f64
  | string _ => .string

/-- The value of a kind with the given content. -/
def ofPayload : (k : Kind) → k.Payload → Value
  | .u32, v => u32 v
  | .u64, v => u64 v
  | .i32, v => i32 v
  | .i64, v => i64 v
  | .f32, v => f32 v
  | .f64, v => f64 v
  | .string, v => string v

/-- The content of a value of the asked kind. No kind is widened to another. -/
def payload : (k : Kind) → Value → Except TypeMismatch k.Payload
  | .u32, u32 v => .ok v
  | .u64, u64 v => .ok v
  | .i32, i32 v => .ok v
  | .i64, i64 v => .ok v
  | .f32, f32 v => .ok v
  | .f64, f64 v => .ok v
  | .string, string v => .ok v
  | k, v => .error ⟨k, v.kind⟩

/-- The values agree: same kind and equal content, floating-point numbers compared as numbers. -/
def same : Value → Value → Bool
  | f32 a, f32 b => a.same b
  | f64 a, f64 b => a.same b
  | a, b => a == b

/-- A value as it is shown: the number with its kind, or the text in quotes. -/
def text : Value → String
  | u32 v => toString v.toNat ++ "u32"
  | u64 v => toString v.toNat ++ "u64"
  | i32 v => toString v.toInt ++ "i32"
  | i64 v => toString v.toInt ++ "i64"
  | f32 v => plainStyle.text v ++ "f32"
  | f64 v => plainStyle.text v ++ "f64"
  | string v => Text.quote v

end Value

end GuestBridge
