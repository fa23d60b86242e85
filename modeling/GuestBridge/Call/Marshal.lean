import GuestBridge.Sandbox.Memory
import GuestBridge.Call.Signature
import GuestBridge.Text.Utf8

/-!
# Values across the boundary

`lowerValues` turns values into words and copies texts into guest memory, and `liftValues` reads
words as values of given kinds and copies texts out. Numbers keep their bits, and an unsigned one
travels in the signed word of its width. An empty text is an address and a length of zero and never
touches guest memory.
-/

namespace GuestBridge

variable {μ : Type}

/-- A computation on guest memory. -/
abbrev GuestM (μ : Type) := Fallible μ SandboxError

def sliceWords (address length : UInt32) : List Word :=
  [.i32 address.toInt32, .i32 length.toInt32]

/-- The words of a value. -/
def lowerValue (mem : GuestMemory μ) : Value → GuestM μ (List Word)
  | .u32 v => return [.i32 v.toInt32]
  | .i32 v => return [.i32 v]
  | .u64 v => return [.i64 v.toInt64]
  | .i64 v => return [.i64 v]
  | .f32 v => return [.f32 v]
  | .f64 v => return [.f64 v]
  | .string text => do
      let part := Text.encode text
      if UInt32.size ≤ part.length then throw (.memory (.tooLong part.length))
      if part.isEmpty then return sliceWords 0 0
      let address ← mem.alloc part
      return sliceWords address (UInt32.ofNat part.length)

/-- The words of values, in order. -/
def lowerValues (mem : GuestMemory μ) : List Value → GuestM μ (List Word)
  | [] => return []
  | v :: rest => do
      let words ← lowerValue mem v
      let more ← lowerValues mem rest
      return words ++ more

/-- The text at an address. -/
def readText (mem : GuestMemory μ) (address length : UInt32) : GuestM μ String := do
  if length = 0 then return ""
  let part ← mem.read address length
  return Text.decodeLossy part

/-- Reads one value of the kind off the words. -/
def liftValue (mem : GuestMemory μ) : Kind → List Word → GuestM μ (Value × List Word)
  | .u32, .i32 v :: rest => return (.u32 v.toUInt32, rest)
  | .i32, .i32 v :: rest => return (.i32 v, rest)
  | .u64, .i64 v :: rest => return (.u64 v.toUInt64, rest)
  | .i64, .i64 v :: rest => return (.i64 v, rest)
  | .f32, .f32 v :: rest => return (.f32 v, rest)
  | .f64, .f64 v :: rest => return (.f64 v, rest)
  | .string, .i32 address :: .i32 length :: rest => do
      let text ← readText mem address.toUInt32 length.toUInt32
      return (.string text, rest)
  | .string, .i32 _ :: _ => throw (.abi .lengthWord)
  | kind, word :: _ => throw (.abi (.word kind word))
  | kind, [] => throw (.abi (.wordCount (wireTypes [kind]).length 0))

/-- Reads values of the kinds off the words, in order. -/
def liftEach (mem : GuestMemory μ) : List Kind → List Word → GuestM μ (List Value)
  | [], _ => return []
  | kind :: kinds, words => do
      let (v, rest) ← liftValue mem kind words
      let values ← liftEach mem kinds rest
      return v :: values

/-- Reads words as values of the kinds. There have to be as many words as the kinds take. -/
def liftValues (mem : GuestMemory μ) (kinds : List Kind) (words : List Word) :
    GuestM μ (List Value) := do
  let expected := (wireTypes kinds).length
  if words.length ≠ expected then throw (.abi (.wordCount expected words.length))
  liftEach mem kinds words

end GuestBridge
