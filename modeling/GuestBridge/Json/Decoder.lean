import GuestBridge.Json.Reader
import GuestBridge.Number.Reading

/-!
# From trees to data

A `Decoder` reads data from a tree, given how many levels of arrays and objects it may still enter.
What a decoder does not look at costs nothing: a member that no field is named for may nest without
limit and hold strings that stand for no text. `isSound` is the check for a part that is kept before
it is known what it will be read as: then all of it has to be in order.

A structure with named fields is written as an object, or as an array of its fields in order
(`Json.record`, `Record.required`, `Record.defaulted`, `Record.optional`).
-/

namespace GuestBridge

namespace Json

/-- Reads data from a tree, entering at most the given number of levels. -/
abbrev Decoder (α : Type) := Nat → Json → Option α

/-- The levels a document may have. -/
def maxDepth : Nat := 127

/-- Reads data from the bytes of a document. -/
def decode? {α : Type} (d : Decoder α) (bs : Bytes) : Option α :=
  (read? bs).bind (d maxDepth)

/-! ## Parts that are kept -/

mutual

/-- Every string is a text, every number within range, and the nesting within the given depth. -/
def isSound : Nat → Json → Bool
  | _, null => true
  | _, bool _ => true
  | _, number n => n.integer?.isSome || n.toDouble?.isSome
  | _, string s => s.isSome
  | 0, array _ => false
  | depth + 1, array items => areSound depth items
  | 0, object _ => false
  | depth + 1, object members => areSoundMembers depth members

/-- All items are sound. -/
def areSound : Nat → List Json → Bool
  | _, [] => true
  | depth, j :: rest => isSound depth j && areSound depth rest

/-- All members are sound. -/
def areSoundMembers : Nat → List (Option String × Json) → Bool
  | _, [] => true
  | depth, (key, j) :: rest => key.isSome && isSound depth j && areSoundMembers depth rest

end

/-! ## Single values -/

namespace Decode

variable {α β : Type}

def text : Decoder String
  | _, .string s => s
  | _, _ => none

/-- An integer between two bounds. -/
def integer (low high : Int) : Decoder Int
  | _, .number n => n.integer?.bind fun i => if low ≤ i ∧ i ≤ high then some i else none
  | _, _ => none

def uint32 : Decoder UInt32 := fun depth j =>
  (integer 0 0xFFFFFFFF depth j).map fun i => UInt32.ofNat i.toNat

def uint64 : Decoder UInt64 := fun depth j =>
  (integer 0 0xFFFFFFFFFFFFFFFF depth j).map fun i => UInt64.ofNat i.toNat

def int32 : Decoder Int32 := fun depth j =>
  (integer Int32.minValue.toInt Int32.maxValue.toInt depth j).map Int32.ofInt

def int64 : Decoder Int64 := fun depth j =>
  (integer Int64.minValue.toInt Int64.maxValue.toInt depth j).map Int64.ofInt

def single : Decoder Binary32
  | _, .number n => n.toSingle?
  | _, _ => none

def double : Decoder Binary64
  | _, .number n => n.toDouble?
  | _, _ => none

/-- A null, or what `d` reads. -/
def nullable (d : Decoder α) : Decoder (Option α)
  | _, .null => some none
  | depth, j => (d depth j).map some

/-- One of the cases that `ofTag?` knows by name: its name, or an object with the name as its only
key and a null. -/
def tagged (ofTag? : String → Option α) : Decoder α
  | _, .string (some s) => ofTag? s
  | _ + 1, .object [(some key, .null)] => ofTag? key
  | _, _ => none

/-! ## Arrays and maps -/

/-- The items of an array. -/
def list (d : Decoder α) : Decoder (List α)
  | depth + 1, .array items => items.mapM (d depth)
  | _, _ => none

/-- An array of exactly two. -/
def pair (d₁ : Decoder α) (d₂ : Decoder β) : Decoder (α × β)
  | depth + 1, .array [j₁, j₂] => do
      let a ← d₁ depth j₁
      let b ← d₂ depth j₂
      return (a, b)
  | _, _ => none

/-- The members of an object in order, each key a text. -/
def members (d : Decoder α) : Decoder (List (String × α))
  | depth + 1, .object members => members.mapM fun (key, j) => do
      let key ← key
      let a ← d depth j
      return (key, a)
  | _, _ => none

end Decode

/-! ## Structures -/

/-- The fields met in a structure. `positional` tells that it was written as an array. -/
structure Record where
  depth : Nat
  positional : Bool
  found : List (String × Json)

/-- The members that are fields. Every key has to be a text, and no field may be given twice. -/
def fieldMembers (names : List String) :
    List (Option String × Json) → Option (List (String × Json))
  | [] => some []
  | (key, j) :: rest => do
      let key ← key
      let found ← fieldMembers names rest
      if key ∈ names then
        if found.any fun f => f.1 = key then none else return (key, j) :: found
      else return found

/-- The fields of a structure, written as an object or as an array of at most all fields. -/
def record (names : List String) : Decoder Record
  | depth + 1, .object members => (fieldMembers names members).map fun found =>
      ⟨depth, false, found⟩
  | depth + 1, .array items =>
      if items.length ≤ names.length then some ⟨depth, true, names.zip items⟩ else none
  | _, _ => none

namespace Record

variable {α : Type}

/-- The tree of a field. -/
def get? (r : Record) (name : String) : Option Json :=
  (r.found.find? fun f => f.1 = name).map Prod.snd

/-- A field that has to be there. -/
def required (r : Record) (name : String) (d : Decoder α) : Option α :=
  (r.get? name).bind (d r.depth)

/-- A field with a default. -/
def defaulted (r : Record) (name : String) (default : α) (d : Decoder α) : Option α :=
  match r.get? name with
  | none => some default
  | some j => d r.depth j

/-- A field that may be null, or be left out of an object. -/
def optional (r : Record) (name : String) (d : Decoder α) : Option (Option α) :=
  match r.get? name with
  | none => if r.positional then none else some none
  | some j => Decode.nullable d r.depth j

end Record

end Json

end GuestBridge
