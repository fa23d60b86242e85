import GuestBridge.Json.Basic

/-!
# Reading JSON

`Json.read?` reads a whole document from its bytes. The grammar is strict: no leading zeros, no
control characters in strings, no commas at the end, nothing but blanks after the document. Nesting
is not limited, the size of numbers is not looked at, and a string with bytes that are not UTF-8 or
with half of a surrogate pair is read as `none`: what of that is an error is left to the reader of
the tree.

Each step takes bytes off the front and returns the rest.
-/

namespace GuestBridge

namespace Json

/-! ## Blanks and digits -/

/-- A byte between tokens. -/
def isBlank (b : UInt8) : Bool :=
  b = 0x20 || b = 0x0A || b = 0x0D || b = 0x09

def skipBlanks (bs : Bytes) : Bytes :=
  bs.dropWhile isBlank

def isDigit (b : UInt8) : Bool :=
  0x30 ≤ b && b ≤ 0x39

def digitValue (b : UInt8) : Fin 10 :=
  lastDigit (b.toNat - 0x30)

/-- The number that digits write. -/
def numberOf (digits : List (Fin 10)) : Nat :=
  digits.foldl (fun n d => n * 10 + d.val) 0

/-- The digits at the front. -/
def readDigits (bs : Bytes) : List (Fin 10) × Bytes :=
  ((bs.takeWhile isDigit).map digitValue, bs.dropWhile isDigit)

/-! ## Numbers -/

/-- The whole part: a zero alone, or digits that do not begin with one. -/
def readWhole (bs : Bytes) : Option (Nat × Bytes) :=
  match readDigits bs with
  | ([], _) => none
  | (d :: ds, rest) => if d.val = 0 ∧ ds ≠ [] then none else some (numberOf (d :: ds), rest)

/-- The digits after a point, if there is one. -/
def readFraction : Bytes → Option (List (Fin 10) × Bytes)
  | 0x2E :: bs =>
      match readDigits bs with
      | ([], _) => none
      | (ds, rest) => some (ds, rest)
  | bs => some ([], bs)

/-- The digits of an exponent with the given sign. -/
def readPower (negative : Bool) (bs : Bytes) : Option (Option Int × Bytes) :=
  match readDigits bs with
  | ([], _) => none
  | (ds, rest) => some (some (if negative then -numberOf ds else numberOf ds), rest)

/-- The exponent, if there is one. -/
def readExponent : Bytes → Option (Option Int × Bytes)
  | b :: bs =>
      if b = 0x65 ∨ b = 0x45 then
        match bs with
        | 0x2D :: rest => readPower true rest
        | 0x2B :: rest => readPower false rest
        | rest => readPower false rest
      else some (none, b :: bs)
  | [] => some (none, [])

/-- The numeral without its sign. -/
def readUnsigned (negative : Bool) (bs : Bytes) : Option (Numeral × Bytes) := do
  let (whole, bs) ← readWhole bs
  let (fraction, bs) ← readFraction bs
  let (exponent, bs) ← readExponent bs
  return (⟨negative, whole, fraction, exponent⟩, bs)

/-- A numeral. -/
def readNumeral : Bytes → Option (Numeral × Bytes)
  | 0x2D :: bs => readUnsigned true bs
  | bs => readUnsigned false bs

/-! ## Strings -/

/-- A piece of a string: a byte that stands for itself, or a 16-bit unit given by an escape. -/
inductive StringUnit where
  | byte (b : UInt8)
  | code (n : Nat)
  deriving DecidableEq, Repr

/-- The value of a hexadecimal digit. -/
def hexByteValue? (b : UInt8) : Option Nat :=
  Bytes.hexValue? (Char.ofNat b.toNat)

/-- The number written by four hexadecimal digits. -/
def fourHexDigits? (a b c d : UInt8) : Option Nat := do
  let a ← hexByteValue? a
  let b ← hexByteValue? b
  let c ← hexByteValue? c
  let d ← hexByteValue? d
  return ((a * 16 + b) * 16 + c) * 16 + d

/-- The byte that a letter after a backslash stands for. -/
def escapedByte? (b : UInt8) : Option UInt8 :=
  if b = 0x22 ∨ b = 0x5C ∨ b = 0x2F then some b
  else if b = 0x62 then some 0x08
  else if b = 0x66 then some 0x0C
  else if b = 0x6E then some 0x0A
  else if b = 0x72 then some 0x0D
  else if b = 0x74 then some 0x09
  else none

/-- The pieces up to the closing quote. -/
def readUnits : Bytes → Option (List StringUnit × Bytes)
  | [] => none
  | 0x5C :: 0x75 :: a :: b :: c :: d :: rest => do
      let n ← fourHexDigits? a b c d
      let (units, rest) ← readUnits rest
      return (.code n :: units, rest)
  | 0x5C :: e :: rest => do
      let b ← escapedByte? e
      let (units, rest) ← readUnits rest
      return (.byte b :: units, rest)
  | b :: rest =>
      if b = 0x22 then some ([], rest)
      else if b < 0x20 ∨ b = 0x5C then none
      else do
        let (units, rest) ← readUnits rest
        return (.byte b :: units, rest)

def isHighSurrogate (n : Nat) : Bool :=
  0xD800 ≤ n && n < 0xDC00

def isLowSurrogate (n : Nat) : Bool :=
  0xDC00 ≤ n && n < 0xE000

/-- The bytes of the pieces; units that do not pair up have none. -/
def unitBytes : List StringUnit → Option Bytes
  | [] => some []
  | .byte b :: rest => (unitBytes rest).map (b :: ·)
  | .code n :: .code m :: rest =>
      if isHighSurrogate n then
        if isLowSurrogate m then
          let c := Char.ofNat (0x10000 + (n - 0xD800) * 0x400 + (m - 0xDC00))
          (unitBytes rest).map (String.utf8EncodeChar c ++ ·)
        else none
      else if isLowSurrogate n then none
      else (unitBytes (.code m :: rest)).map (String.utf8EncodeChar (Char.ofNat n) ++ ·)
  | .code n :: rest =>
      if isHighSurrogate n || isLowSurrogate n then none
      else (unitBytes rest).map (String.utf8EncodeChar (Char.ofNat n) ++ ·)

/-- The string after its opening quote. -/
def readString (bs : Bytes) : Option (Option String × Bytes) := do
  let (units, rest) ← readUnits bs
  return ((unitBytes units).bind Text.decode?, rest)

/-! ## Documents -/

/-- The bytes after a given word. -/
def readWord (word bs : Bytes) : Option Bytes :=
  if word.isPrefixOf bs then some (bs.drop word.length) else none

mutual

/-- A value, after any blanks. The first argument bounds the steps. -/
def readValue : Nat → Bytes → Option (Json × Bytes)
  | 0, _ => none
  | steps + 1, bs =>
      match skipBlanks bs with
      | 0x6E :: rest => (readWord [0x75, 0x6C, 0x6C] rest).map fun rest => (null, rest)
      | 0x74 :: rest => (readWord [0x72, 0x75, 0x65] rest).map fun rest => (bool true, rest)
      | 0x66 :: rest => (readWord [0x61, 0x6C, 0x73, 0x65] rest).map fun rest => (bool false, rest)
      | 0x22 :: rest => (readString rest).map fun (s, rest) => (string s, rest)
      | 0x5B :: rest =>
          match skipBlanks rest with
          | 0x5D :: rest => some (array [], rest)
          | rest => (readItems steps rest).map fun (items, rest) => (array items, rest)
      | 0x7B :: rest =>
          match skipBlanks rest with
          | 0x7D :: rest => some (object [], rest)
          | rest => (readMembers steps rest).map fun (members, rest) => (object members, rest)
      | bs => (readNumeral bs).map fun (n, rest) => (number n, rest)

/-- One or more items and the end of the array. -/
def readItems : Nat → Bytes → Option (List Json × Bytes)
  | 0, _ => none
  | steps + 1, bs =>
      match readValue steps bs with
      | none => none
      | some (j, rest) =>
          match skipBlanks rest with
          | 0x5D :: rest => some ([j], rest)
          | 0x2C :: rest => (readItems steps rest).map fun (items, rest) => (j :: items, rest)
          | _ => none

/-- One or more members and the end of the object. -/
def readMembers : Nat → Bytes → Option (List (Option String × Json) × Bytes)
  | 0, _ => none
  | steps + 1, bs =>
      match skipBlanks bs with
      | 0x22 :: rest =>
          match readString rest with
          | none => none
          | some (key, rest) =>
              match skipBlanks rest with
              | 0x3A :: rest =>
                  match readValue steps rest with
                  | none => none
                  | some (j, rest) =>
                      match skipBlanks rest with
                      | 0x7D :: rest => some ([(key, j)], rest)
                      | 0x2C :: rest =>
                          (readMembers steps rest).map fun (members, rest) =>
                            ((key, j) :: members, rest)
                      | _ => none
              | _ => none
      | _ => none

end

/-- The tree of a document, which fills the bytes but for blanks around it. -/
def read? (bs : Bytes) : Option Json :=
  match readValue (2 * bs.length + 2) bs with
  | some (j, rest) => if skipBlanks rest = [] then some j else none
  | none => none

end Json

end GuestBridge
