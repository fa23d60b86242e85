import GuestBridge.Text.Utf8

/-!
# The binary format

The parts of the module format from which all else is made: numbers in base 128 (`readUnsigned`,
`readSigned`), counted sequences and names, and the sections that a module is a row of
(`readSection`). A `Reader` takes bytes off the front and has nothing to answer if they do not start
what it reads.
-/

namespace GuestBridge

namespace Wasm

/-- Takes what it reads off the front of the bytes. -/
abbrev Reader := StateT Bytes Option

def readByte : Reader UInt8 := fun
  | [] => none
  | b :: bs => some (b, bs)

def readBytes (count : Nat) : Reader Bytes := fun bs =>
  if bs.length < count then none else some (bs.take count, bs.drop count)

/-- A given row of bytes. -/
def expectBytes (wanted : Bytes) : Reader Unit := fun bs =>
  if wanted.isPrefixOf bs then some ((), bs.drop wanted.length) else none

/-- What the reader reads, if nothing is left over. -/
def readAll {α : Type} (r : Reader α) (bs : Bytes) : Option α :=
  match r.run bs with
  | some (a, []) => some a
  | _ => none

/-! ## Numbers -/

/-- A number below two to the power of `bits`, seven bits a byte, lowest first, every byte but the
last with its high bit set. Zeros at the high end are allowed as long as no byte is without room. -/
def readUnsigned (bits : Nat) : Reader Nat := fun
  | [] => none
  | b :: bs =>
      if b < 0x80 then
        if b.toNat < Nat.pow 2 bits then some (b.toNat, bs) else none
      else if bits ≤ 7 then none
      else (readUnsigned (bits - 7) bs).map fun (n, rest) => (b.toNat - 128 + 128 * n, rest)
termination_by structural bs => bs

/-- An integer of the given number of bits, its sign in the last byte. -/
def readSigned (bits : Nat) : Reader Int := fun
  | [] => none
  | b :: bs =>
      if b < 0x80 then
        let n : Int := if b < 0x40 then b.toNat else b.toNat - 128
        let bound : Int := Nat.pow 2 (bits - 1)
        if bits < 7 ∧ (n < -bound ∨ bound ≤ n) then none else some (n, bs)
      else if bits ≤ 7 then none
      else (readSigned (bits - 7) bs).map fun (n, rest) => (b.toNat - 128 + 128 * n, rest)
termination_by structural bs => bs

def readU32 : Reader Nat := readUnsigned 32

/-! ## Sequences and names -/

def readMany {α : Type} (item : Reader α) : Nat → Reader (List α)
  | 0 => return []
  | count + 1 => do
      let a ← item
      let rest ← readMany item count
      return a :: rest

/-- A count and as many items. -/
def readVector {α : Type} (item : Reader α) : Reader (List α) := do
  let count ← readU32
  readMany item count

/-- The most bytes a name may have. -/
def maxNameLength : Nat := 100000

/-- A name: its length and its bytes, which have to be text. -/
def readName : Reader String := do
  let length ← readU32
  if maxNameLength < length then failure
  let bytes ← readBytes length
  match Text.decode? bytes with
  | some name => return name
  | none => failure

/-! ## Sections -/

/-- The first eight bytes of a module: the mark and the version. -/
def moduleHeader : Bytes := [0x00, 0x61, 0x73, 0x6D, 0x01, 0x00, 0x00, 0x00]

/-- A section of a module. -/
structure Section where
  id : UInt8
  content : Bytes
  deriving DecidableEq, Repr

/-- The sections of a custom name have this number. -/
def customId : UInt8 := 0

/-- A section: its number, which is below 128, its size and as many bytes. -/
def readSection : Reader Section := fun
  | [] => none
  | id :: bs =>
      if 0x80 ≤ id then none
      else (readU32 bs).bind fun (size, bs) =>
        (readBytes size bs).map fun (content, rest) => (⟨id, content⟩, rest)

/-- A custom section is a name and what follows it. -/
def readCustom : Reader (String × Bytes) := do
  let name ← readName
  let payload ← get
  set ([] : Bytes)
  return (name, payload)

theorem length_readUnsigned_lt {bits n : Nat} {bs rest : Bytes}
    (h : readUnsigned bits bs = some (n, rest)) : rest.length < bs.length := by
  induction bs generalizing bits n with
  | nil => simp [readUnsigned] at h
  | cons b bs ih =>
      unfold readUnsigned at h
      split at h
      · split at h
        · simp only [Option.some.injEq, Prod.mk.injEq] at h
          simp [← h.2]
        · cases h
      · split at h
        · cases h
        · simp only [Option.map_eq_some_iff, Prod.exists, Prod.mk.injEq] at h
          obtain ⟨m, r, hr, _, rfl⟩ := h
          exact Nat.lt_succ_of_lt (ih hr)

theorem length_readBytes_le {count : Nat} {bs part rest : Bytes}
    (h : readBytes count bs = some (part, rest)) : rest.length ≤ bs.length := by
  unfold readBytes at h
  split at h
  · cases h
  · simp only [Option.some.injEq, Prod.mk.injEq] at h
    simp [← h.2]

theorem length_readSection_lt {s : Section} {bs rest : Bytes}
    (h : readSection bs = some (s, rest)) : rest.length < bs.length := by
  cases bs with
  | nil => simp [readSection] at h
  | cons id bs =>
      simp only [readSection] at h
      split at h
      · cases h
      · simp only [Option.bind_eq_some_iff, Option.map_eq_some_iff, Prod.exists,
          Prod.mk.injEq] at h
        obtain ⟨size, r₁, h₁, content, r₂, h₂, _, rfl⟩ := h
        have := length_readUnsigned_lt h₁
        have := length_readBytes_le h₂
        simp only [List.length_cons]
        omega

end Wasm

end GuestBridge
