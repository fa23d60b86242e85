/-!
# Bytes

Byte strings are lists of bytes (`Bytes`). Numbers are laid out in them with the least significant
byte first (`toLittleEndian`, `ofLittleEndian`), and `toHex` and `ofHex?` are their text form. The
laws `ofLittleEndian_toLittleEndian` and `toLittleEndian_ofLittleEndian` make the two directions
inverse to each other at a fixed width.
-/

namespace GuestBridge

/-- A string of bytes. -/
abbrev Bytes := List UInt8

namespace Bytes

/-! ## Numbers, least significant byte first -/

/-- The number whose base-256 digits are the bytes, least significant first. -/
def ofLittleEndian : Bytes → Nat
  | [] => 0
  | b :: bs => b.toNat + 256 * ofLittleEndian bs

/-- The lowest `width` base-256 digits of a number, least significant first. -/
def toLittleEndian : Nat → Nat → Bytes
  | 0, _ => []
  | width + 1, n => UInt8.ofNat n :: toLittleEndian width (n / 256)

@[simp]
theorem length_toLittleEndian (width n : Nat) : (toLittleEndian width n).length = width := by
  induction width generalizing n with
  | zero => rfl
  | succ width ih => simp [toLittleEndian, ih]

/-- Reading back what was written gives the number modulo the width. -/
theorem ofLittleEndian_toLittleEndian (width n : Nat) :
    ofLittleEndian (toLittleEndian width n) = n % Nat.pow 256 width := by
  induction width generalizing n with
  | zero => simp [toLittleEndian, ofLittleEndian, Nat.mod_one]
  | succ width ih =>
      rw [toLittleEndian, ofLittleEndian, ih, UInt8.toNat_ofNat',
        show Nat.pow 256 (width + 1) = 256 * Nat.pow 256 width from Nat.pow_succ']
      exact (@Nat.mod_mul 256 (Nat.pow 256 width) n).symm

/-- Writing back what was read gives the bytes. -/
theorem toLittleEndian_ofLittleEndian (bs : Bytes) :
    toLittleEndian bs.length (ofLittleEndian bs) = bs := by
  induction bs with
  | nil => rfl
  | cons b bs ih =>
      have hb : b.toNat < 256 := b.toNat_lt
      have hdiv : (b.toNat + 256 * ofLittleEndian bs) / 256 = ofLittleEndian bs := by omega
      have hmod : UInt8.ofNat (b.toNat + 256 * ofLittleEndian bs) = b := by
        apply UInt8.toNat_inj.1
        rw [UInt8.toNat_ofNat']
        omega
      rw [List.length_cons, ofLittleEndian, toLittleEndian, hdiv, ih, hmod]

/-- The four bytes of a 32-bit word. -/
def ofUInt32 (w : UInt32) : Bytes :=
  toLittleEndian 4 w.toNat

/-- The eight bytes of a 64-bit word. -/
def ofUInt64 (w : UInt64) : Bytes :=
  toLittleEndian 8 w.toNat

/-- The 32-bit word in the first four bytes. -/
def toUInt32 (bs : Bytes) : UInt32 :=
  UInt32.ofNat (ofLittleEndian (bs.take 4))

/-- The 64-bit word in the first eight bytes. -/
def toUInt64 (bs : Bytes) : UInt64 :=
  UInt64.ofNat (ofLittleEndian (bs.take 8))

/-! ## Slices -/

/-- The `size` bytes that start at `start`. -/
def slice (bs : Bytes) (start size : Nat) : Bytes :=
  (bs.drop start).take size

/-- The byte string with the bytes from `start` on overwritten by `part`. -/
def splice (bs : Bytes) (start : Nat) (part : Bytes) : Bytes :=
  bs.take start ++ part ++ bs.drop (start + part.length)

/-! ## Hexadecimal text -/

/-- The lowercase hexadecimal digit of a number below sixteen. -/
def hexDigit (n : Nat) : Char :=
  if n < 10 then Char.ofNat (48 + n) else Char.ofNat (87 + n)

/-- The number a hexadecimal digit of either case stands for. -/
def hexValue? (c : Char) : Option Nat :=
  if '0' ≤ c ∧ c ≤ '9' then some (c.toNat - 48)
  else if 'a' ≤ c ∧ c ≤ 'f' then some (c.toNat - 87)
  else if 'A' ≤ c ∧ c ≤ 'F' then some (c.toNat - 55)
  else none

/-- Two lowercase hexadecimal digits a byte. -/
def toHex (bs : Bytes) : String :=
  String.ofList (bs.flatMap fun b => [hexDigit (b.toNat / 16), hexDigit (b.toNat % 16)])

private def ofHexDigits? : List Char → Option Bytes
  | [] => some []
  | high :: low :: rest => do
      let h ← hexValue? high
      let l ← hexValue? low
      let bs ← ofHexDigits? rest
      return UInt8.ofNat (16 * h + l) :: bs
  | [_] => none

/-- The bytes written by an even number of hexadecimal digits. -/
def ofHex? (text : String) : Option Bytes :=
  ofHexDigits? text.toList

end Bytes

end GuestBridge
