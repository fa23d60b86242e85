import GuestBridge.Bytes

/-!
# Text as bytes

`encode` writes a text in UTF-8. Reading takes one character at a time (`readChar`): where the bytes
do not start one, the longest run that begins a character and cannot be continued is passed over, at
least one byte. `decodeLossy` puts the replacement character for each such run, `decode?` refuses
them.
-/

namespace GuestBridge

namespace Text

/-- The bytes of a text. -/
def encode (text : String) : Bytes :=
  text.toList.flatMap String.utf8EncodeChar

/-- What a first byte announces: the number of bytes to follow, the range of the next one, and the
bits it carries itself. -/
def leading (b : UInt8) : Option (Nat × UInt8 × UInt8 × Nat) :=
  if b ≤ 0x7F then some (0, 0x80, 0xBF, b.toNat)
  else if 0xC2 ≤ b ∧ b ≤ 0xDF then some (1, 0x80, 0xBF, b.toNat - 0xC0)
  else if b = 0xE0 then some (2, 0xA0, 0xBF, 0)
  else if b = 0xED then some (2, 0x80, 0x9F, 0xD)
  else if 0xE1 ≤ b ∧ b ≤ 0xEF then some (2, 0x80, 0xBF, b.toNat - 0xE0)
  else if b = 0xF0 then some (3, 0x90, 0xBF, 0)
  else if 0xF1 ≤ b ∧ b ≤ 0xF3 then some (3, 0x80, 0xBF, b.toNat - 0xF0)
  else if b = 0xF4 then some (3, 0x80, 0x8F, 4)
  else none

/-- Reads `count` following bytes, the first of them between `low` and `high`, onto the bits so far.
The bytes that fit are taken also when a later one does not. -/
def readFollowing : Nat → UInt8 → UInt8 → Nat → Bytes → Option Nat × Bytes
  | 0, _, _, bits, bs => (some bits, bs)
  | _ + 1, _, _, _, [] => (none, [])
  | count + 1, low, high, bits, b :: bs =>
      if low ≤ b ∧ b ≤ high then
        readFollowing count 0x80 0xBF (bits * 64 + (b.toNat - 0x80)) bs
      else (none, b :: bs)

/-- Reads a character that starts with `b`; none if the bytes passed over are not one. -/
def readChar (b : UInt8) (bs : Bytes) : Option Char × Bytes :=
  match leading b with
  | none => (none, bs)
  | some (count, low, high, bits) =>
      let (code, rest) := readFollowing count low high bits bs
      (code.map Char.ofNat, rest)

theorem length_readFollowing_le (count : Nat) (low high : UInt8) (bits : Nat) (bs : Bytes) :
    (readFollowing count low high bits bs).2.length ≤ bs.length := by
  induction count generalizing low high bits bs with
  | zero => simp [readFollowing]
  | succ count ih =>
      cases bs with
      | nil => simp [readFollowing]
      | cons b bs =>
          unfold readFollowing
          split
          · exact Nat.le_succ_of_le (ih _ _ _ bs)
          · simp

theorem length_readChar_le (b : UInt8) (bs : Bytes) :
    (readChar b bs).2.length ≤ bs.length := by
  unfold readChar
  split
  · simp
  · exact length_readFollowing_le _ _ _ _ _

/-- The characters of a byte string, none for each run of bytes that is not one. -/
def readChars : Bytes → List (Option Char)
  | [] => []
  | b :: bs => (readChar b bs).1 :: readChars (readChar b bs).2
termination_by bs => bs.length
decreasing_by exact Nat.lt_succ_of_le (length_readChar_le b bs)

/-- The text of a byte string, with U+FFFD for each run of bytes that is not a character. -/
def decodeLossy (bs : Bytes) : String :=
  String.ofList ((readChars bs).map fun c => c.getD '\uFFFD')

/-- The text of a byte string that is UTF-8 throughout. -/
def decode? (bs : Bytes) : Option String :=
  ((readChars bs).mapM id).map String.ofList

end Text

end GuestBridge
