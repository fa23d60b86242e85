import GuestBridge.Bytes

/-!
# SHA-256

The digest of a byte string by the Secure Hash Standard: the message is padded to blocks of 64
bytes, and each block is mixed into a state of eight words in 64 rounds. `digestText` is the
hexadecimal text of it.
-/

namespace GuestBridge

namespace Sha256

/-- The round constants: fractional bits of the cube roots of the first 64 primes. -/
def roundConstants : List UInt32 := [
  0x428a2f98, 0x71374491, 0xb5c0fbcf, 0xe9b5dba5, 0x3956c25b, 0x59f111f1, 0x923f82a4, 0xab1c5ed5,
  0xd807aa98, 0x12835b01, 0x243185be, 0x550c7dc3, 0x72be5d74, 0x80deb1fe, 0x9bdc06a7, 0xc19bf174,
  0xe49b69c1, 0xefbe4786, 0x0fc19dc6, 0x240ca1cc, 0x2de92c6f, 0x4a7484aa, 0x5cb0a9dc, 0x76f988da,
  0x983e5152, 0xa831c66d, 0xb00327c8, 0xbf597fc7, 0xc6e00bf3, 0xd5a79147, 0x06ca6351, 0x14292967,
  0x27b70a85, 0x2e1b2138, 0x4d2c6dfc, 0x53380d13, 0x650a7354, 0x766a0abb, 0x81c2c92e, 0x92722c85,
  0xa2bfe8a1, 0xa81a664b, 0xc24b8b70, 0xc76c51a3, 0xd192e819, 0xd6990624, 0xf40e3585, 0x106aa070,
  0x19a4c116, 0x1e376c08, 0x2748774c, 0x34b0bcb5, 0x391c0cb3, 0x4ed8aa4a, 0x5b9cca4f, 0x682e6ff3,
  0x748f82ee, 0x78a5636f, 0x84c87814, 0x8cc70208, 0x90befffa, 0xa4506ceb, 0xbef9a3f7, 0xc67178f2]

/-- The eight words of the state. -/
structure State where
  a : UInt32
  b : UInt32
  c : UInt32
  d : UInt32
  e : UInt32
  f : UInt32
  g : UInt32
  h : UInt32
  deriving DecidableEq, Repr

/-- The first state: fractional bits of the square roots of the first eight primes. -/
def State.initial : State :=
  ⟨0x6a09e667, 0xbb67ae85, 0x3c6ef372, 0xa54ff53a, 0x510e527f, 0x9b05688c, 0x1f83d9ab, 0x5be0cd19⟩

/-- The word turned to the right. -/
def rotate (x n : UInt32) : UInt32 :=
  (x >>> n) ||| (x <<< (32 - n))

/-- One round with its message word and constant. -/
def State.round (s : State) (word constant : UInt32) : State :=
  let s1 := rotate s.e 6 ^^^ rotate s.e 11 ^^^ rotate s.e 25
  let choice := (s.e &&& s.f) ^^^ (~~~s.e &&& s.g)
  let t1 := s.h + s1 + choice + constant + word
  let s0 := rotate s.a 2 ^^^ rotate s.a 13 ^^^ rotate s.a 22
  let majority := (s.a &&& s.b) ^^^ (s.a &&& s.c) ^^^ (s.b &&& s.c)
  ⟨t1 + (s0 + majority), s.a, s.b, s.c, s.d + t1, s.e, s.f, s.g⟩

/-- The states added word by word. -/
def State.add (s t : State) : State :=
  ⟨s.a + t.a, s.b + t.b, s.c + t.c, s.d + t.d, s.e + t.e, s.f + t.f, s.g + t.g, s.h + t.h⟩

/-- The words of the state, in order. -/
def State.words (s : State) : List UInt32 :=
  [s.a, s.b, s.c, s.d, s.e, s.f, s.g, s.h]

/-- The bytes of a word, most significant first. -/
def wordBytes (w : UInt32) : Bytes :=
  (Bytes.ofUInt32 w).reverse

/-- The words of a byte string, most significant byte first. -/
def wordsOf : Bytes → List UInt32
  | a :: b :: c :: d :: rest => Bytes.toUInt32 [d, c, b, a] :: wordsOf rest
  | _ => []

/-- The message words of the rounds: those of the block, then each from four before it. The window
holds the last sixteen words, latest first. -/
def schedule : Nat → List UInt32 → List UInt32
  | 0, _ => []
  | count + 1, window =>
      let w2 := window.getD 1 0
      let w7 := window.getD 6 0
      let w15 := window.getD 14 0
      let w16 := window.getD 15 0
      let s0 := rotate w15 7 ^^^ rotate w15 18 ^^^ (w15 >>> 3)
      let s1 := rotate w2 17 ^^^ rotate w2 19 ^^^ (w2 >>> 10)
      let w := w16 + s0 + w7 + s1
      w :: schedule count (w :: window.take 15)

/-- Mixes the sixteen words of a block into the state. -/
def mixBlock (s : State) (block : List UInt32) : State :=
  let words := block ++ schedule 48 block.reverse
  s.add ((words.zip roundConstants).foldl (fun t p => t.round p.1 p.2) s)

/-- Mixes the given number of blocks of sixteen words into the state. -/
def mixBlocks : Nat → State → List UInt32 → State
  | 0, s, _ => s
  | count + 1, s, words => mixBlocks count (mixBlock s (words.take 16)) (words.drop 16)

/-- The message with a one bit, zeros up to a whole number of blocks, and its length in bits. -/
def pad (message : Bytes) : Bytes :=
  let zeros := (119 - message.length % 64) % 64
  message ++ 0x80 :: List.replicate zeros 0 ++
    (Bytes.toLittleEndian 8 (8 * message.length)).reverse

/-- The digest of a message. -/
def digest (message : Bytes) : Bytes :=
  let words := wordsOf (pad message)
  (mixBlocks (words.length / 16) State.initial words).words.flatMap wordBytes

end Sha256

/-- The digest as lowercase hexadecimal digits. -/
def digestText (message : Bytes) : String :=
  Bytes.toHex (Sha256.digest message)

end GuestBridge
