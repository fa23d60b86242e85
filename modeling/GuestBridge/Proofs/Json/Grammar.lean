import GuestBridge.Json.Reader

/-!
# The grammar of JSON

`Json.SpellsDocument j bs` says that the bytes are a text of the document `j`.  One document has
many texts: blanks may stand between tokens, a character of a string may be written as it is, by a
letter after a backslash, or by the numbers of its 16-bit units, and an exponent has its letter in
either case, a sign or none, and leading zeros.

The grammar is a relation on its own.  It does not say how a text is read, and what it says of a
value does not depend on what follows.
-/

namespace GuestBridge

namespace Json

/-- Bytes that may stand between tokens. -/
def Blank (bs : Bytes) : Prop :=
  ∀ b ∈ bs, isBlank b = true

/-! ## Numerals -/

/-- The byte of a digit. -/
def digitByte (d : Fin 10) : UInt8 :=
  UInt8.ofNat (0x30 + d.val)

/-- The whole part of a numeral has no leading zero. -/
inductive SpellsWhole : Nat → Bytes → Prop where
  | zero : SpellsWhole 0 [digitByte 0]
  | digits {d : Fin 10} (ds : List (Fin 10)) (h : d ≠ 0) :
      SpellsWhole (numberOf (d :: ds)) ((d :: ds).map digitByte)

/-- A fraction is a point and at least one digit. -/
inductive SpellsFraction : List (Fin 10) → Bytes → Prop where
  | none : SpellsFraction [] []
  | digits {ds : List (Fin 10)} (h : ds ≠ []) : SpellsFraction ds (0x2E :: ds.map digitByte)

/-- The sign of an exponent. -/
inductive SpellsSign : Bool → Bytes → Prop where
  | minus : SpellsSign true [0x2D]
  | plus : SpellsSign false [0x2B]
  | none : SpellsSign false []

/-- An exponent is a letter, a sign and at least one digit. -/
inductive SpellsExponent : Option Int → Bytes → Prop where
  | none : SpellsExponent none []
  | digits {letter : UInt8} {negative : Bool} {sign : Bytes} {ds : List (Fin 10)}
      (hletter : letter = 0x65 ∨ letter = 0x45) (hsign : SpellsSign negative sign) (h : ds ≠ []) :
      SpellsExponent (some (if negative then -numberOf ds else numberOf ds))
        (letter :: (sign ++ ds.map digitByte))

/-- A numeral is a minus sign if it is negative, and its three parts. -/
def SpellsNumeral (n : Numeral) (bs : Bytes) : Prop :=
  ∃ whole fraction exponent, SpellsWhole n.whole whole ∧ SpellsFraction n.fraction fraction ∧
    SpellsExponent n.exponent exponent ∧
    bs = (if n.negative then [0x2D] else []) ++ (whole ++ (fraction ++ exponent))

/-! ## Strings -/

/-- The characters with an escape of their own, each with the letter that comes after the
backslash. -/
def letterEscapes : List (Char × UInt8) :=
  [('"', 0x22), ('\\', 0x5C), ('/', 0x2F), ('\x08', 0x62), ('\x0c', 0x66), ('\n', 0x6E),
    ('\r', 0x72), ('\t', 0x74)]

/-- A hexadecimal digit of either case. -/
inductive SpellsHexDigit : Nat → UInt8 → Prop where
  | digit {n : Nat} (h : n < 10) : SpellsHexDigit n (UInt8.ofNat (0x30 + n))
  | small {n : Nat} (h : n < 6) : SpellsHexDigit (10 + n) (UInt8.ofNat (0x61 + n))
  | capital {n : Nat} (h : n < 6) : SpellsHexDigit (10 + n) (UInt8.ofNat (0x41 + n))

/-- The escape of a 16-bit unit has four hexadecimal digits. -/
inductive SpellsUnit : Nat → Bytes → Prop where
  | digits {n₃ n₂ n₁ n₀ : Nat} {d₃ d₂ d₁ d₀ : UInt8} (h₃ : SpellsHexDigit n₃ d₃)
      (h₂ : SpellsHexDigit n₂ d₂) (h₁ : SpellsHexDigit n₁ d₁) (h₀ : SpellsHexDigit n₀ d₀) :
      SpellsUnit (((n₃ * 16 + n₂) * 16 + n₁) * 16 + n₀) [0x5C, 0x75, d₃, d₂, d₁, d₀]

/-- The ways to write a character of a string. -/
inductive SpellsChar : Char → Bytes → Prop where
  /-- As it is, unless it is a control, a quote or a backslash. -/
  | plain {c : Char} (hcontrol : 0x20 ≤ c.toNat) (hquote : c ≠ '"') (hbackslash : c ≠ '\\') :
      SpellsChar c (String.utf8EncodeChar c)
  | letter {c : Char} {letter : UInt8} (h : (c, letter) ∈ letterEscapes) :
      SpellsChar c [0x5C, letter]
  | unit {c : Char} {bs : Bytes} (h : SpellsUnit c.toNat bs) : SpellsChar c bs
  /-- By a surrogate pair, if one unit has no room for it. -/
  | pair {c : Char} {high low : Nat} {hbs lbs : Bytes} (hhigh : high < 0x400) (hlow : low < 0x400)
      (hc : c.toNat = 0x10000 + high * 0x400 + low) (hhs : SpellsUnit (0xD800 + high) hbs)
      (hls : SpellsUnit (0xDC00 + low) lbs) : SpellsChar c (hbs ++ lbs)

/-- The characters of a string, one after the other. -/
inductive SpellsChars : List Char → Bytes → Prop where
  | nil : SpellsChars [] []
  | cons {c : Char} {cs : List Char} {piece rest : Bytes} (h : SpellsChar c piece)
      (hrest : SpellsChars cs rest) : SpellsChars (c :: cs) (piece ++ rest)

/-- A string stands between quotes. -/
inductive SpellsString : String → Bytes → Prop where
  | quoted {s : String} {inner : Bytes} (h : SpellsChars s.toList inner) :
      SpellsString s (0x22 :: (inner ++ [0x22]))

/-! ## Documents -/

/-- The key of a member may have blanks around it. -/
inductive SpellsKey : String → Bytes → Prop where
  | padded {key : String} {before bs after : Bytes} (hbefore : Blank before)
      (h : SpellsString key bs) (hafter : Blank after) : SpellsKey key (before ++ (bs ++ after))

mutual

/-- The texts of a value. -/
inductive Spells : Json → Bytes → Prop where
  | null : Spells .null [0x6E, 0x75, 0x6C, 0x6C]
  | yes : Spells (.bool true) [0x74, 0x72, 0x75, 0x65]
  | no : Spells (.bool false) [0x66, 0x61, 0x6C, 0x73, 0x65]
  | number {n : Numeral} {bs : Bytes} (h : SpellsNumeral n bs) : Spells (.number n) bs
  | string {s : String} {bs : Bytes} (h : SpellsString s bs) : Spells (.string (some s)) bs
  | emptyArray {blank : Bytes} (h : Blank blank) : Spells (.array []) (0x5B :: (blank ++ [0x5D]))
  | array {items : List Json} {bs : Bytes} (h : SpellsItems items bs) :
      Spells (.array items) (0x5B :: bs)
  | emptyObject {blank : Bytes} (h : Blank blank) : Spells (.object []) (0x7B :: (blank ++ [0x7D]))
  | object {members : List (Option String × Json)} {bs : Bytes} (h : SpellsMembers members bs) :
      Spells (.object members) (0x7B :: bs)

/-- The texts of a value with blanks around it. -/
inductive SpellsDocument : Json → Bytes → Prop where
  | padded {j : Json} {before bs after : Bytes} (hbefore : Blank before) (h : Spells j bs)
      (hafter : Blank after) : SpellsDocument j (before ++ (bs ++ after))

/-- The texts of one or more items and the end of the array. -/
inductive SpellsItems : List Json → Bytes → Prop where
  | last {j : Json} {bs : Bytes} (h : SpellsDocument j bs) : SpellsItems [j] (bs ++ [0x5D])
  | more {j : Json} {items : List Json} {bs rest : Bytes} (h : SpellsDocument j bs)
      (hrest : SpellsItems items rest) : SpellsItems (j :: items) (bs ++ 0x2C :: rest)

/-- The texts of one or more members and the end of the object. -/
inductive SpellsMembers : List (Option String × Json) → Bytes → Prop where
  | last {key : String} {j : Json} {keyBytes bs : Bytes} (hkey : SpellsKey key keyBytes)
      (h : SpellsDocument j bs) :
      SpellsMembers [(some key, j)] (keyBytes ++ 0x3A :: (bs ++ [0x7D]))
  | more {key : String} {j : Json} {members : List (Option String × Json)}
      {keyBytes bs rest : Bytes} (hkey : SpellsKey key keyBytes) (h : SpellsDocument j bs)
      (hrest : SpellsMembers members rest) :
      SpellsMembers ((some key, j) :: members) (keyBytes ++ 0x3A :: (bs ++ 0x2C :: rest))

end

end Json

end GuestBridge
