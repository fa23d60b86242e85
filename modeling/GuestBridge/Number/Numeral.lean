/-!
# Decimal numerals

A `Numeral` is a number as it is written: sign, whole part, fraction digits and exponent. `text`
writes it, a positive exponent with or without a plus sign. A `Decimal` is a whole number times a
power of ten, and it is laid out as a numeral in one of two forms (`plainForm`, `exponentForm`).
-/

namespace GuestBridge

/-- The last digit of a number. -/
def lastDigit (n : Nat) : Fin 10 :=
  ⟨n % 10, Nat.mod_lt n (Nat.succ_pos 9)⟩

/-- A number as it is written in decimal digits. -/
structure Numeral where
  negative : Bool
  whole : Nat
  fraction : List (Fin 10)
  exponent : Option Int
  deriving DecidableEq, Repr

/-- The number `digits` times ten to the power of `exponent`. -/
structure Decimal where
  digits : Nat
  exponent : Int
  deriving DecidableEq, Repr

namespace Decimal

/-- The power of ten of the first digit. -/
def leadingExponent (d : Decimal) : Int :=
  d.exponent + (Nat.toDigits 10 d.digits).length - 1

end Decimal

namespace Numeral

/-- The numeral of a natural number. -/
def ofNat (n : Nat) : Numeral :=
  ⟨false, n, [], none⟩

/-- The numeral of an integer. -/
def ofInt (i : Int) : Numeral :=
  ⟨decide (i < 0), i.natAbs, [], none⟩

/-- The character of a digit. -/
def digitChar (d : Fin 10) : Char :=
  Char.ofNat (48 + d.val)

/-- The last `count` digits of a number, with leading zeros. -/
def lastDigits : Nat → Nat → List (Fin 10)
  | 0, _ => []
  | count + 1, n => lastDigits count (n / 10) ++ [lastDigit n]

/-- The characters of an exponent. -/
def exponentChars (plus : Bool) (e : Int) : List Char :=
  'e' :: (if e < 0 then ['-'] else if plus then ['+'] else []) ++ Nat.toDigits 10 e.natAbs

/-- The characters of a numeral. -/
def chars (plus : Bool) (n : Numeral) : List Char :=
  (if n.negative then ['-'] else []) ++ Nat.toDigits 10 n.whole ++
    (if n.fraction.isEmpty then [] else '.' :: n.fraction.map digitChar) ++
    (match n.exponent with
     | none => []
     | some e => exponentChars plus e)

/-- The numeral as text, with or without a plus sign before a positive exponent. -/
def text (plus : Bool) (n : Numeral) : String :=
  String.ofList (n.chars plus)

/-- Plain form: every digit at its place. A whole number has a zero after the point if `point`. -/
def plainForm (negative : Bool) (d : Decimal) (point : Bool) : Numeral :=
  match d.exponent with
  | .ofNat k => ⟨negative, d.digits * Nat.pow 10 k, if point then [lastDigit 0] else [], none⟩
  | .negSucc k => ⟨negative, d.digits / Nat.pow 10 (k + 1), lastDigits (k + 1) d.digits, none⟩

/-- Exponent form: the first digit is the whole part. -/
def exponentForm (negative : Bool) (d : Decimal) : Numeral :=
  let count := (Nat.toDigits 10 d.digits).length - 1
  ⟨negative, d.digits / Nat.pow 10 count, lastDigits count d.digits, some d.leadingExponent⟩

end Numeral

end GuestBridge
