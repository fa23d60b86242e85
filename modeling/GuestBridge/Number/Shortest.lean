import GuestBridge.Number.Binary
import GuestBridge.Number.Numeral

/-!
# The shortest decimal of a binary number

`shortest` gives the decimal with the fewest digits among those that round to a number, and of these
the nearest to it. The reals that round to a finite number form an interval around it that holds its
ends when the significand is even. For each count of digits the two decimals around the number are
tried, and the first count with one in the interval wins. Two that are equally near are told apart
by `Tie`.

`FloatStyle` says how such a decimal is written: `plainStyle` never uses an exponent, `preciseStyle`
keeps `.0` on whole numbers and turns to exponents far from one.
-/

namespace GuestBridge

/-- Which of two equally near decimals is taken. -/
inductive Tie where
  | up
  | even
  deriving DecidableEq, Repr

/-! ## The interval -/

/-- Four times a number and its neighbourhood, in units of the least positive number: the number
itself, the lower and the upper end of the reals that round to it, and whether the ends belong to
them. -/
structure Neighbourhood where
  value : Nat
  low : Nat
  high : Nat
  closed : Bool

/-- The neighbourhood of the finite fields of a format. Below a power of two the numbers lie twice
as close, unless they are the closest already. -/
def Neighbourhood.ofFields (f : Format) (fields : Nat) : Neighbourhood :=
  let exponent := fields / Nat.pow 2 (f.precision - 1)
  let fraction := fields % Nat.pow 2 (f.precision - 1)
  let gap := Nat.pow 2 (exponent - 1)
  let value := 4 * Binary.sizeOfFields f fields
  ⟨value, value - (if fraction = 0 ∧ 1 < exponent then gap else 2 * gap), value + 2 * gap,
    fields % 2 = 0⟩

/-- The number `num / den` of the same units lies in the neighbourhood. -/
def Neighbourhood.holds (n : Neighbourhood) (num den : Nat) : Bool :=
  if n.closed then n.low * den ≤ num && num ≤ n.high * den
  else n.low * den < num && num < n.high * den

/-! ## Decimals near a number -/

/-- The number of decimal digits. -/
def digitCount (n : Nat) : Nat :=
  (Nat.toDigits 10 n).length

/-- The power of ten of the first digit of `num / den`. -/
def leadingPower (num den : Nat) : Int :=
  let k : Int := digitCount num - digitCount den
  let reaches := if 0 ≤ k then den * Nat.pow 10 k.toNat ≤ num else den ≤ num * Nat.pow 10 (-k).toNat
  if reaches then k else k - 1

/-- The decimal without trailing zeros. -/
def Decimal.trim : Nat → Decimal → Decimal
  | 0, d => d
  | n + 1, d =>
      if d.digits % 10 = 0 ∧ d.digits ≠ 0 then trim n ⟨d.digits / 10, d.exponent + 1⟩ else d

/-- The decimals with unit `10 ^ power` next to a number, the nearer one that lies in the
neighbourhood. The number is `n.value` in units of one over `den`. -/
def nearestAt (tie : Tie) (n : Neighbourhood) (den : Nat) (power : Int) : Option Decimal :=
  let up := Nat.pow 10 power.toNat
  let down := Nat.pow 10 (-power).toNat
  let num := n.value * down
  let unit := den * up
  let below := num / unit
  let remainder := 2 * (num % unit)
  let lower := n.holds (below * unit) down
  let upper := n.holds ((below + 1) * unit) down
  let takeUpper :=
    if remainder = unit then tie = .up || below % 2 = 1
    else decide (unit < remainder)
  if lower && upper then some ⟨if takeUpper then below + 1 else below, power⟩
  else if lower then some ⟨below, power⟩
  else if upper then some ⟨below + 1, power⟩
  else none

/-- The first hit with at most `tries` more digits, beginning with the given unit. -/
def firstHit (tie : Tie) (n : Neighbourhood) (den : Nat) : Nat → Int → Decimal
  | 0, power => ⟨n.value * Nat.pow 10 (-power).toNat / (den * Nat.pow 10 power.toNat), power⟩
  | tries + 1, power => (nearestAt tie n den power).getD (firstHit tie n den tries (power - 1))

/-- The shortest decimal that rounds to the number with the given finite fields. -/
def shortest (tie : Tie) (f : Format) (fields : Nat) : Decimal :=
  if fields = 0 then ⟨0, 0⟩
  else
    let n := Neighbourhood.ofFields f fields
    let den := 4 * Nat.pow 2 f.scale
    (firstHit tie n den 20 (leadingPower n.value den)).trim 20

/-! ## Written forms -/

/-- How a binary number is written: which of two equally near decimals, from the power of ten of the
first digit whether no exponent is used, and whether a whole number keeps `.0`. -/
structure FloatStyle where
  tie : Tie
  plain : Int → Bool
  point : Bool

/-- The numeral of a finite number in a style. -/
def FloatStyle.numeral {f : Format} (style : FloatStyle) (x : Binary f) : Numeral :=
  let d := shortest style.tie f x.fields
  if style.plain d.leadingExponent then Numeral.plainForm x.isNegative d style.point
  else Numeral.exponentForm x.isNegative d

/-- The text of a number in a style, without a plus sign before an exponent. -/
def FloatStyle.text {f : Format} (style : FloatStyle) (x : Binary f) : String :=
  match x.content with
  | .nan => "NaN"
  | .infinity negative => if negative then "-inf" else "inf"
  | .finite _ _ => (style.numeral x).text false

/-- Values are shown without an exponent and without `.0`. -/
def plainStyle : FloatStyle := ⟨.up, fun _ => true, false⟩

/-- Words in messages keep `.0`, and use an exponent below one ten-thousandth and from ten to the
sixteenth on. -/
def preciseStyle : FloatStyle := ⟨.up, fun e => -4 ≤ e && e < 16, true⟩

end GuestBridge
