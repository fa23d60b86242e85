import GuestBridge.Number.Binary
import GuestBridge.Number.Numeral

/-!
# The value of a numeral

A numeral without fraction and exponent stands for an integer if that fits in 64 bits, signed when
it is negative (`Numeral.integer?`; `-0` is no integer). Any other numeral is read as a 64-bit
binary number (`Numeral.toDouble?`): as many leading digits as fit in 64 bits are taken as an
integer, and one multiplication or division by a power of ten puts the point in its place. There is
no number when that goes beyond the range.
-/

namespace GuestBridge

namespace Numeral

/-- The integer a numeral stands for, if it is between the least signed and the greatest unsigned
64-bit one. -/
def integer? (n : Numeral) : Option Int :=
  if n.fraction ≠ [] ∨ n.exponent ≠ none then none
  else if n.negative then
    if n.whole = 0 ∨ 0x8000000000000000 < n.whole then none else some (-n.whole)
  else if n.whole < UInt64.size then some n.whole
  else none

/-- Takes digits onto a significand while it stays below two to the power of 64. The answer has the
significand and the digits left over. -/
def takeDigits (significand : Nat) : List (Fin 10) → Nat × List (Fin 10)
  | [] => (significand, [])
  | d :: ds =>
      if significand * 10 + d.val < UInt64.size then takeDigits (significand * 10 + d.val) ds
      else (significand, d :: ds)

/-- The digits of the whole part. -/
def wholeDigits (n : Numeral) : List (Fin 10) :=
  (Nat.toDigits 10 n.whole).map fun c => lastDigit (c.toNat - 48)

/-- The leading digits as an integer, and the power of ten it is to be scaled by. -/
def significand (n : Numeral) : Nat × Int :=
  let (whole, left) := takeDigits 0 n.wholeDigits
  let (digits, dropped) := takeDigits whole n.fraction
  let taken : Int := n.fraction.length - dropped.length
  (digits, left.length - taken + n.exponent.getD 0)

/-- The 64-bit number nearest to a power of ten. -/
def powerOfTen (k : Nat) : Binary64 :=
  Binary.nearest Format.double false (Nat.pow 10 k) 1

/-- A number divided by a power of ten, in steps of at most 308. -/
def scaleDown (x : Binary64) (k : Nat) : Binary64 :=
  if k ≤ 308 then x.div (powerOfTen k)
  else if x.isZero then x
  else scaleDown (x.div (powerOfTen 308)) (k - 308)
termination_by k
decreasing_by omega

/-- A number times a power of ten, if that is finite. -/
def scale? (x : Binary64) (power : Int) : Option Binary64 :=
  if power < 0 then some (scaleDown x power.natAbs)
  else if 308 < power then if x.isZero then some x else none
  else
    let product := x.mul (powerOfTen power.natAbs)
    if product.isFinite then some product else none

/-- The 64-bit number a numeral is read as. -/
def toDouble? (n : Numeral) : Option Binary64 :=
  let (digits, power) := n.significand
  (scale? (Binary.ofInt Format.double digits) power).map fun x =>
    Binary.ofFields Format.double n.negative x.fields

/-- The 32-bit number a numeral is read as: an integer is rounded once, any other numeral is read as
a 64-bit number first. -/
def toSingle? (n : Numeral) : Option Binary32 :=
  match n.integer? with
  | some i => some (Binary.ofInt Format.single i)
  | none => n.toDouble?.map (Binary.convert Format.single)

end Numeral

end GuestBridge
