/-!
# Binary floating-point numbers

A `Binary f` is a number in one of the binary interchange formats, kept as its bits so that every
NaN and both zeros are told apart. A finite number is a whole multiple of the least positive number
of its format, and `content` gives that multiple, which makes all arithmetic here exact arithmetic
on natural numbers followed by one rounding (`nearest`: to the nearest number, ties to the even one,
beyond the range to infinity). `same` is numeric equality, under which a NaN differs from itself and
the zeros agree.
-/

namespace GuestBridge

/-- A binary format: the bits of a significand, the leading one included, and of the exponent. -/
structure Format where
  precision : Nat
  exponentBits : Nat
  deriving DecidableEq, Repr

namespace Format

@[reducible] def single : Format := ⟨24, 8⟩

@[reducible] def double : Format := ⟨53, 11⟩

/-- The bits of a number: sign, exponent field and fraction field. -/
@[reducible] def width (f : Format) : Nat :=
  f.precision + f.exponentBits

/-- The least positive number is two to the power of minus this. -/
def scale (f : Format) : Nat :=
  Nat.pow 2 (f.exponentBits - 1) + f.precision - 3

/-- The fields after the sign of an infinity. -/
def infinity (f : Format) : Nat :=
  (Nat.pow 2 f.exponentBits - 1) * Nat.pow 2 (f.precision - 1)

end Format

/-- A number of the format `f`, as its bits. -/
structure Binary (f : Format) where
  bits : BitVec f.width
  deriving DecidableEq, Repr

/-- A number of the 32-bit format. -/
abbrev Binary32 := Binary Format.single

/-- A number of the 64-bit format. -/
abbrev Binary64 := Binary Format.double

namespace Binary

/-- What the bits of a number stand for. A finite number is `size` times the least positive one. -/
inductive Content where
  | nan
  | infinity (negative : Bool)
  | finite (negative : Bool) (size : Nat)
  deriving DecidableEq, Repr

variable {f g : Format}

/-- The sign bit is set. -/
def isNegative (x : Binary f) : Bool :=
  x.bits.msb

def fields (x : Binary f) : Nat :=
  x.bits.toNat % Nat.pow 2 (f.width - 1)

/-- The number with the given sign and fields. -/
def ofFields (f : Format) (negative : Bool) (fields : Nat) : Binary f :=
  ⟨BitVec.ofNat f.width (fields + if negative then Nat.pow 2 (f.width - 1) else 0)⟩

/-- The multiple of the least positive number that finite fields stand for. -/
def sizeOfFields (f : Format) (fields : Nat) : Nat :=
  let exponent := fields / Nat.pow 2 (f.precision - 1)
  let fraction := fields % Nat.pow 2 (f.precision - 1)
  if exponent = 0 then fraction
  else (Nat.pow 2 (f.precision - 1) + fraction) * Nat.pow 2 (exponent - 1)

/-- What the number stands for. -/
def content (x : Binary f) : Content :=
  if f.infinity < x.fields then .nan
  else if x.fields = f.infinity then .infinity x.isNegative
  else .finite x.isNegative (sizeOfFields f x.fields)

/-- A NaN that stands for no particular failure. -/
def nan (f : Format) : Binary f :=
  ofFields f false (f.infinity + Nat.pow 2 (f.precision - 2))

/-- A positive zero. -/
def zero (f : Format) : Binary f :=
  ofFields f false 0

/-- The number is not a NaN and not infinite. -/
def isFinite (x : Binary f) : Bool :=
  x.fields < f.infinity

/-- The number is a zero of either sign. -/
def isZero (x : Binary f) : Bool :=
  x.fields = 0

/-- Numeric equality. -/
def same (x y : Binary f) : Bool :=
  x.content != .nan && y.content != .nan && (x == y || (x.isZero && y.isZero))

/-! ## Rounding -/

/-- The whole number nearest to `num / den`, the even one of two. -/
def divideToEven (num den : Nat) : Nat :=
  let quotient := num / den
  let twice := 2 * (num % den)
  if twice < den then quotient
  else if twice = den then quotient + quotient % 2
  else quotient + 1

/-- The fields of the number nearest to `num / den`. The significand is cut to its precision by a
power of two, and a significand that rounds up past it carries into the exponent field. -/
def nearestFields (f : Format) (num den : Nat) : Nat :=
  let scaled := num * Nat.pow 2 f.scale
  let shift := Nat.log2 (scaled / den) + 1 - f.precision
  min f.infinity (shift * Nat.pow 2 (f.precision - 1) + divideToEven scaled (den * Nat.pow 2 shift))

/-- The number nearest to plus or minus `num / den`. -/
def nearest (f : Format) (negative : Bool) (num den : Nat) : Binary f :=
  ofFields f negative (nearestFields f num den)

/-- The number nearest to an integer. -/
def ofInt (f : Format) (i : Int) : Binary f :=
  nearest f (decide (i < 0)) i.natAbs 1

/-! ## Arithmetic -/

/-- The number in another format. -/
def convert (g : Format) (x : Binary f) : Binary g :=
  match x.content with
  | .nan => nan g
  | .infinity negative => ofFields g negative g.infinity
  | .finite negative size => nearest g negative size (Nat.pow 2 f.scale)

/-- The rounded product. -/
def mul (x y : Binary f) : Binary f :=
  match x.content, y.content with
  | .finite a m, .finite b n => nearest f (a != b) (m * n) (Nat.pow 2 (2 * f.scale))
  | .infinity a, .infinity b => ofFields f (a != b) f.infinity
  | .infinity a, .finite b n => if n = 0 then nan f else ofFields f (a != b) f.infinity
  | .finite a m, .infinity b => if m = 0 then nan f else ofFields f (a != b) f.infinity
  | _, _ => nan f

/-- The rounded quotient of two finite numbers, the second not zero. -/
def div (x y : Binary f) : Binary f :=
  match x.content, y.content with
  | .finite a m, .finite b n => if n = 0 then nan f else nearest f (a != b) m n
  | _, _ => nan f

/-- The integer with the given sign and size. -/
def signed (negative : Bool) (size : Nat) : Int :=
  if negative then -size else size

/-- The rounded sum. A sum of zero is positive unless both terms are negative. -/
def add (x y : Binary f) : Binary f :=
  match x.content, y.content with
  | .finite a m, .finite b n =>
      let sum := signed a m + signed b n
      if sum = 0 then ofFields f (a && b) 0
      else nearest f (decide (sum < 0)) sum.natAbs (Nat.pow 2 f.scale)
  | .infinity a, .infinity b => if a = b then x else nan f
  | .infinity _, .finite _ _ => x
  | .finite _ _, .infinity _ => y
  | _, _ => nan f

end Binary

end GuestBridge
