/-!
# Binary floating-point numbers as exact dyadic fractions

A literal may be a 64-bit floating-point number.  It is kept as its bit
pattern, so equality of values is equality of bits, and every question that the
library asks about it (is it integral, is it equal to an integer, what are its
shortest digits) is answered in exact integer arithmetic on its decoded form.
-/

namespace ArangoQuery

/-- A floating-point number of the 64-bit binary interchange format. -/
structure Binary64 where
  bits : UInt64
  deriving DecidableEq, Repr, Inhabited

namespace Binary64

/-- What a bit pattern stands for.  A finite number is
`± significand * 2 ^ exponent`. -/
inductive Reading where
  | nan
  | infinite (negative : Bool)
  | finite (negative : Bool) (significand : Nat) (exponent : Int)
  deriving DecidableEq, Repr

/-- The place value of the sign bit, the 63rd power of two. -/
def signPlace : Nat := 0x8000000000000000

/-- The place value of the exponent field, the 52nd power of two. -/
def exponentPlace : Nat := 0x10000000000000

def negative (number : Binary64) : Bool :=
  decide (signPlace ≤ number.bits.toNat)

def exponentField (number : Binary64) : Nat :=
  number.bits.toNat / exponentPlace % 2048

def fractionField (number : Binary64) : Nat :=
  number.bits.toNat % exponentPlace

/-- The exponent field `0` marks the subnormal numbers, which lack the leading
one of the significand; the largest field marks infinities and NaNs. -/
def reading (number : Binary64) : Reading :=
  if number.exponentField = 2047 then
    if number.fractionField = 0 then .infinite number.negative else .nan
  else if number.exponentField = 0 then
    .finite number.negative number.fractionField (-1074)
  else
    .finite number.negative (exponentPlace + number.fractionField)
      (number.exponentField - 1075)

def isNaN (number : Binary64) : Bool :=
  number.reading = .nan

def isFinite (number : Binary64) : Bool :=
  match number.reading with
  | .finite .. => true
  | _ => false

def isZero (number : Binary64) : Bool :=
  match number.reading with
  | .finite _ significand _ => significand = 0
  | _ => false

/-- The two factors `(p, q)` with `significand * 2 ^ exponent = p / q`. -/
def ratio (significand : Nat) (exponent : Int) : Nat × Nat :=
  match exponent with
  | .ofNat up => (significand * Nat.pow 2 up, 1)
  | .negSucc down => (significand, Nat.pow 2 (down + 1))

/-- Numerical equality: a NaN equals nothing and the two zeros are equal. -/
def same (left right : Binary64) : Bool :=
  !left.isNaN && !right.isNaN &&
    (left == right || left.isZero && right.isZero)

def signed (isNegative : Bool) (magnitude : Nat) : Int :=
  if isNegative then -(magnitude : Int) else magnitude

/-- The integer that the number is equal to, if it is integral. -/
def toInt? (number : Binary64) : Option Int :=
  match number.reading with
  | .finite isNegative significand exponent =>
      let (numerator, denominator) := ratio significand exponent
      if numerator % denominator = 0 then
        some (signed isNegative (numerator / denominator))
      else
        none
  | _ => none

/-- Is the number smaller than an integer?  Never so for a NaN. -/
def ltInt (number : Binary64) (bound : Int) : Bool :=
  match number.reading with
  | .nan => false
  | .infinite isNegative => isNegative
  | .finite isNegative significand exponent =>
      let (numerator, denominator) := ratio significand exponent
      decide (signed isNegative numerator < bound * denominator)

def pack (isNegative : Bool) (rest : Nat) : Binary64 :=
  ⟨UInt64.ofNat ((if isNegative then signPlace else 0) + rest)⟩

def infinity (isNegative : Bool) : Binary64 :=
  pack isNegative (2047 * exponentPlace)

def nan : Binary64 :=
  pack false (2047 * exponentPlace + exponentPlace / 2)

def zero (isNegative : Bool) : Binary64 :=
  pack isNegative 0

/-- The nearest integer to `numerator / denominator`; of two equally near ones
the even one. -/
def roundHalfEven (numerator denominator : Nat) : Nat :=
  let quotient := numerator / denominator
  let twice := 2 * (numerator % denominator)
  if twice < denominator then quotient
  else if denominator < twice then quotient + 1
  else if quotient % 2 = 0 then quotient else quotient + 1

/-- The fraction `numerator / denominator` counted in units of `2 ^ exponent`. -/
def inUnits (numerator denominator : Nat) (exponent : Int) : Nat × Nat :=
  match exponent with
  | .ofNat up => (numerator, denominator * Nat.pow 2 up)
  | .negSucc down => (numerator * Nat.pow 2 (down + 1), denominator)

/-- The number nearest to a fraction, ties to an even significand; a fraction
beyond the largest finite number becomes an infinity. -/
def ofFraction (isNegative : Bool) (numerator denominator : Nat) : Binary64 :=
  if numerator = 0 then zero isNegative
  else
    let estimate : Int := (numerator.log2 : Int) - denominator.log2 - 53
    let (top, bottom) := inUnits numerator denominator estimate
    let normal :=
      if 2 * exponentPlace * bottom ≤ top then estimate + 1 else estimate
    let exponent := max normal (-1074)
    let (top, bottom) := inUnits numerator denominator exponent
    let rounded := roundHalfEven top bottom
    let (significand, exponent) :=
      if rounded = 2 * exponentPlace then (exponentPlace, exponent + 1)
      else (rounded, exponent)
    if 971 < exponent then infinity isNegative
    else if significand < exponentPlace then pack isNegative significand
    else pack isNegative
      ((exponent + 1075).toNat * exponentPlace + (significand - exponentPlace))

/-- The number nearest to `digits * 10 ^ exponent`.  Exponents far outside the
range of the format are answered without computing the power. -/
def ofDecimal (isNegative : Bool) (digits : Nat) (exponent : Int) : Binary64 :=
  let width : Int := (Nat.toDigits 10 digits).length
  if digits = 0 then zero isNegative
  else if 400 < width + exponent then infinity isNegative
  else if width + exponent < -400 then zero isNegative
  else match exponent with
    | .ofNat up => ofFraction isNegative (digits * Nat.pow 10 up) 1
    | .negSucc down => ofFraction isNegative digits (Nat.pow 10 (down + 1))

/-- The number nearest to an integer, unless the integer is too large. -/
def ofInt? (value : Int) : Option Binary64 :=
  let rounded := ofFraction (decide (value < 0)) value.natAbs 1
  if rounded.isFinite then some rounded else none

def ofFloat (value : Float) : Binary64 :=
  ⟨value.toBits⟩

def toFloat (number : Binary64) : Float :=
  Float.ofBits number.bits

def sub (left right : Binary64) : Binary64 :=
  ofFloat (left.toFloat - right.toFloat)

def mul (left right : Binary64) : Binary64 :=
  ofFloat (left.toFloat * right.toFloat)

def one : Binary64 :=
  pack false (1023 * exponentPlace)

end Binary64

end ArangoQuery
