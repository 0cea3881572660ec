import ArangoQuery.Number.Binary64

/-!
# Shortest decimal digits

A finite number is written with the fewest decimal digits that read back as the
same number; among equally short candidates the one nearest to the number is
taken, and an exact tie goes to the even last digit.  The search is a scan of
decimal grids, coarsest first, in exact natural-number arithmetic.
-/

namespace ArangoQuery

/-- The number `digits * 10 ^ exponent`. -/
structure Decimal where
  digits : Nat
  exponent : Int
  deriving DecidableEq, Repr

namespace Binary64

/-- The three points that decide how a positive number rounds, in units of
`2 ^ exponent`: the number itself and the ends of the interval of reals that
round to it.  Both ends belong to it iff the significand is even. -/
structure Interval where
  low : Nat
  value : Nat
  high : Nat
  exponent : Int
  closed : Bool

/-- Below a power of two the neighbouring numbers are twice as dense, so there
the lower end is twice as near. -/
def interval (significand : Nat) (exponent : Int) : Interval where
  low := if significand = exponentPlace ∧ -1074 < exponent
    then 4 * significand - 1 else 4 * significand - 2
  value := 4 * significand
  high := 4 * significand + 2
  exponent := exponent - 2
  closed := significand % 2 = 0

def digitCount (value : Nat) : Nat :=
  (Nat.toDigits 10 value).length

/-- The exponent `p` with `10 ^ p ≤ numerator / denominator < 10 ^ (p + 1)`. -/
def decimalMagnitude (numerator denominator : Nat) : Int :=
  if denominator ≤ numerator then
    (digitCount (numerator / denominator) : Int) - 1
  else
    -(digitCount ((denominator + numerator - 1) / numerator - 1) : Int)

/-- The power `10 ^ exponent` as a fraction. -/
def powerOfTen (exponent : Int) : Nat × Nat :=
  match exponent with
  | .ofNat up => (Nat.pow 10 up, 1)
  | .negSucc down => (1, Nat.pow 10 (down + 1))

/-- The multiple of `10 ^ gridExponent` in the interval that is nearest to its
value, if one of the two neighbours of the value on that grid lies in it. -/
def Interval.onGrid (range : Interval) (gridExponent : Int) : Option Nat :=
  let (unitTop, unitBottom) := powerOfTen gridExponent
  let (_, binaryBottom) := ratio 1 range.exponent
  let (binaryTop, _) := ratio 1 range.exponent
  let scale := unitTop * binaryBottom
  let point (units : Nat) := units * binaryTop * unitBottom
  let inside (multiple : Nat) : Bool :=
    if range.closed then
      decide (point range.low ≤ multiple * scale) &&
        decide (multiple * scale ≤ point range.high)
    else
      decide (point range.low < multiple * scale) &&
        decide (multiple * scale < point range.high)
  let below := point range.value / scale
  let above := below + 1
  let toBelow := point range.value - below * scale
  let toAbove := above * scale - point range.value
  if inside below && inside above then
    if toBelow < toAbove then some below
    else if toAbove < toBelow then some above
    else if below % 2 = 0 then some below else some above
  else if inside below then some below
  else if inside above then some above
  else none

/-- Scans the grids for `count`, `count + 1`, … digits.  The upper neighbour may
be the next power of ten, which is written as the single digit `1`. -/
def Interval.scan (range : Interval) (magnitude : Int) :
    Nat → Nat → Decimal
  | count, 0 => ⟨range.value, range.exponent + count⟩
  | count, fuel + 1 =>
      let gridExponent := magnitude + 1 - count
      match range.onGrid gridExponent with
      | some digits =>
          if digits = Nat.pow 10 count then ⟨1, gridExponent + count⟩
          else ⟨digits, gridExponent⟩
      | none => range.scan magnitude (count + 1) fuel

/-- The shortest digits of a positive number.  Seventeen always suffice. -/
def shortest (significand : Nat) (exponent : Int) : Decimal :=
  let range := interval significand exponent
  let (numerator, denominator) := ratio significand exponent
  range.scan (decimalMagnitude numerator denominator) 1 17

end Binary64

/-- How a floating-point number is laid out in text. -/
structure NumberLayout where
  /-- The decimal point stands among or next to the digits for these positions,
  counted from the first digit; elsewhere an exponent is written. -/
  lowestPoint : Int
  highestPoint : Int
  exponentDigits : Nat
  nan : String
  infinity : String

namespace NumberLayout

def padLeft (width : Nat) (text : String) : String :=
  String.ofList (List.replicate (width - text.length) '0') ++ text

def zeros (count : Nat) : String :=
  String.ofList (List.replicate count '0')

/-- A positional number always shows at least one digit after its point. -/
def positional (digits : String) (point : Int) : String :=
  if point ≤ 0 then
    "0." ++ zeros (-point).toNat ++ digits
  else if (digits.length : Int) ≤ point then
    digits ++ zeros (point.toNat - digits.length) ++ ".0"
  else
    String.ofList (digits.toList.take point.toNat) ++ "." ++
      String.ofList (digits.toList.drop point.toNat)

def scientific (layout : NumberLayout) (digits : String) (point : Int) :
    String :=
  let first := String.ofList (digits.toList.take 1)
  let others := String.ofList (digits.toList.drop 1)
  let exponent := point - 1
  first ++ (if others = "" then "" else "." ++ others) ++ "e" ++
    (if exponent < 0 then "-" else "+") ++
    padLeft layout.exponentDigits (toString exponent.natAbs)

def decimal (layout : NumberLayout) (value : Decimal) : String :=
  let digits := toString value.digits
  let point := value.exponent + digits.length
  if layout.lowestPoint ≤ point ∧ point ≤ layout.highestPoint then
    positional digits point
  else
    layout.scientific digits point

def text (layout : NumberLayout) (number : Binary64) : String :=
  match number.reading with
  | .nan => layout.nan
  | .infinite isNegative => (if isNegative then "-" else "") ++ layout.infinity
  | .finite isNegative significand exponent =>
      (if isNegative then "-" else "") ++
        if significand = 0 then "0.0"
        else layout.decimal (Binary64.shortest significand exponent)

/-- Numbers in messages and in names made from numbers. -/
def display : NumberLayout := ⟨-3, 16, 2, "nan", "inf"⟩

/-- Numbers in JSON text, which the non-finite ones extend by three words. -/
def json : NumberLayout := ⟨-3, 16, 2, "NaN", "Infinity"⟩

end NumberLayout

end ArangoQuery
