/-!
# Plain decimal numerals

A plain numeral is an optional minus and decimal digits without a superfluous
zero in front.  Numerals are read up to a certain length only, the minus
included, so that no text makes the reader build a number of arbitrary size.
-/

namespace ArangoQuery.Numeral

/-- The longest numeral that stands for an integer in foreign text. -/
def maxLength : Nat := 4300

def digitsValue (digits : List Char) : Nat :=
  digits.foldl (fun value digit => 10 * value + (digit.toNat - 48)) 0

/-- Splits at most `room` digits off a text: a single zero, or digits that do
not start with one. -/
def readWhole (room : Nat) (text : List Char) :
    Option (List Char × List Char) :=
  match text with
  | '0' :: rest => some (['0'], rest)
  | first :: _ =>
      let digits := text.takeWhile Char.isDigit
      if first.isDigit && digits.length ≤ room then
        some (digits, text.dropWhile Char.isDigit)
      else none
  | [] => none

/-- The value of a text that has no sign. -/
def nat? (room : Nat) (text : List Char) : Option Nat :=
  match readWhole room text with
  | some (digits, []) => some (digitsValue digits)
  | _ => none

def int? : List Char → Option Int
  | '-' :: digits => (nat? (maxLength - 1) digits).map fun value => -(value : Int)
  | digits => (nat? maxLength digits).map fun value => (value : Int)

end ArangoQuery.Numeral
