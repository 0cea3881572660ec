import ArangoQuery.Number.Numeral

/-!
# Integers spelled leniently

A text may spell an integer with white space around it, with a sign, with zeros
in front, with underscores between digits and with a point and zeros behind.
Each of these is taken off by a function of its own; what remains has to be a
plain numeral.  A minus stands before the zeros in front or after them.
-/

namespace ArangoQuery.Numeral

def isSpace (character : Char) : Bool :=
  let code := character.toNat
  (9 ≤ code && code ≤ 13) || code = 32 || code = 133 || code = 160 ||
    code = 5760 || (8192 ≤ code && code ≤ 8202) || code = 8232 ||
    code = 8233 || code = 8239 || code = 8287 || code = 12288

def trim (text : List Char) : List Char :=
  ((text.dropWhile isSpace).reverse.dropWhile isSpace).reverse

/-- The text after zeros, the last of which is `last`.  Underscores among the
zeros go with them.  At the end and in front of a point the last character
stays. -/
def afterZeros (last : Char) : List Char → Option (List Char)
  | [] => some [last]
  | '.' :: rest => some (last :: '.' :: rest)
  | first :: rest =>
      if first = '0' || first = '_' then afterZeros first rest
      else if first.isDigit || first = '-' then some (first :: rest)
      else none

/-- The text without the zeros in front, if a digit starts it. -/
def withoutZeros : List Char → Option (List Char)
  | [] => none
  | first :: rest =>
      if first = '0' then afterZeros first rest
      else if first.isDigit then some (first :: rest)
      else none

/-- Takes a point off together with the zeros behind it, of which there has to
be at least one. -/
def withoutPoint (text : List Char) : List Char :=
  match text.dropWhile (· ≠ '.') with
  | '.' :: '0' :: zeros =>
      if zeros.all (· = '0') then text.takeWhile (· ≠ '.') else text
  | _ => text

/-- Takes out single underscores; two in a row and one at the end are refused. -/
def withoutUnderscores : List Char → Option (List Char)
  | [] => some []
  | ['_'] => none
  | '_' :: '_' :: _ => none
  | '_' :: rest => withoutUnderscores rest
  | character :: rest => (withoutUnderscores rest).map (character :: ·)

/-- The plain numeral that is left of a text without a sign. -/
def plain? (text : List Char) : Option (List Char) := do
  let text ← withoutZeros text
  withoutUnderscores (withoutPoint text)

/-- The integer that a text spells. -/
def spelled? (text : String) : Option Int :=
  match trim text.toList with
  | '+' :: rest => (plain? rest).bind int?
  | '-' :: rest => (plain? rest).bind fun digits => int? ('-' :: digits)
  | text => (plain? text).bind int?

end ArangoQuery.Numeral
