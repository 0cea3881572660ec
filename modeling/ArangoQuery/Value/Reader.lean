import ArangoQuery.Number.Numeral
import ArangoQuery.Text.Quoted
import ArangoQuery.Value.Basic

/-!
# Reading JSON text

A strict reader: no comments, no trailing commas, no leading zeros, nothing
after the value but blanks.  The words `NaN`, `Infinity` and `-Infinity` are
numbers.  Members keep their order, also those whose key is given again.  A
number with a fraction or an exponent is a floating-point number, any other one
an integer.  The integer part of a number, its minus included, has at most
`longest` characters.
-/

namespace ArangoQuery.JsonReader

open Numeral (digitsValue readWhole)

def isBlank (character : Char) : Bool :=
  character = ' ' || character = '\n' || character = '\r' || character = '\t'

def skipBlanks (text : List Char) : List Char :=
  text.dropWhile isBlank

/-- The digits after a point, of which there is at least one. -/
def readFraction (text : List Char) :
    Option (Option (List Char) × List Char) :=
  match text with
  | '.' :: rest =>
      match rest.takeWhile Char.isDigit with
      | [] => none
      | digits => some (some digits, rest.dropWhile Char.isDigit)
  | _ => some (none, text)

def readExponentDigits (isNegative : Bool) (text : List Char) :
    Option (Option Int × List Char) :=
  match text.takeWhile Char.isDigit with
  | [] => none
  | digits =>
      some (some (Binary64.signed isNegative (digitsValue digits)),
        text.dropWhile Char.isDigit)

def readExponent (text : List Char) : Option (Option Int × List Char) :=
  match text with
  | mark :: rest =>
      if mark = 'e' ∨ mark = 'E' then
        match rest with
        | '+' :: digits => readExponentDigits false digits
        | '-' :: digits => readExponentDigits true digits
        | digits => readExponentDigits false digits
      else some (none, text)
  | [] => some (none, text)

def readMagnitude (room : Nat) (isNegative : Bool) (text : List Char) :
    Option (Scalar × List Char) := do
  let (whole, text) ← readWhole room text
  let (fraction, text) ← readFraction text
  let (exponent, text) ← readExponent text
  match fraction, exponent with
  | none, none =>
      return (.int (Binary64.signed isNegative (digitsValue whole)), text)
  | fraction, exponent =>
      let decimals := fraction.getD []
      return (.float (Binary64.ofDecimal isNegative
        (digitsValue (whole ++ decimals))
        (exponent.getD 0 - decimals.length)), text)

/-- The rest of the text after a word. -/
def afterWord? : List Char → List Char → Option (List Char)
  | [], text => some text
  | letter :: word, character :: text =>
      if letter = character then afterWord? word text else none
  | _ :: _, [] => none

def readWord (word : String) (value : Scalar) (text : List Char) :
    Option (Value × List Char) :=
  (afterWord? word.toList text).map fun rest => (.scalar value, rest)

def readScalar (longest : Nat) (text : List Char) :
    Option (Value × List Char) :=
  match text with
  | 'n' :: _ => readWord "null" .null text
  | 't' :: _ => readWord "true" (.bool true) text
  | 'f' :: _ => readWord "false" (.bool false) text
  | 'N' :: _ => readWord "NaN" (.float .nan) text
  | 'I' :: _ => readWord "Infinity" (.float (.infinity false)) text
  | '-' :: 'I' :: rest =>
      readWord "Infinity" (.float (.infinity true)) ('I' :: rest)
  | '"' :: rest =>
      (Quoted.readBody rest).map fun (characters, rest) =>
        (.text (String.ofList characters), rest)
  | '-' :: rest =>
      (readMagnitude (longest - 1) true rest).map fun (number, rest) =>
        (.scalar number, rest)
  | text =>
      (readMagnitude longest false text).map fun (number, rest) =>
        (.scalar number, rest)

mutual

/-- Reads one value.  Every step consumes a character, so a fuel of one more
than the length of the text is never used up. -/
def readValue (longest : Nat) : Nat → List Char → Option (Value × List Char)
  | 0, _ => none
  | fuel + 1, text =>
      match skipBlanks text with
      | '[' :: rest =>
          match skipBlanks rest with
          | ']' :: rest => some (.list [], rest)
          | rest =>
              (readItems longest fuel rest).map fun (items, rest) =>
                (.list items, rest)
      | '{' :: rest =>
          match skipBlanks rest with
          | '}' :: rest => some (.map [], rest)
          | rest =>
              (readMembers longest fuel rest).map fun (members, rest) =>
                (.map members, rest)
      | text => readScalar longest text

def readItems (longest : Nat) :
    Nat → List Char → Option (List Value × List Char)
  | 0, _ => none
  | fuel + 1, text =>
      match readValue longest fuel text with
      | none => none
      | some (item, rest) =>
          match skipBlanks rest with
          | ',' :: rest =>
              (readItems longest fuel rest).map fun (items, rest) =>
                (item :: items, rest)
          | ']' :: rest => some ([item], rest)
          | _ => none

def readMembers (longest : Nat) :
    Nat → List Char → Option (List (Scalar × Value) × List Char)
  | 0, _ => none
  | fuel + 1, text =>
      match skipBlanks text with
      | '"' :: rest =>
          match Quoted.readBody rest with
          | none => none
          | some (key, rest) =>
              match skipBlanks rest with
              | ':' :: rest =>
                  match readValue longest fuel rest with
                  | none => none
                  | some (value, rest) =>
                      let member := (.text (String.ofList key), value)
                      match skipBlanks rest with
                      | ',' :: rest =>
                          (readMembers longest fuel rest).map fun (members, rest) =>
                            (member :: members, rest)
                      | '}' :: rest => some ([member], rest)
                      | _ => none
              | _ => none
      | _ => none

end

end JsonReader

namespace Value

/-- The value that a JSON text stands for, if it is one. -/
def ofJson? (longest : Nat) (text : String) : Option Value :=
  let characters := text.toList
  match JsonReader.readValue longest (characters.length + 1) characters with
  | some (value, rest) =>
      if JsonReader.skipBlanks rest = [] then some value else none
  | none => none

end Value

end ArangoQuery
