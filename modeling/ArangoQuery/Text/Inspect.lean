import ArangoQuery.Text.Printable

/-!
# Text shown inside messages

A message that names an offending text shows it between quotes: single ones,
unless the text has a single quote and no double one.  Backslashes, the quote
in use and characters that do not print are escaped.
-/

namespace ArangoQuery.Inspect

def hexDigits (width value : Nat) : String :=
  let digits := String.ofList (Nat.toDigits 16 value)
  String.ofList (List.replicate (width - digits.length) '0') ++ digits

/-- The shortest of the three numeric escapes that can hold the character. -/
def numericEscape (code : Nat) : String :=
  if code < 256 then "\\x" ++ hexDigits 2 code
  else if code < 65536 then "\\u" ++ hexDigits 4 code
  else "\\U" ++ hexDigits 8 code

def escapeChar (quoteMark character : Char) : String :=
  if character = quoteMark ∨ character = '\\' then
    String.ofList ['\\', character]
  else if character = '\n' then "\\n"
  else if character = '\r' then "\\r"
  else if character = '\t' then "\\t"
  else if Printable.isPrintable character then String.singleton character
  else numericEscape character.toNat

def quoteMark (characters : List Char) : Char :=
  if '\'' ∈ characters ∧ '"' ∉ characters then '"' else '\''

/-- The text as a message shows it. -/
def text (shown : String) : String :=
  let mark := quoteMark shown.toList
  String.singleton mark ++
    String.join (shown.toList.map (escapeChar mark)) ++
    String.singleton mark

end ArangoQuery.Inspect
