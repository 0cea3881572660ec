import ArangoQuery.Check.Checked
import ArangoQuery.Number.Spelling
import ArangoQuery.Text.Name

/-!
# Checks of single fields

What a field of each type accepts.  Numbers and truth values are read leniently:
also from the other's values and from texts that spell them.
-/

namespace ArangoQuery

namespace Check

def text : Value → Checked String
  | .text value => .ok value
  | _ => .rejected 1

/-- A word of a closed vocabulary. -/
def word {α : Type} (ofText? : String → Option α) : Value → Checked α
  | .text value => .ofOption (ofText? value)
  | _ => .rejected 1

/-- A fixed text. -/
def exactly (expected : String) : Value → Checked Unit :=
  word fun given => if given = expected then some () else none

def name : Value → Checked ParameterName :=
  word ParameterName.of?

/-- An integral floating-point number that a signed word of 64 bits can hold. -/
def wholeNumber (value : Binary64) : Option Int :=
  let bound : Int := 0x8000000000000000
  value.toInt?.filter fun number => -bound < number && number < bound

def int : Value → Checked Int
  | .int value => .ok value
  | .bool value => .ok (if value then 1 else 0)
  | .float value => .ofOption (wholeNumber value)
  | .text value => .ofOption (Numeral.spelled? value)
  | _ => .rejected 1

def trueWords : List String := ["1", "on", "t", "true", "y", "yes"]

def falseWords : List String := ["0", "off", "f", "false", "n", "no"]

/-- A truth value as a text may spell it, in letters of any case. -/
def spelledBool (text : String) : Option Bool :=
  let lower := String.ofList (text.toList.map Char.toLower)
  if trueWords.contains lower then some true
  else if falseWords.contains lower then some false
  else none

/-- The truth value that a number stands for. -/
def boolOfInt : Option Int → Checked Bool
  | some 0 => .ok false
  | some 1 => .ok true
  | _ => .rejected 1

def bool : Value → Checked Bool
  | .bool value => .ok value
  | .int value => boolOfInt (some value)
  | .float value => boolOfInt value.toInt?
  | .text value => .ofOption (spelledBool value)
  | _ => .rejected 1

/-- Null, or what `check` accepts. -/
def nullable {α : Type} (check : Value → Checked α) :
    Value → Checked (Option α)
  | .null => .ok none
  | value => (check value).map some

def listOf {α : Type} (check : Value → Checked α) : Value → Checked (List α)
  | .list items => .traverse check items
  | .tuple items => .traverse check items
  | _ => .rejected 1

/-- One entry of a mapping whose keys have to be texts. -/
def entry {α : Type} (check : Value → Checked α) :
    Scalar × Value → Checked (String × α)
  | (.text key, value) => (check value).map fun value => (key, value)
  | (_, value) => .rejected ((check value).faults + 1)

/-- Every entry is checked, also one whose key is given again; the last one
gives the value. -/
def mapOf {α : Type} (check : Value → Checked α) :
    Value → Checked (List (String × α))
  | .map entries => (Checked.traverse (entry check) entries).map (entriesOf (· == ·))
  | _ => .rejected 1

def anything (value : Value) : Checked Value :=
  .ok value.withoutRepeats

end Check

/-- The contents of a typed record, to be read field by field.  Of members with
the same key only the last one counts. -/
abbrev Members := List (Scalar × Value)

namespace Members

/-- A field is looked up under its snapshot name first. -/
def find? (members : Members) (label : Label) : Option Value :=
  match lookupEntry Scalar.same (.text label.snapshot) members with
  | some value => some value
  | none => lookupEntry Scalar.same (.text label.own) members

def required {α : Type} (members : Members) (label : Label)
    (check : Value → Checked α) : Checked α :=
  match members.find? label with
  | some value => check value
  | none => .rejected 1

def withDefault {α : Type} (members : Members) (label : Label) (default : α)
    (check : Value → Checked α) : Checked α :=
  match members.find? label with
  | some value => check value
  | none => .ok default

def optional {α : Type} (members : Members) (label : Label)
    (check : Value → Checked α) : Checked (Option α) :=
  members.withDefault label none (Check.nullable check)

/-- The number of members that no field has looked at. -/
def unknown (members : Members) (labels : List Label) : Nat :=
  members.length - (labels.filter fun label => (members.find? label).isSome).length

/-- The contents of a mapping, or of a record that has the given type
already. -/
def ofValue? (name : String) : Value → Option Members
  | .map entries => some (entriesOf Scalar.same entries)
  | .model given fields =>
      if given = name then
        some (fields.map fun (label, value) => (.text label.own, value))
      else none
  | _ => none

/-- The contents of a mapping or of a typed record of any type. -/
def ofAny? : Value → Option Members
  | .map entries => some (entriesOf Scalar.same entries)
  | .model _ fields =>
      some (fields.map fun (label, value) => (.text label.own, value))
  | _ => none

/-- The tag that tells alternatives apart. -/
def tagOf? (value : Value) : Option String :=
  match (ofAny? value).bind fun members => members.find? (.same "type") with
  | some (.text tag) => some tag
  | _ => none

end Members

namespace Check

/-- Checks a typed record with the given fields, and that it has no others. -/
def model {α : Type} (name : String) (labels : List Label)
    (check : Members → Checked α) (value : Value) : Checked α :=
  match Members.ofValue? name value with
  | some members => (check members).withFaults (members.unknown labels)
  | none => .rejected 1

end Check

end ArangoQuery
