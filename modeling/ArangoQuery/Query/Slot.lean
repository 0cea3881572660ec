import ArangoQuery.Query.Clause
import ArangoQuery.Value.Display

/-!
# Fields that are filled without a check

What such a field holds, whether it counts as present, and how it is written.
-/

namespace ArangoQuery

variable {ε : Type}

namespace Source

/-- An empty name is no source. -/
def isPresent : Source ε → Bool
  | .text name => name != ""
  | .range .. => true
  | .graph _ => true

end Source

namespace Slot

/-- The content of a field that takes whatever it is given: null leaves it
unset. -/
def ofValue? {α : Type} (proper? : Value → Option α) : Value → Option (Slot α)
  | .null => none
  | value =>
      match proper? value with
      | some content => some (.proper content)
      | none => some (.stray value)

def text? : Value → Option (Slot String) :=
  ofValue? fun
    | .text content => some content
    | _ => none

def count? : Value → Option (Slot Int) :=
  ofValue? fun
    | .int number => some number
    | _ => none

def isPresentSource : Option (Slot (Source ε)) → Bool
  | none => false
  | some (.proper source) => source.isPresent
  | some (.stray content) => content.isTrue

def isPresentText : Option (Slot String) → Bool
  | none => false
  | some (.proper name) => name != ""
  | some (.stray content) => content.isTrue

/-- What stands in the query text for a field that holds a text. -/
def displayText : Slot String → String
  | .proper name => name
  | .stray content => content.display

end Slot

end ArangoQuery
