import ArangoQuery.Number.Binary64

/-!
# Literal values

The data that a query carries: scalars, lists, tuples and mappings with scalar
keys, nested freely.  Two further leaves let messages, equality and snapshots
speak of everything a caller may hand over: a `model` is a typed record of the
library described field by field, and a `foreign` value has no data form at all.
-/

namespace ArangoQuery

inductive Scalar where
  | null
  | bool (value : Bool)
  | int (value : Int)
  | float (value : Binary64)
  | text (value : String)
  deriving DecidableEq, Repr, Inhabited

/-- The two names of a record field: its own, used in messages, and the one it
goes by in snapshots.  A field that counts something shows a truth value as 0 or
1 in snapshots. -/
structure Label where
  own : String
  snapshot : String
  isCount : Bool := false
  deriving DecidableEq, Repr

inductive Value where
  | scalar (value : Scalar)
  | list (items : List Value)
  | tuple (items : List Value)
  | map (entries : List (Scalar × Value))
  | model (name : String) (fields : List (Label × Value))
  | foreign (kind shown : String)
  deriving Inhabited

namespace Value

@[match_pattern] abbrev null : Value := .scalar .null
@[match_pattern] abbrev bool (value : Bool) : Value := .scalar (.bool value)
@[match_pattern] abbrev int (value : Int) : Value := .scalar (.int value)
@[match_pattern] abbrev float (value : Binary64) : Value := .scalar (.float value)
@[match_pattern] abbrev text (value : String) : Value := .scalar (.text value)

def ofOption {α : Type} (describe : α → Value) : Option α → Value
  | none => .null
  | some value => describe value

/-- A mapping with texts as its keys. -/
def ofFields (fields : List (String × Value)) : Value :=
  .map (fields.map fun (name, value) => (.text name, value))

end Value

namespace Label

/-- Upper-cases the first letter of every part after an underscore. -/
def camelChars : List Char → List Char
  | '_' :: letter :: rest => letter.toUpper :: camelChars rest
  | letter :: rest => letter :: camelChars rest
  | [] => []

/-- Snapshots write `min_depth` as `minDepth`. -/
def camel (own : String) : Label :=
  { own, snapshot := String.ofList (camelChars own.toList) }

def same (name : String) : Label :=
  { own := name, snapshot := name }

def count (name : String) : Label :=
  { own := name, snapshot := name, isCount := true }

end Label

namespace Scalar

def isTrue : Scalar → Bool
  | .null => false
  | .bool value => value
  | .int value => value != 0
  | .float value => !value.isZero
  | .text value => value != ""

def typeName : Scalar → String
  | .null => "NoneType"
  | .bool _ => "bool"
  | .int _ => "int"
  | .float _ => "float"
  | .text _ => "str"

end Scalar

namespace Value

/-- Empty containers, zeros, `false`, null and the empty text count as absent
wherever a field is merely tested for presence. -/
def isTrue : Value → Bool
  | .scalar value => value.isTrue
  | .list items => !items.isEmpty
  | .tuple items => !items.isEmpty
  | .map entries => !entries.isEmpty
  | .model .. => true
  | .foreign .. => true

def typeName : Value → String
  | .scalar value => value.typeName
  | .list _ => "list"
  | .tuple _ => "tuple"
  | .map _ => "dict"
  | .model name _ => name
  | .foreign kind _ => kind

mutual

/-- The number of nested levels. -/
def depth : Value → Nat
  | .scalar _ => 1
  | .list items => depthList items + 1
  | .tuple items => depthList items + 1
  | .map entries => depthEntries entries + 1
  | .model _ fields => depthFields fields + 1
  | .foreign .. => 1

def depthList : List Value → Nat
  | [] => 0
  | value :: rest => max (depth value) (depthList rest)

def depthEntries : List (Scalar × Value) → Nat
  | [] => 0
  | (_, value) :: rest => max (depth value) (depthEntries rest)

def depthFields : List (Label × Value) → Nat
  | [] => 0
  | (_, value) :: rest => max (depth value) (depthFields rest)

end

mutual

/-- Can the value serve as the key of a mapping? -/
def isHashable : Value → Bool
  | .scalar _ => true
  | .list _ => false
  | .tuple items => areHashable items
  | .map _ => false
  | .model .. => false
  | .foreign .. => true

def areHashable : List Value → Bool
  | [] => true
  | value :: rest => isHashable value && areHashable rest

end

end Value

/-- Sets a key of an association list: an equal key keeps its place and its
spelling and takes the new value, a new key goes to the end. -/
def putEntry {κ α : Type} (same : κ → κ → Bool) (key : κ) (value : α) :
    List (κ × α) → List (κ × α)
  | [] => [(key, value)]
  | (other, old) :: rest =>
      if same other key then (other, value) :: rest
      else (other, old) :: putEntry same key value rest

/-- Enters all pairs in order into an empty association list. -/
def entriesOf {κ α : Type} (same : κ → κ → Bool) (pairs : List (κ × α)) :
    List (κ × α) :=
  pairs.foldl (fun entries (key, value) => putEntry same key value entries) []

def lookupEntry {κ α : Type} (same : κ → κ → Bool) (key : κ) :
    List (κ × α) → Option α
  | [] => none
  | (other, value) :: rest =>
      if same other key then some value else lookupEntry same key rest

end ArangoQuery
