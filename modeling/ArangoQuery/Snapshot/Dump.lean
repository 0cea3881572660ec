import ArangoQuery.Query.Description
import ArangoQuery.Value.Display
import ArangoQuery.Value.Equality

/-!
# Snapshots

A snapshot is the description of a record turned into plain data: typed records
become mappings under their snapshot names, tuples become lists, and keys become
texts.  Numbers that JSON does not have become null.  In a snapshot proper the
unset fields of typed records are left out; nulls inside literal data stay.
-/

namespace ArangoQuery

/-- Which fields of typed records a dump shows. -/
inductive Coverage where
  | everyField
  | setFields
  deriving DecidableEq

namespace Scalar

def dump : Scalar → Scalar
  | .float value => if value.isFinite then .float value else .null
  | scalar => scalar

/-- The text that stands for a key. -/
def dumpKey : Scalar → String
  | .bool value => if value then "true" else "false"
  | key => key.display

end Scalar

namespace Value

def isNull : Value → Bool
  | .scalar .null => true
  | _ => false

/-- The content of a field that counts something. -/
def asCount : Value → Value
  | .bool value => .int (if value then 1 else 0)
  | value => value

mutual

/-- Plain data for a value, unless a part of it has no data form. -/
def dump? (coverage : Coverage) : Value → Option Value
  | .scalar value => some (.scalar value.dump)
  | .list items => (dumpList? coverage items).map .list
  | .tuple items => (dumpList? coverage items).map .list
  | .map entries =>
      (dumpEntries? coverage entries).map fun entries =>
        .map (entriesOf Scalar.same entries)
  | .model _ fields => (dumpFields? coverage fields).map .map
  | .foreign .. => none

def dumpList? (coverage : Coverage) : List Value → Option (List Value)
  | [] => some []
  | value :: rest => do
      let value ← dump? coverage value
      let rest ← dumpList? coverage rest
      return value :: rest

def dumpEntries? (coverage : Coverage) :
    List (Scalar × Value) → Option (List (Scalar × Value))
  | [] => some []
  | (key, value) :: rest => do
      let value ← dump? coverage value
      let rest ← dumpEntries? coverage rest
      return (.text key.dumpKey, value) :: rest

def dumpFields? (coverage : Coverage) :
    List (Label × Value) → Option (List (Scalar × Value))
  | [] => some []
  | (label, value) :: rest =>
      if coverage = .setFields && value.isNull then dumpFields? coverage rest
      else do
        let value ← dump? coverage value
        let rest ← dumpFields? coverage rest
        return (.text label.snapshot,
          if label.isCount then value.asCount else value) :: rest

end

end Value

/-- The snapshot of a record. -/
def Query.snapshot? (query : Query) : Option Value :=
  (Query.describe query).dump? .setFields

end ArangoQuery
