import ArangoQuery.Text.Name
import ArangoQuery.Value.Basic

/-!
# Clauses and records

A query is declared clause by clause and kept in a `Record`.  All types here are
parametric in the type `ε` of the expressions that they contain, so that what is
done to a record can be said without saying what is done to its expressions.

Most fields are checked when they are filled.  A few are filled by builder calls
that accept anything; those are `Slot`s, which hold either a proper content or a
stray value.
-/

namespace ArangoQuery

/-- A field that is filled without a check. -/
inductive Slot (α : Type) where
  | proper (content : α)
  | stray (content : Value)

inductive Direction where
  | outbound
  | inbound
  | any
  deriving DecidableEq, Repr

/-- A traversal of a named graph from a start vertex. -/
structure GraphSource (ε : Type) where
  graph : String
  direction : Direction
  startVertex : String
  minDepth : Int
  maxDepth : Option Int
  options : Option (List (String × ε))

/-- What a loop iterates over.  A text is the name of a collection or of a view,
or the placeholder of a bind parameter. -/
inductive Source (ε : Type) where
  | text (name : String)
  | range (first last : Int)
  | graph (traversal : GraphSource ε)

/-- A loop nested in the main one. -/
structure Join (ε : Type) where
  loop : String
  source : Option (Slot (Source ε))

/-- A grouping step: every key is a name with the expression that is grouped
by. -/
structure Collect (ε : Type) where
  keys : List (String × ε)
  into : Option String
  aggregates : List (String × ε)
  keep : Option (List String)

inductive SortDirection where
  | ascending
  | descending
  deriving DecidableEq, Repr

structure SortKey where
  field : String
  direction : SortDirection
  deriving DecidableEq

inductive OperationKind where
  | insert
  | replace
  | remove
  | update
  deriving DecidableEq, Repr

/-- The modification of a single document. -/
structure Operation (ε : Type) where
  kind : OperationKind
  document : Option ε
  collection : Option (Slot String)
  target : Option String

structure Upsert (ε : Type) where
  search : ε
  insert : ε
  update : ε
  collection : String

/-- An update that may look at the previous revision of its document. -/
structure Update (ε : Type) where
  document : ε
  fields : ε
  collection : Option String
  loop : Option String
  oldReference : Bool

/-- The variables of a traversal loop. -/
structure LoopNames where
  vertex : String
  edge : Option String
  path : Option String
  deriving DecidableEq

structure Search (ε : Type) where
  view : String
  conditions : List ε
  options : Option (List (String × ε))

structure Traversal where
  loop : String
  path : String
  minDepth : Option Int
  maxDepth : Option Int
  deriving DecidableEq

/-- How far a window reaches in one direction. -/
inductive Bound where
  | unbounded
  | rows (count : Int)
  deriving DecidableEq, Repr

structure Window (ε : Type) where
  preceding : Option Bound
  following : Option Bound
  aggregation : ε
  name : Option String

/-- Everything that a query declares.  A field stays `none` until it is used;
an empty list is a declared family without members. -/
structure Record (ε : Type) where
  collection : Option String := none
  loop : Option (Slot String) := none
  source : Option (Slot (Source ε)) := none
  filters : Option (List ε) := none
  filtersAfterCollect : Option (List ε) := none
  joins : Option (List (Join ε)) := none
  letsAfterCollect : Option (List (String × ε)) := none
  letsBeforeCollect : Option (List (String × ε)) := none
  collects : Option (List (Collect ε)) := none
  sorts : Option (List SortKey) := none
  result : Option ε := none
  distinct : Option Bool := none
  limit : Option (Slot Int) := none
  offset : Option (Slot Int) := none
  operations : Option (List (Operation ε)) := none
  upserts : Option (List (Upsert ε)) := none
  updates : Option (List (Update ε)) := none
  loopNames : Option LoopNames := none
  searches : Option (List (Search ε)) := none
  traversals : Option (List Traversal) := none
  prunes : Option (List ε) := none
  windows : Option (List (Window ε)) := none
  withCollections : Option (List (Slot String)) := none
  raw : Option String := none
  rawBindings : Option (List (String × Value)) := none

instance {ε : Type} : Inhabited (Record ε) := ⟨{}⟩

/-- Named parts in order: the members of a document, the variables of a grouping,
or the declarations of a query. -/
abbrev Document (ε : Type) := List (String × ε)

/-- New conditions and variables go before the first grouping or after it. -/
inductive Phase where
  | beforeCollect
  | afterCollect
  deriving DecidableEq, Repr

namespace Record

variable {ε : Type}

/-- The members of a family of clauses, whether or not it has been declared. -/
def members {α : Type} (family : Option (List α)) : List α :=
  family.getD []

def phase (record : Record ε) : Phase :=
  if (members record.collects).isEmpty then .beforeCollect else .afterCollect

/-- Adds a clause to the end of its family, which is declared by that. -/
def append {α : Type} (family : Option (List α)) (clause : α) :
    Option (List α) :=
  some (members family ++ [clause])

end Record

namespace LoopNames

/-- The names in use, in the order vertex, edge, path. -/
def names (loop : LoopNames) : List String :=
  ([some loop.vertex, loop.edge, loop.path].filterMap id).filter (· != "")

end LoopNames

end ArangoQuery
