import ArangoQuery.Query.Clause

/-!
# One level of an expression

`Node ε` is an expression whose direct parts are of type `ε`; expressions proper
are the trees built from it.  `map` replaces the parts of a node, a clause or a
record and keeps everything else.
-/

namespace ArangoQuery

inductive BinaryOperator where
  | equal
  | notEqual
  | less
  | lessOrEqual
  | greater
  | greaterOrEqual
  | and
  | or
  | add
  | subtract
  | multiply
  | divide
  | modulo
  | isIn
  | notIn
  deriving DecidableEq, Repr

inductive UnaryOperator where
  | not
  | negate
  deriving DecidableEq, Repr

/-- Does every element satisfy a condition, or at least one? -/
inductive Quantifier where
  | all
  | any
  deriving DecidableEq, Repr

inductive Node (ε : Type) where
  /-- Data, which is never written into the query text. -/
  | literal (value : Value)
  /-- A variable or attribute path. -/
  | reference (path : String)
  /-- A bind parameter that the caller supplies. -/
  | parameter (placeholder : Placeholder)
  | binary (operator : BinaryOperator) (left right : ε)
  | unary (operator : UnaryOperator) (operand : ε)
  | call (function : String) (arguments : List ε)
  | ternary (condition thenValue elseValue : ε)
  | like (subject : ε) (pattern : String) (ignoreCase : Bool)
  | regex (subject : ε) (pattern : String) (flags : Option String)
  /-- An attribute of the previous revision of a document. -/
  | old (path : String)
  | quantified (quantifier : Quantifier) (subject condition : ε)
  | unset (document : ε) (fields : List String)
  /-- A document whose members are compiled one by one. -/
  | object (members : List (String × ε))
  | array (items : List ε)
  | subquery (query : Record ε)
  /-- Something put in the place of an expression without being one. -/
  | stray (content : Value)

variable {α β : Type}

def Document.map (f : α → β) (document : Document α) : Document β :=
  List.map (fun (name, part) => (name, f part)) document

def GraphSource.map (f : α → β) (source : GraphSource α) : GraphSource β where
  graph := source.graph
  direction := source.direction
  startVertex := source.startVertex
  minDepth := source.minDepth
  maxDepth := source.maxDepth
  options := source.options.map (Document.map f)

def Source.map (f : α → β) : Source α → Source β
  | .text name => .text name
  | .range first last => .range first last
  | .graph traversal => .graph (traversal.map f)

def Slot.map (f : α → β) : Slot α → Slot β
  | .proper content => .proper (f content)
  | .stray content => .stray content

def Join.map (f : α → β) (join : Join α) : Join β where
  loop := join.loop
  source := join.source.map (Slot.map (Source.map f))

def Collect.map (f : α → β) (collect : Collect α) : Collect β where
  keys := Document.map f collect.keys
  into := collect.into
  aggregates := Document.map f collect.aggregates
  keep := collect.keep

def Operation.map (f : α → β) (operation : Operation α) : Operation β where
  kind := operation.kind
  document := operation.document.map f
  collection := operation.collection
  target := operation.target

def Upsert.map (f : α → β) (upsert : Upsert α) : Upsert β where
  search := f upsert.search
  insert := f upsert.insert
  update := f upsert.update
  collection := upsert.collection

def Update.map (f : α → β) (update : Update α) : Update β where
  document := f update.document
  fields := f update.fields
  collection := update.collection
  loop := update.loop
  oldReference := update.oldReference

def Search.map (f : α → β) (search : Search α) : Search β where
  view := search.view
  conditions := search.conditions.map f
  options := search.options.map (Document.map f)

def Window.map (f : α → β) (window : Window α) : Window β where
  preceding := window.preceding
  following := window.following
  aggregation := f window.aggregation
  name := window.name

def Record.map (f : α → β) (record : Record α) : Record β where
  collection := record.collection
  loop := record.loop
  source := record.source.map (Slot.map (Source.map f))
  filters := record.filters.map (List.map f)
  filtersAfterCollect := record.filtersAfterCollect.map (List.map f)
  joins := record.joins.map (List.map (Join.map f))
  letsAfterCollect := record.letsAfterCollect.map (Document.map f)
  letsBeforeCollect := record.letsBeforeCollect.map (Document.map f)
  collects := record.collects.map (List.map (Collect.map f))
  sorts := record.sorts
  result := record.result.map f
  distinct := record.distinct
  limit := record.limit
  offset := record.offset
  operations := record.operations.map (List.map (Operation.map f))
  upserts := record.upserts.map (List.map (Upsert.map f))
  updates := record.updates.map (List.map (Update.map f))
  loopNames := record.loopNames
  searches := record.searches.map (List.map (Search.map f))
  traversals := record.traversals
  prunes := record.prunes.map (List.map f)
  windows := record.windows.map (List.map (Window.map f))
  withCollections := record.withCollections
  raw := record.raw
  rawBindings := record.rawBindings

def Node.map (f : α → β) : Node α → Node β
  | .literal value => .literal value
  | .reference path => .reference path
  | .parameter placeholder => .parameter placeholder
  | .binary operator left right => .binary operator (f left) (f right)
  | .unary operator operand => .unary operator (f operand)
  | .call function arguments => .call function (arguments.map f)
  | .ternary condition thenValue elseValue =>
      .ternary (f condition) (f thenValue) (f elseValue)
  | .like subject pattern ignoreCase => .like (f subject) pattern ignoreCase
  | .regex subject pattern flags => .regex (f subject) pattern flags
  | .old path => .old path
  | .quantified quantifier subject condition =>
      .quantified quantifier (f subject) (f condition)
  | .unset document fields => .unset (f document) fields
  | .object members => .object (Document.map f members)
  | .array items => .array (items.map f)
  | .subquery query => .subquery (query.map f)
  | .stray content => .stray content

end ArangoQuery
