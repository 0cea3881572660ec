import ArangoQuery.Check.Node
import ArangoQuery.Proofs.SnapshotClauses

/-!
# Where the expressions of a snapshot stand

A `Shape` says where expressions are expected in a value, and the schema of a
record or a node lists its fields in which there are any.  A position is the value
that is found in the place of an expression; what is required and missing counts
as null.  The positions inside a node depend on its tag, so those of a whole
snapshot are told level by level (`Query.HasPosition`).  Literals and the bindings
of raw texts are data, in which nothing is expected.
-/

namespace ArangoQuery

/-- Where expressions stand in a value. -/
inductive Shape where
  | expression
  /-- Null, or a value of another shape. -/
  | optional (shape : Shape)
  | list (items : Shape)
  /-- The values of a mapping. -/
  | values (members : Shape)
  /-- The fields of a typed record in which there are expressions. -/
  | fields (schema : List (Label × Shape))
  /-- One of several typed records, told by its tag. -/
  | tagged (tag : String) (shape : Shape)

namespace Value

def itemsOf : Value → List Value
  | .list items => items
  | .tuple items => items
  | _ => []

/-- Of entries with the same key only the last one counts. -/
def valuesOf : Value → List Value
  | .map entries => (entriesOf Scalar.same entries).map Prod.snd
  | _ => []

end Value

namespace Shape

mutual

/-- What stands in the place of the expressions of a value. -/
def positions : Shape → Value → List Value
  | .expression, value => [value]
  | .optional shape, value => if value.isNull then [] else positions shape value
  | .list items, value => value.itemsOf.flatMap fun item => positions items item
  | .values members, value =>
      value.valuesOf.flatMap fun member => positions members member
  | .fields schema, value =>
      match Members.ofAny? value with
      | some members => positionsOf schema members
      | none => []
  | .tagged tag shape, value =>
      if Members.tagOf? value = some tag then positions shape value else []

/-- The same in fields of the given shapes, in their order. -/
def positionsOf : List (Label × Shape) → Members → List Value
  | [], _ => []
  | (label, shape) :: rest, members =>
      positions shape ((members.find? label).getD .null) ++
        positionsOf rest members

end

/-- The options of a loop or a search are a document by themselves, whose tag may
be left out; its members are expressions. -/
def options : Shape :=
  .optional (.fields [(.same "fields", .values .expression)])

/-- Of all sources only a traversal has options. -/
def source : Shape :=
  .optional (.tagged "graph" (.fields [(.same "options", options)]))

/-- A named expression. -/
def named (label : Label) : Shape :=
  .fields [(label, .expression)]

/-- A family of clauses that may be undeclared. -/
def family (clause : Shape) : Shape :=
  .optional (.list clause)

end Shape

def Record.schema : List (Label × Shape) :=
  [(.same "source", .source),
    (.same "filters", .family .expression),
    (.camel "filters_post_collect", .family .expression),
    (.same "joins", .family (.fields [(.same "source", .source)])),
    (.same "lets", .family (.named (.same "expression"))),
    (.camel "lets_pre_collect", .family (.named (.same "expression"))),
    (.same "collects", .family (.fields
      [(.same "variables", .list (.named (.same "value"))),
        (.same "aggregate", .list (.named (.same "expression")))])),
    (.camel "return_value", .optional .expression),
    (.same "operations", .family (.fields
      [(.same "document", .optional .expression)])),
    (.same "upserts", .family (.fields
      [(.camel "search_doc", .expression), (.camel "insert_doc", .expression),
        (.camel "update_doc", .expression)])),
    (.camel "updates_enhanced", .family (.fields
      [(.same "document", .expression),
        (.camel "update_fields", .expression)])),
    (.same "searches", .family (.fields
      [(.same "conditions", .list .expression), (.same "options", .options)])),
    (.same "prunes", .family (.named (.same "condition"))),
    (.same "windows", .family (.named (.same "aggregation")))]

namespace NodeKind

/-- The fields of a node in which there are expressions. -/
def schema : NodeKind → List (Label × Shape)
  | .literal | .reference | .parameter | .old => []
  | .binary => [(.same "left", .expression), (.same "right", .expression)]
  | .unary => [(.same "operand", .expression)]
  | .call => [(.same "args", .list .expression)]
  | .ternary =>
      [(.same "condition", .expression), (.camel "then_value", .expression),
        (.camel "else_value", .expression)]
  | .like | .regex => [(.same "expression", .expression)]
  | .all | .any =>
      [(.same "expression", .expression), (.same "condition", .expression)]
  | .unset => [(.unsetDocument, .expression)]
  | .object => [(.same "fields", .values .expression)]
  | .array => [(.same "items", .list .expression)]
  | .subquery => [(.same "query", .fields Record.schema)]

end NodeKind

namespace Value

/-- The expressions expected directly in the snapshot of a record. -/
def recordPositions (value : Value) : List Value :=
  (Shape.fields Record.schema).positions value

/-- The expressions expected directly in a node. -/
def nodePositions (kind : NodeKind) (value : Value) : List Value :=
  (Shape.fields kind.schema).positions value

/-- Is the value an object with the tag of a kind of nodes, and with no key but
the names of the fields of that kind? -/
structure IsNode (kind : NodeKind) (value : Value) : Prop where
  tag : Members.tagOf? value = some kind.tag
  keys : ∃ members, Members.ofAny? value = some members ∧
    ∀ member ∈ members, ∃ label ∈ kind.labels,
      member.1 = .text label.snapshot ∨ member.1 = .text label.own

end Value

/-- What stands in the place of an expression in a snapshot, at any depth. -/
inductive Query.HasPosition (snapshot : Value) : Value → Prop
  | direct {position : Value} (hposition : position ∈ snapshot.recordPositions) :
      HasPosition snapshot position
  | inside {outer position : Value} {kind : NodeKind}
      (houter : HasPosition snapshot outer)
      (htag : Members.tagOf? outer = some kind.tag)
      (hposition : position ∈ outer.nodePositions kind) :
      HasPosition snapshot position

def Node.kind? {ε : Type} : Node ε → Option NodeKind
  | .literal _ => some .literal
  | .reference _ => some .reference
  | .parameter _ => some .parameter
  | .binary .. => some .binary
  | .unary .. => some .unary
  | .call .. => some .call
  | .ternary .. => some .ternary
  | .like .. => some .like
  | .regex .. => some .regex
  | .old _ => some .old
  | .quantified .all .. => some .all
  | .quantified .any .. => some .any
  | .unset .. => some .unset
  | .object _ => some .object
  | .array _ => some .array
  | .subquery _ => some .subquery
  | .stray _ => none

/-- The value is a node, the expression a node of its kind, and the positions
inside the value spell the parts of the expression, one for one. -/
inductive Value.Spells : Value → Expr → Prop
  | node {value : Value} {kind : NodeKind} {node : Node Expr}
      (hvalue : value.IsNode kind) (hkind : node.kind? = some kind)
      (hparts : List.Forall₂ Spells (value.nodePositions kind) node.parts) :
      Spells value (.of node)

end ArangoQuery
