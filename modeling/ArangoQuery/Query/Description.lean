import ArangoQuery.Query.Expr
import ArangoQuery.Query.Keyword

/-!
# Descriptions

The description of an expression or a record is a tree of typed records, with
every field under its two names.  Messages show it, snapshots are made from it,
and it decides when two sources are the same.  `Node.describe` describes one
level, given the descriptions of the parts; `Expr.describe` all of them.
-/

namespace ArangoQuery

def Slot.describe {α : Type} (content : α → Value) : Slot α → Value
  | .proper value => content value
  | .stray value => value

namespace Label

/-- The document that an unset expression takes fields away from. -/
def unsetDocument : Label :=
  { own := "obj", snapshot := "object" }

def isCollection : Label :=
  { own := "is_collection", snapshot := "isCollectionParam" }

end Label

namespace Description

def texts (names : List String) : Value :=
  .list (names.map .text)

def someText (name : Option String) : Value :=
  .ofOption .text name

def someInt (number : Option Int) : Value :=
  .ofOption .int number

def document (members : Document Value) : Value :=
  .map (List.map (fun (name, part) => (.text name, part)) members)

/-- The options of a traversal or a search are described as a document
expression. -/
def object (members : Document Value) : Value :=
  .model "ObjectNode"
    [(.same "type", .text "object"), (.same "fields", document members)]

def someObject (options : Option (Document Value)) : Value :=
  .ofOption object options

def range (first last : Int) : Value :=
  .model "RangeSource"
    [(.same "type", .text "range"), (.same "start", .int first),
      (.same "end", .int last)]

end Description

open Description

def GraphSource.describe (source : GraphSource Value) : Value :=
  .model "GraphSource"
    [(.same "type", .text "graph"), (.same "graph", .text source.graph),
      (.same "direction", .text source.direction.text),
      (.camel "start_vertex", .text source.startVertex),
      (.camel "min_depth", .int source.minDepth),
      (.camel "max_depth", someInt source.maxDepth),
      (.same "options", someObject source.options)]

def Source.describe : Source Value → Value
  | .text name => .text name
  | .range first last => Description.range first last
  | .graph traversal => traversal.describe

def Join.describe (join : Join Value) : Value :=
  .model "JoinClause"
    [(.same "variable", .text join.loop),
      (.same "source", .ofOption (Slot.describe Source.describe) join.source)]

/-- A named part of a clause under the names of the clause's fields. -/
def describeNamed (model : String) (nameLabel partLabel : Label)
    (member : String × Value) : Value :=
  .model model [(nameLabel, .text member.1), (partLabel, member.2)]

def describeLet : String × Value → Value :=
  describeNamed "LetClause" (.same "variable") (.same "expression")

def describeVariable : String × Value → Value :=
  describeNamed "CollectVariable" (.same "key") (.same "value")

def describeAggregate : String × Value → Value :=
  describeNamed "CollectAggregate" (.same "name") (.same "expression")

def Collect.describe (collect : Collect Value) : Value :=
  .model "CollectClause"
    [(.same "variables", .list (List.map describeVariable collect.keys)),
      (.same "into", someText collect.into),
      (.same "aggregate",
        .list (List.map describeAggregate collect.aggregates)),
      (.same "keep", .ofOption texts collect.keep)]

def SortKey.describe (key : SortKey) : Value :=
  .model "SortClause"
    [(.same "field", .text key.field),
      (.same "direction", .text key.direction.text)]

def Operation.describe (operation : Operation Value) : Value :=
  .model "OperationClause"
    [(.same "type", .text operation.kind.text),
      (.same "document", .ofOption id operation.document),
      (.same "collection",
        .ofOption (Slot.describe .text) operation.collection),
      (.same "variable", someText operation.target)]

def Upsert.describe (upsert : Upsert Value) : Value :=
  .model "UpsertClause"
    [(.same "type", .text "UPSERT"), (.camel "search_doc", upsert.search),
      (.camel "insert_doc", upsert.insert),
      (.camel "update_doc", upsert.update),
      (.same "collection", .text upsert.collection)]

def Update.describe (update : Update Value) : Value :=
  .model "UpdateEnhancedClause"
    [(.same "type", .text "UPDATE"), (.same "document", update.document),
      (.camel "update_fields", update.fields),
      (.same "collection", someText update.collection),
      (.same "variable", someText update.loop),
      (.camel "old_reference", .bool update.oldReference)]

def LoopNames.describe (loop : LoopNames) : Value :=
  .model "MultipleLoopVars"
    [(.same "vertex", .text loop.vertex), (.same "edge", someText loop.edge),
      (.same "path", someText loop.path)]

def Search.describe (search : Search Value) : Value :=
  .model "SearchClause"
    [(.same "type", .text "search"), (.same "view", .text search.view),
      (.same "conditions", .list search.conditions),
      (.same "options", someObject search.options)]

def Traversal.describe (traversal : Traversal) : Value :=
  .model "TraverseClause"
    [(.same "type", .text "traverse"), (.same "variable", .text traversal.loop),
      (.same "path", .text traversal.path),
      (.camel "min_depth", someInt traversal.minDepth),
      (.camel "max_depth", someInt traversal.maxDepth)]

def describePrune (condition : Value) : Value :=
  .model "PruneClause"
    [(.same "type", .text "prune"), (.same "condition", condition)]

def Bound.describe : Bound → Value
  | .unbounded => .text "unbounded"
  | .rows count => .int count

def Window.describe (window : Window Value) : Value :=
  .model "WindowClause"
    [(.same "type", .text "window"),
      (.same "preceding", .ofOption Bound.describe window.preceding),
      (.same "following", .ofOption Bound.describe window.following),
      (.same "aggregation", window.aggregation),
      (.same "name", someText window.name)]

/-- The members of a family, each described. -/
def describeFamily {α : Type} (describe : α → Value)
    (family : Option (List α)) : Value :=
  .ofOption (fun clauses => .list (clauses.map describe)) family

def Record.describe (record : Record Value) : Value :=
  .model "QueryRecord"
    [(.same "collection", someText record.collection),
      (.same "variable", .ofOption (Slot.describe .text) record.loop),
      (.same "source", .ofOption (Slot.describe Source.describe) record.source),
      (.same "filters", describeFamily id record.filters),
      (.camel "filters_post_collect",
        describeFamily id record.filtersAfterCollect),
      (.same "joins", describeFamily Join.describe record.joins),
      (.same "lets", describeFamily describeLet record.letsAfterCollect),
      (.camel "lets_pre_collect",
        describeFamily describeLet record.letsBeforeCollect),
      (.same "collects", describeFamily Collect.describe record.collects),
      (.same "sorts", describeFamily SortKey.describe record.sorts),
      (.camel "return_value", .ofOption id record.result),
      (.camel "return_distinct", .ofOption .bool record.distinct),
      (.count "limit", .ofOption (Slot.describe .int) record.limit),
      (.count "offset", .ofOption (Slot.describe .int) record.offset),
      (.same "operations", describeFamily Operation.describe record.operations),
      (.same "upserts", describeFamily Upsert.describe record.upserts),
      (.camel "updates_enhanced",
        describeFamily Update.describe record.updates),
      (.camel "multiple_loop_vars",
        .ofOption LoopNames.describe record.loopNames),
      (.same "searches", describeFamily Search.describe record.searches),
      (.same "traversals", describeFamily Traversal.describe record.traversals),
      (.same "prunes", describeFamily describePrune record.prunes),
      (.same "windows", describeFamily Window.describe record.windows),
      (.camel "with_collections",
        describeFamily (Slot.describe .text) record.withCollections),
      (.same "raw", someText record.raw),
      (.camel "raw_bind_vars", .ofOption document record.rawBindings)]

def Node.describe : Node Value → Value
  | .literal value =>
      .model "LiteralNode"
        [(.same "type", .text "literal"), (.same "value", value)]
  | .reference path =>
      .model "ReferenceNode"
        [(.same "type", .text "reference"), (.same "name", .text path)]
  | .parameter placeholder =>
      .model "ParameterNode"
        [(.same "type", .text "parameter"),
          (.same "name", .text placeholder.name.text),
          (.isCollection, .bool placeholder.collection)]
  | .binary operator left right =>
      .model "BinaryOp"
        [(.same "type", .text "binary"),
          (.same "operator", .text operator.text), (.same "left", left),
          (.same "right", right)]
  | .unary operator operand =>
      .model "UnaryOp"
        [(.same "type", .text "unary"),
          (.same "operator", .text operator.text), (.same "operand", operand)]
  | .call function arguments =>
      .model "FunctionCall"
        [(.same "type", .text "function"), (.same "name", .text function),
          (.same "args", .tuple arguments)]
  | .ternary condition thenValue elseValue =>
      .model "Ternary"
        [(.same "type", .text "ternary"), (.same "condition", condition),
          (.camel "then_value", thenValue), (.camel "else_value", elseValue)]
  | .like subject pattern ignoreCase =>
      .model "LikeOp"
        [(.same "type", .text "like"), (.same "expression", subject),
          (.same "pattern", .text pattern),
          (.camel "case_insensitive", .bool ignoreCase)]
  | .regex subject pattern flags =>
      .model "RegexOp"
        [(.same "type", .text "regex"), (.same "expression", subject),
          (.same "pattern", .text pattern), (.same "flags", someText flags)]
  | .old path =>
      .model "OldReference"
        [(.same "type", .text "old"), (.same "path", .text path)]
  | .quantified .all subject condition =>
      .model "AllOperator"
        [(.same "type", .text "all"), (.same "expression", subject),
          (.same "condition", condition)]
  | .quantified .any subject condition =>
      .model "AnyOperator"
        [(.same "type", .text "any"), (.same "expression", subject),
          (.same "condition", condition)]
  | .unset document fields =>
      .model "UnsetNode"
        [(.same "type", .text "unset"), (.unsetDocument, document),
          (.same "fields", .tuple (fields.map .text))]
  | .object members => Description.object members
  | .array items =>
      .model "ArrayNode"
        [(.same "type", .text "array"), (.same "items", .tuple items)]
  | .subquery query =>
      .model "SubqueryNode"
        [(.same "type", .text "subquery"), (.same "query", query.describe)]
  | .stray content => content

def Expr.describe : Expr → Value :=
  Expr.reduce Node.describe

def Query.describe (query : Query) : Value :=
  (query.map Expr.describe).describe

/-- How a source is compared and shown: by its description. -/
def Source.describeFully (source : Source Expr) : Value :=
  (source.map Expr.describe).describe

end ArangoQuery
