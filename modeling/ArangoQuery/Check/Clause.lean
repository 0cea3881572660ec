import ArangoQuery.Check.Field
import ArangoQuery.Query.Expr
import ArangoQuery.Query.Keyword

/-!
# Checks of clauses, nodes and records

Each check reads one typed record from plain data, given the check `sub` for the
expressions in it.  A field is found under its snapshot name or its own name, an
undeclared field is a fault, and all faults are counted.
-/

namespace ArangoQuery

open Check

variable {ε : Type}

/-- The fixed tag of a typed record, which may be left out. -/
def Members.tag (members : Members) (tag : String) : Checked Unit :=
  members.withDefault (.same "type") () (exactly tag)

/-- A document given as an expression of its own. -/
def Document.check (sub : Value → Checked ε) : Value → Checked (Document ε) :=
  model "ObjectNode" [.same "type", .same "fields"] fun members =>
    (fun _ fields => fields) <$> members.tag "object" <*>
      members.withDefault (.same "fields") [] (mapOf sub)

namespace Source

def checkRange : Value → Checked (Source ε) :=
  model "RangeSource" [.same "type", .same "start", .same "end"]
    fun members =>
      (fun _ first last => .range first last) <$> members.tag "range" <*>
        members.required (.same "start") int <*>
        members.required (.same "end") int

def checkGraph (sub : Value → Checked ε) : Value → Checked (Source ε) :=
  model "GraphSource"
    [.same "type", .same "graph", .same "direction", .camel "start_vertex",
      .camel "min_depth", .camel "max_depth", .same "options"]
    fun members =>
      (fun _ graph direction startVertex minDepth maxDepth options =>
          .graph
            { graph, direction, startVertex, minDepth, maxDepth, options }) <$>
        members.tag "graph" <*> members.required (.same "graph") Check.text <*>
        members.required (.same "direction") (word Direction.ofText?) <*>
        members.required (.camel "start_vertex") Check.text <*>
        members.withDefault (.camel "min_depth") 1 int <*>
        members.optional (.camel "max_depth") int <*>
        members.optional (.same "options") (Document.check sub)

/-- Sources other than names are told apart by their tags. -/
def checkTagged (sub : Value → Checked ε) (value : Value) :
    Checked (Source ε) :=
  match Members.tagOf? value with
  | some "range" => checkRange value
  | some "graph" => checkGraph sub value
  | _ => .rejected 1

/-- What is no source is neither a name nor a tagged source, which makes two
faults or more. -/
def check (sub : Value → Checked ε) : Value → Checked (Source ε)
  | .text name => .ok (.text name)
  | value =>
      match checkTagged sub value with
      | .ok source => .ok source
      | .rejected faults => .rejected (faults + 1)

end Source

def Join.check (sub : Value → Checked ε) : Value → Checked (Join ε) :=
  model "JoinClause" [.same "variable", .same "source"] fun members =>
    (fun loop source => { loop, source := source.map .proper }) <$>
      members.required (.same "variable") text <*>
      members.optional (.same "source") (Source.check sub)

/-- A name and an expression under two given labels. -/
def checkNamed (name : String) (nameLabel partLabel : Label)
    (sub : Value → Checked ε) : Value → Checked (String × ε) :=
  model name [nameLabel, partLabel] fun members =>
    Prod.mk <$> members.required nameLabel text <*>
      members.required partLabel sub

def checkLet (sub : Value → Checked ε) : Value → Checked (String × ε) :=
  checkNamed "LetClause" (.same "variable") (.same "expression") sub

def checkVariable (sub : Value → Checked ε) : Value → Checked (String × ε) :=
  checkNamed "CollectVariable" (.same "key") (.same "value") sub

def checkAggregate (sub : Value → Checked ε) : Value → Checked (String × ε) :=
  checkNamed "CollectAggregate" (.same "name") (.same "expression") sub

def Collect.check (sub : Value → Checked ε) : Value → Checked (Collect ε) :=
  model "CollectClause"
    [.same "variables", .same "into", .same "aggregate", .same "keep"]
    fun members =>
      (fun keys into aggregates keep =>
          { keys, into, aggregates, keep }) <$>
        members.withDefault (.same "variables") []
          (listOf (checkVariable sub)) <*>
        members.optional (.same "into") text <*>
        members.withDefault (.same "aggregate") []
          (listOf (checkAggregate sub)) <*>
        members.optional (.same "keep") (listOf text)

def SortKey.check : Value → Checked SortKey :=
  model "SortClause" [.same "field", .same "direction"] fun members =>
    (fun field direction => { field, direction }) <$>
      members.required (.same "field") text <*>
      members.withDefault (.same "direction") .ascending
        (word SortDirection.ofText?)

def Operation.check (sub : Value → Checked ε) :
    Value → Checked (Operation ε) :=
  model "OperationClause"
    [.same "type", .same "document", .same "collection", .same "variable"]
    fun members =>
      (fun kind document collection target =>
          { kind, document, collection := collection.map .proper, target }) <$>
        members.required (.same "type") (word OperationKind.ofText?) <*>
        members.optional (.same "document") sub <*>
        members.optional (.same "collection") text <*>
        members.optional (.same "variable") text

def Upsert.check (sub : Value → Checked ε) : Value → Checked (Upsert ε) :=
  model "UpsertClause"
    [.same "type", .camel "search_doc", .camel "insert_doc",
      .camel "update_doc", .same "collection"]
    fun members =>
      (fun _ search insert update collection =>
          { search, insert, update, collection }) <$>
        members.tag "UPSERT" <*> members.required (.camel "search_doc") sub <*>
        members.required (.camel "insert_doc") sub <*>
        members.required (.camel "update_doc") sub <*>
        members.required (.same "collection") text

def Update.check (sub : Value → Checked ε) : Value → Checked (Update ε) :=
  model "UpdateEnhancedClause"
    [.same "type", .same "document", .camel "update_fields",
      .same "collection", .same "variable", .camel "old_reference"]
    fun members =>
      (fun _ document fields collection loop oldReference =>
          { document, fields, collection, loop, oldReference }) <$>
        members.tag "UPDATE" <*> members.required (.same "document") sub <*>
        members.required (.camel "update_fields") sub <*>
        members.optional (.same "collection") text <*>
        members.optional (.same "variable") text <*>
        members.withDefault (.camel "old_reference") false bool

def LoopNames.check : Value → Checked LoopNames :=
  model "MultipleLoopVars" [.same "vertex", .same "edge", .same "path"]
    fun members =>
      (fun vertex edge path => { vertex, edge, path }) <$>
        members.required (.same "vertex") text <*>
        members.optional (.same "edge") text <*>
        members.optional (.same "path") text

def Search.check (sub : Value → Checked ε) : Value → Checked (Search ε) :=
  model "SearchClause"
    [.same "type", .same "view", .same "conditions", .same "options"]
    fun members =>
      (fun _ view conditions options => { view, conditions, options }) <$>
        members.tag "search" <*> members.required (.same "view") text <*>
        members.withDefault (.same "conditions") [] (listOf sub) <*>
        members.optional (.same "options") (Document.check sub)

def Traversal.check : Value → Checked Traversal :=
  model "TraverseClause"
    [.same "type", .same "variable", .same "path", .camel "min_depth",
      .camel "max_depth"]
    fun members =>
      (fun _ loop path minDepth maxDepth =>
          { loop, path, minDepth, maxDepth }) <$>
        members.tag "traverse" <*> members.required (.same "variable") text <*>
        members.required (.same "path") text <*>
        members.optional (.camel "min_depth") int <*>
        members.optional (.camel "max_depth") int

def checkPrune (sub : Value → Checked ε) : Value → Checked ε :=
  model "PruneClause" [.same "type", .same "condition"] fun members =>
    (fun _ condition => condition) <$> members.tag "prune" <*>
      members.required (.same "condition") sub

/-- What is no bound is neither a number nor the word, which makes two
faults. -/
def Bound.check : Value → Checked Bound
  | .text "unbounded" => .ok .unbounded
  | value =>
      match int value with
      | .ok count => .ok (.rows count)
      | .rejected _ => .rejected 2

def Window.check (sub : Value → Checked ε) : Value → Checked (Window ε) :=
  model "WindowClause"
    [.same "type", .same "preceding", .same "following",
      .same "aggregation", .same "name"]
    fun members =>
      (fun _ preceding following aggregation name =>
          { preceding, following, aggregation, name }) <$>
        members.tag "window" <*>
        members.optional (.same "preceding") Bound.check <*>
        members.optional (.same "following") Bound.check <*>
        members.required (.same "aggregation") sub <*>
        members.optional (.same "name") text

/-- A field of a record that holds a family of clauses. -/
def Members.family {α : Type} (members : Members) (label : Label)
    (check : Value → Checked α) : Checked (Option (List α)) :=
  members.optional label (listOf check)

def Record.labels : List Label :=
  [.same "collection", .same "variable", .same "source", .same "filters",
    .camel "filters_post_collect", .same "joins", .same "lets",
    .camel "lets_pre_collect", .same "collects", .same "sorts",
    .camel "return_value", .camel "return_distinct", .count "limit",
    .count "offset", .same "operations", .same "upserts",
    .camel "updates_enhanced", .camel "multiple_loop_vars", .same "searches",
    .same "traversals", .same "prunes", .same "windows",
    .camel "with_collections", .same "raw", .camel "raw_bind_vars"]

def Record.check (sub : Value → Checked ε) : Value → Checked (Record ε) :=
  model "QueryRecord" Record.labels fun members =>
    (fun collection loop source filters filtersAfterCollect joins
          letsAfterCollect letsBeforeCollect collects sorts result distinct
          limit offset operations upserts updates loopNames searches
          traversals prunes windows withCollections raw rawBindings =>
        { collection, loop := loop.map .proper,
          source := source.map .proper, filters, filtersAfterCollect, joins,
          letsAfterCollect, letsBeforeCollect, collects, sorts, result,
          distinct, limit := limit.map .proper, offset := offset.map .proper,
          operations, upserts, updates, loopNames, searches, traversals,
          prunes, windows,
          withCollections := withCollections.map (List.map .proper), raw,
          rawBindings }) <$>
      members.optional (.same "collection") text <*>
      members.optional (.same "variable") text <*>
      members.optional (.same "source") (Source.check sub) <*>
      members.family (.same "filters") sub <*>
      members.family (.camel "filters_post_collect") sub <*>
      members.family (.same "joins") (Join.check sub) <*>
      members.family (.same "lets") (checkLet sub) <*>
      members.family (.camel "lets_pre_collect") (checkLet sub) <*>
      members.family (.same "collects") (Collect.check sub) <*>
      members.family (.same "sorts") SortKey.check <*>
      members.optional (.camel "return_value") sub <*>
      members.optional (.camel "return_distinct") bool <*>
      members.optional (.count "limit") int <*>
      members.optional (.count "offset") int <*>
      members.family (.same "operations") (Operation.check sub) <*>
      members.family (.same "upserts") (Upsert.check sub) <*>
      members.family (.camel "updates_enhanced") (Update.check sub) <*>
      members.optional (.camel "multiple_loop_vars") LoopNames.check <*>
      members.family (.same "searches") (Search.check sub) <*>
      members.family (.same "traversals") Traversal.check <*>
      members.family (.same "prunes") (checkPrune sub) <*>
      members.family (.same "windows") (Window.check sub) <*>
      members.family (.camel "with_collections") text <*>
      members.optional (.same "raw") text <*>
      members.optional (.camel "raw_bind_vars") (mapOf anything)

end ArangoQuery
