import ArangoQuery.Builder.Combinator
import ArangoQuery.Builder.Count
import ArangoQuery.Query.Slot

/-!
# Builders

A builder accumulates a record call by call, in whatever order the caller likes.
`Builder.perform` says what one call does: the builder afterwards, and what went
wrong if the call failed.  Besides the record a builder remembers which nested
loop still waits for its source.
-/

namespace ArangoQuery

structure Builder where
  record : Query := {}
  /-- The position of the nested loop that the next source belongs to. -/
  openJoin : Option Nat := none

instance : Inhabited Builder := ⟨{}⟩

/-- A call on a builder.  Arguments are operands, since callers may hand over
anything. -/
inductive Call (ρ : Type) where
  | useCollections (names : List (Operand ρ))
  | loop (variableName : Operand ρ)
  | source (source : Operand ρ)
  | join (collection variableName : Operand ρ)
  | graph (graph direction startVertex minDepth maxDepth options : Operand ρ)
  | loops (vertex edge path : Operand ρ)
  | filter (condition : Operand ρ)
  | declare (name value : Operand ρ)
  | addCollect (clause : Collect Expr)
  | sort (field direction : Operand ρ)
  | insert (document : Operand ρ)
  | replace (target document : Operand ρ)
  | remove (target : Operand ρ)
  | update (target document : Operand ρ)
  | into (collection : Operand ρ)
  | addUpsert (upsert : Upsert Expr)
  | updateWith (document updates collection : Operand ρ) (oldReference : Bool)
  | search (view : Operand ρ) (conditions : List (Operand ρ))
      (options : Operand ρ)
  | traverse (loop path maxDepth minDepth : Operand ρ)
  | prune (condition : Operand ρ)
  | window (preceding following aggregation name : Operand ρ)
  | result (value distinct : Operand ρ)
  | limit (count offset : Operand ρ)
  | offset (count : Operand ρ)
  | paginate (page size : Operand ρ)

/-- Names, and sources that exist as typed records already. -/
def Value.asSource? (value : Value) : Option (Source Expr) :=
  match value with
  | .text name => some (.text name)
  | .model .. =>
      (Source.checkTagged (Expr.checkWithin value.depth) value).value?
  | _ => none

def Slot.source? : Value → Option (Slot (Source Expr)) :=
  Slot.ofValue? Value.asSource?

/-- An expression in a field that is filled without a check. -/
def Expr.present? : Expr → Option Expr
  | .stray .null => none
  | expr => some expr

namespace Query

/-- Adds a condition before the first grouping or after it. -/
def addFilter (query : Query) (condition : Expr) : Query :=
  match query.phase with
  | .afterCollect =>
      { query with
        filtersAfterCollect :=
          Record.append query.filtersAfterCollect condition }
  | .beforeCollect =>
      { query with filters := Record.append query.filters condition }

/-- Adds a variable before the first grouping or after it. -/
def addLet (query : Query) (clause : String × Expr) : Query :=
  match query.phase with
  | .afterCollect =>
      { query with
        letsAfterCollect := Record.append query.letsAfterCollect clause }
  | .beforeCollect =>
      { query with
        letsBeforeCollect := Record.append query.letsBeforeCollect clause }

end Query

/-- A builder after a call, and what went wrong if the call failed. -/
structure Outcome where
  builder : Builder
  error : Option Error

namespace Outcome

/-- Makes a second call if the first one succeeded. -/
def andThen (outcome : Outcome) (next : Builder → Outcome) : Outcome :=
  match outcome.error with
  | none => next outcome.builder
  | some _ => outcome

end Outcome

namespace Builder

open Check

variable {ρ : Type} (look : Query → ρ → Query)

/-- A change that always succeeds. -/
def changed (builder : Builder) : Outcome :=
  { builder, error := none }

/-- A change that either succeeds or leaves the builder alone. -/
def attempt (builder : Builder) (change : Except Error Builder) : Outcome :=
  match change with
  | .ok builder => builder.changed
  | .error error => { builder, error := some error }

/-- Gives a source to the open nested loop, or to the main loop. -/
def setSource (builder : Builder) (source : Option (Slot (Source Expr))) :
    Builder :=
  match builder.openJoin with
  | some position =>
      { builder with
        record :=
          { builder.record with
            joins := builder.record.joins.map fun joins =>
              joins.modify position fun join => { join with source } } }
  | none => { builder with record := { builder.record with source } }

def openLoop (builder : Builder) (variableName : Operand ρ) :
    Except Error Builder := do
  let name ← variableName.toVariable
  let record := builder.record
  if Slot.isPresentText record.loop then
    let loop ← (text name).orInvalid "JoinClause"
    .ok
      { record :=
          { record with
            joins := Record.append record.joins { loop, source := none } },
        openJoin := some (Record.members record.joins).length }
  else
    return { builder with record := { record with loop := Slot.text? name } }

/-- The text or the value that a loop iterates over. -/
def sourceValue : Operand ρ → Except Error Value
  | .built (.parameter placeholder) => .ok (.text placeholder.text)
  | .built _ => .error (.value .sourceExpression)
  | .text name =>
      if startsWithAt name && !isPlaceholder name then
        .error (.value (.sourcePlaceholder name))
      else .ok (.text name)
  | operand => .ok operand.raw

/-- A plain collection that the main loop iterates becomes the collection of the
query. -/
def iterate (builder : Builder) (source : Operand ρ) :
    Except Error Builder := do
  let value ← sourceValue source
  let builder :=
    match builder.openJoin, value with
    | none, .text name =>
        if startsWithAt name then builder
        else
          { builder with
            record := { builder.record with collection := some name } }
    | _, _ => builder
  return builder.setSource (Slot.source? value)

def startVertex : Operand ρ → Except Error Value
  | .built (.reference path) => .ok (.text path)
  | .built (.parameter placeholder) => .ok (.text placeholder.text)
  | .built _ => .error (.value .startVertex)
  | operand => .ok operand.raw

def direction (operand : Operand ρ) : Except Error Direction :=
  match operand.raw with
  | .text word =>
      match Direction.ofText? word with
      | some direction => .ok direction
      | none => .error (.value (.traversalDirection (.text word)))
  | value =>
      if value.isHashable then .error (.value (.traversalDirection value))
      else .error (.type .mismatch)

def iterateGraph (look : ρ → Query) (builder : Builder)
    (graph directionWord vertex minDepth maxDepth options : Operand ρ) :
    Except Error Builder := do
  let direction ← direction directionWord
  let vertex ← startVertex vertex
  let options ← options.toOptions look
  let source ←
    ((fun graph startVertex minDepth maxDepth =>
        { graph, direction, startVertex, minDepth, maxDepth, options }) <$>
      text graph.raw <*> text vertex <*> int minDepth.raw <*>
      nullable int maxDepth.raw).orInvalid "GraphSource"
  return builder.setSource (some (.proper (.graph source)))

def someVariable : Operand ρ → Except Error Value
  | .null => .ok .null
  | operand => operand.toVariable

def nameLoops (record : Query) (vertex edge path : Operand ρ) :
    Except Error Query := do
  let vertex ← vertex.toVariable
  let edge ← someVariable edge
  let path ← someVariable path
  let loop ←
    ((fun vertex edge path => { vertex, edge, path : LoopNames }) <$>
      text vertex <*> nullable text edge <*>
      nullable text path).orInvalid "MultipleLoopVars"
  return { record with loopNames := some loop }

def filter (look : ρ → Query) (record : Query) (condition : Operand ρ) :
    Except Error Query := do
  return record.addFilter (← condition.toExpr look)

def declare (look : ρ → Query) (record : Query) (name value : Operand ρ) :
    Except Error Query := do
  let value ← value.toValue look
  let clause ←
    (Prod.mk <$> text name.raw <*> value.accept).orInvalid "LetClause"
  return record.addLet clause

def sort (record : Query) (field directionWord : Operand ρ) :
    Except Error Query := do
  let given := directionWord.raw
  let direction ←
    match (word SortDirection.ofText? given).value? with
    | some direction => .ok direction
    | none => .error (.value (.sortDirection given))
  let field ← field.toVariable
  let field ← (text field).orInvalid "SortClause"
  return { record with sorts := Record.append record.sorts { field, direction } }

/-- Adds a modification whose collection is still to be set. -/
def operate (record : Query) (kind : OperationKind)
    (target : Option Value) (document : Option Expr) :
    Except Error Query := do
  let operation ←
    ((fun target document =>
        { kind, document, collection := none, target : Operation Expr }) <$>
      nullable text (target.getD .null) <*>
      (document.getD (.stray .null)).acceptSome).orInvalid "OperationClause"
  return { record with operations := Record.append record.operations operation }

def someDocument (look : ρ → Query) :
    Operand ρ → Except Error (Option Expr)
  | .null => .ok none
  | operand => some <$> operand.toDocument look

/-- Replaces the last member of a list. -/
def modifyLast {α : Type} (change : α → α) (members : List α) : List α :=
  members.modify (members.length - 1) change

def into (record : Query) (collection : Operand ρ) : Except Error Query :=
  if (Record.members record.operations).isEmpty then
    .error (.value .intoWithoutOperation)
  else
    .ok
      { record with
        operations := record.operations.map (modifyLast fun operation =>
          { operation with collection := Slot.text? collection.raw }) }

/-- The collection given, or else that of the query. -/
def targetCollection (record : Query) (collection : Operand ρ) : Value :=
  let given := collection.raw
  if given.isTrue then given else .ofOption .text record.collection

def updateWith (look : ρ → Query) (record : Query)
    (document updates collection : Operand ρ) (oldReference : Bool) :
    Except Error Query := do
  let document ← Expr.ofPath (← document.toVariable)
  let fields ← updates.toDocument look
  let update ←
    ((fun fields collection loop =>
        { document, fields, collection, loop, oldReference }) <$>
      fields.accept <*> nullable text (targetCollection record collection) <*>
      nullable text
        (.ofOption (Slot.describe .text) record.loop)).orInvalid
      "UpdateEnhancedClause"
  return { record with updates := Record.append record.updates update }

/-- A view becomes the source of a main loop that has none yet.  This happens
before the rest of the clause is looked at. -/
def claimView (record : Query) (view : Value) : Except Error Query :=
  match record.source with
  | none => .ok { record with source := Slot.source? view }
  | some source =>
      let current := source.describe Source.describeFully
      if current.same view then .ok record
      else .error (.value (.searchView view current))

def search (look : ρ → Query) (record : Query) (view : Value)
    (conditions : List (Operand ρ)) (options : Operand ρ) :
    Except Error Query := do
  let conditions ← Operand.toExprs look conditions
  let options ← options.toOptions look
  let clause ←
    ((fun view conditions => { view, conditions, options }) <$>
      text view <*>
      Checked.traverse Expr.accept conditions).orInvalid "SearchClause"
  return { record with searches := Record.append record.searches clause }

def traverse (record : Query) (loop path maxDepth minDepth : Operand ρ) :
    Except Error Query := do
  let clause ←
    ((fun loop path minDepth maxDepth =>
        { loop, path, minDepth, maxDepth : Traversal }) <$>
      text loop.raw <*> text path.raw <*> nullable int minDepth.raw <*>
      nullable int maxDepth.raw).orInvalid "TraverseClause"
  return { record with traversals := Record.append record.traversals clause }

def prune (look : ρ → Query) (record : Query) (condition : Operand ρ) :
    Except Error Query := do
  let condition ← condition.toExpr look
  let condition ← condition.accept.orInvalid "PruneClause"
  return { record with prunes := Record.append record.prunes condition }

def window (look : ρ → Query) (record : Query)
    (preceding following aggregation name : Operand ρ) :
    Except Error Query := do
  let aggregation ← aggregation.toValue look
  let clause ←
    ((fun preceding following aggregation name =>
        { preceding, following, aggregation, name }) <$>
      nullable Bound.check preceding.raw <*>
      nullable Bound.check following.raw <*> aggregation.accept <*>
      nullable text name.raw).orInvalid "WindowClause"
  return { record with windows := Record.append record.windows clause }

def setResult (look : ρ → Query) (record : Query)
    (value distinct : Operand ρ) : Except Error Query := do
  let value ← value.toValue look
  .ok
    { record with
      result := value.present?,
      distinct := if distinct.raw.isTrue then some true else none }

def setLimit (record : Query) (count offset : Operand ρ) : Query :=
  let record := { record with limit := Slot.count? count.raw }
  match offset with
  | .null => record
  | offset => { record with offset := Slot.count? offset.raw }

/-- The slot of a collection for which a query takes a read lock; null is kept
as a member. -/
def lockedCollection (operand : Operand ρ) : Slot String :=
  (Slot.text? operand.raw).getD (.stray .null)

/-- A change of the record alone. -/
def onRecord (builder : Builder) (change : Except Error Query) : Outcome :=
  builder.attempt (change.map fun record => { builder with record })

/-- A change of the record that always succeeds. -/
def adjust (builder : Builder) (change : Query → Query) : Outcome :=
  changed { builder with record := change builder.record }

/-- What a call does to a builder.  `look` finds the records of other builders,
and that of the builder itself as it is at the moment. -/
def perform (builder : Builder) : Call ρ → Outcome
  | .useCollections names =>
      (builder.adjust fun record =>
        if names.isEmpty then record
        else
          { record with
            withCollections :=
              some (Record.members record.withCollections ++
                names.map lockedCollection) })
  | .loop variableName => builder.attempt (builder.openLoop variableName)
  | .source source => builder.attempt (builder.iterate source)
  | .join collection variableName =>
      (builder.attempt (builder.openLoop variableName)).andThen fun builder =>
        builder.attempt (builder.iterate collection)
  | .graph graph direction startVertex minDepth maxDepth options =>
      builder.attempt (iterateGraph (look builder.record) builder graph
        direction startVertex minDepth maxDepth options)
  | .loops vertex edge path =>
      builder.onRecord (nameLoops builder.record vertex edge path)
  | .filter condition =>
      builder.onRecord (filter (look builder.record) builder.record condition)
  | .declare name value =>
      builder.onRecord
        (declare (look builder.record) builder.record name value)
  | .addCollect clause =>
      builder.adjust fun record =>
        { record with collects := Record.append record.collects clause }
  | .sort field direction =>
      builder.onRecord (sort builder.record field direction)
  | .insert document =>
      builder.onRecord do
        let document ← document.toDocument (look builder.record)
        operate builder.record .insert none (some document)
  | .replace target document =>
      builder.onRecord do
        let target ← target.toVariable
        let document ← someDocument (look builder.record) document
        operate builder.record .replace (some target) document
  | .remove target =>
      builder.onRecord do
        let target ← target.toVariable
        operate builder.record .remove (some target) none
  | .update target document =>
      builder.onRecord do
        let target ← target.toVariable
        let document ← document.toDocument (look builder.record)
        operate builder.record .update (some target) (some document)
  | .into collection => builder.onRecord (into builder.record collection)
  | .addUpsert upsert =>
      builder.adjust fun record =>
        { record with upserts := Record.append record.upserts upsert }
  | .updateWith document updates collection oldReference =>
      builder.onRecord (updateWith (look builder.record) builder.record
        document updates collection oldReference)
  | .search view conditions options =>
      (builder.onRecord (claimView builder.record view.raw)).andThen
        fun builder =>
          builder.onRecord (search (look builder.record) builder.record
            view.raw conditions options)
  | .traverse loop path maxDepth minDepth =>
      builder.onRecord (traverse builder.record loop path maxDepth minDepth)
  | .prune condition =>
      builder.onRecord (prune (look builder.record) builder.record condition)
  | .window preceding following aggregation name =>
      builder.onRecord (window (look builder.record) builder.record preceding
        following aggregation name)
  | .result value distinct =>
      builder.onRecord
        (setResult (look builder.record) builder.record value distinct)
  | .limit count offset =>
      builder.adjust fun record => setLimit record count offset
  | .offset count =>
      builder.adjust fun record =>
        { record with offset := Slot.count? count.raw }
  | .paginate page size =>
      builder.onRecord do
        let offset ← pageOffset page.raw size.raw
        return setLimit builder.record size (.scalar offset : Operand ρ)

/-- A new builder: a text is the collection of the query, anything else but null
what it returns. -/
def ofInitial (look : ρ → Query) : Operand ρ → Except Error Builder
  | .null => .ok {}
  | .text name => .ok { record := { collection := some name } }
  | operand => do
      let result ← operand.toExpr look
      return { record := { result := result.present? } }

end Builder

end ArangoQuery
