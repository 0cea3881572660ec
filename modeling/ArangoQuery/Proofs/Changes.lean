import ArangoQuery.Builder.Builder

/-!
# What a call changes

Most calls convert their arguments to a clause and then add it behind the others of
its kind.  Only the conversion can fail, and it never looks at the clauses that are
there already.  `Call.addition?` is the conversion, `Query.add` adds the clause, and
such a call is the one after the other (`Builder.perform_of_addition?`).  So what
one clause more preserves is preserved by all of these calls.

The other calls open loops, give them sources or set what a query returns.  For
each of them a lemma says what has changed if it succeeds.
-/

namespace ArangoQuery

variable {ρ : Type}

/-! ## Steps that succeed -/

section Steps

variable {α β : Type}

/-- The first of two steps has a value, from which the second one goes on. -/
theorem exists_of_bind_eq_ok {first : Except Error α}
    {next : α → Except Error β} {result : β}
    (hbind : first >>= next = .ok result) :
    ∃ value, first = .ok value ∧ next value = .ok result := by
  cases first with
  | error error => cases hbind
  | ok value => exact ⟨value, rfl, hbind⟩

theorem exists_of_map_eq_ok {change : α → β} {first : Except Error α}
    {result : β} (hmap : change <$> first = .ok result) :
    ∃ value, first = .ok value ∧ result = change value := by
  cases first with
  | error error => cases hmap
  | ok value => exact ⟨value, rfl, (Except.ok.inj hmap).symm⟩

namespace Checked

theorem orInvalid_eq_ok {checked : Checked α} {name : String} {result : α}
    (hchecked : checked.orInvalid name = .ok result) : checked = .ok result := by
  cases checked with
  | ok value => exact congrArg Checked.ok (Except.ok.inj hchecked)
  | rejected faults => cases hchecked

theorem exists_of_map {f : α → β} {checked : Checked α} {result : β}
    (hresult : f <$> checked = .ok result) :
    ∃ value, checked = .ok value ∧ result = f value := by
  cases checked with
  | ok value => exact ⟨value, rfl, (Checked.ok.inj hresult).symm⟩
  | rejected faults => cases hresult

theorem exists_of_seq {function : Checked (α → β)} {argument : Checked α}
    {result : β} (hresult : function <*> argument = .ok result) :
    ∃ f value, function = .ok f ∧ argument = .ok value ∧
      result = f value := by
  cases function with
  | ok f =>
      cases argument with
      | ok value => exact ⟨f, value, rfl, rfl, (Checked.ok.inj hresult).symm⟩
      | rejected faults => cases hresult
  | rejected faults => cases argument <;> cases hresult

end Checked

theorem Check.text_eq_ok_iff {value : Value} {content : String} :
    Check.text value = .ok content ↔ value = .text content := by
  constructor
  · intro hvalue
    unfold Check.text at hvalue
    split at hvalue
    · rw [Checked.ok.inj hvalue]
    · cases hvalue
  · rintro rfl
    rfl

end Steps

/-! ## Clauses that are added -/

/-- A clause that a call adds to a record. -/
inductive Addition where
  | filter (condition : Expr)
  | declaration (clause : String × Expr)
  | grouping (clause : Collect Expr)
  | sort (key : SortKey)
  | operation (operation : Operation Expr)
  | upsert (clause : Upsert Expr)
  | update (clause : Update Expr)
  | search (clause : Search Expr)
  | traversal (clause : Traversal)
  | prune (condition : Expr)
  | window (clause : Window Expr)

namespace Query

/-- The record with one operation more. -/
def addOperation (record : Query) (operation : Operation Expr) : Query :=
  { record with operations := Record.append record.operations operation }

/-- The record with one clause more, behind the others of its kind. -/
def add (record : Query) : Addition → Query
  | .filter condition => record.addFilter condition
  | .declaration clause => record.addLet clause
  | .grouping clause =>
      { record with collects := Record.append record.collects clause }
  | .sort key => { record with sorts := Record.append record.sorts key }
  | .operation operation => record.addOperation operation
  | .upsert clause =>
      { record with upserts := Record.append record.upserts clause }
  | .update clause =>
      { record with updates := Record.append record.updates clause }
  | .search clause =>
      { record with searches := Record.append record.searches clause }
  | .traversal clause =>
      { record with traversals := Record.append record.traversals clause }
  | .prune condition =>
      { record with prunes := Record.append record.prunes condition }
  | .window clause =>
      { record with windows := Record.append record.windows clause }

end Query

/-- An operation whose collection is still to be set, from parts that are not
checked yet. -/
def Operation.ofParts (kind : OperationKind) (target : Option Value)
    (document : Option Expr) : Except Error (Operation Expr) :=
  ((fun target document =>
      { kind, document, collection := none, target : Operation Expr }) <$>
    Check.nullable Check.text (target.getD .null) <*>
    (document.getD (.stray .null)).acceptSome).orInvalid "OperationClause"

namespace Builder

open Check

def declaration (look : ρ → Query) (name value : Operand ρ) :
    Except Error (String × Expr) := do
  let value ← value.toValue look
  (Prod.mk <$> text name.raw <*> value.accept).orInvalid "LetClause"

def sortKey (field directionWord : Operand ρ) : Except Error SortKey := do
  let given := directionWord.raw
  let direction ←
    match (word SortDirection.ofText? given).value? with
    | some direction => .ok direction
    | none => .error (.value (.sortDirection given))
  let field ← field.toVariable
  let field ← (text field).orInvalid "SortClause"
  return { field, direction }

/-- An update of a collection, in the loop over its documents. -/
def updateClause (look : ρ → Query) (document updates : Operand ρ)
    (collection loop : Value) (oldReference : Bool) :
    Except Error (Update Expr) := do
  let document ← Expr.ofPath (← document.toVariable)
  let fields ← updates.toDocument look
  ((fun fields collection loop =>
      { document, fields, collection, loop, oldReference }) <$>
    fields.accept <*> nullable text collection <*>
    nullable text loop).orInvalid "UpdateEnhancedClause"

def searchClause (look : ρ → Query) (view : Value)
    (conditions : List (Operand ρ)) (options : Operand ρ) :
    Except Error (Search Expr) := do
  let conditions ← Operand.toExprs look conditions
  let options ← options.toOptions look
  ((fun view conditions => { view, conditions, options }) <$>
    text view <*>
    Checked.traverse Expr.accept conditions).orInvalid "SearchClause"

def traversalClause (variableName path maxDepth minDepth : Operand ρ) :
    Except Error Traversal :=
  ((fun loop path minDepth maxDepth =>
      { loop, path, minDepth, maxDepth : Traversal }) <$>
    text variableName.raw <*> text path.raw <*> nullable int minDepth.raw <*>
    nullable int maxDepth.raw).orInvalid "TraverseClause"

def pruneCondition (look : ρ → Query) (condition : Operand ρ) :
    Except Error Expr := do
  (← condition.toExpr look).accept.orInvalid "PruneClause"

def windowClause (look : ρ → Query)
    (preceding following aggregation name : Operand ρ) :
    Except Error (Window Expr) := do
  let aggregation ← aggregation.toValue look
  ((fun preceding following aggregation name =>
      { preceding, following, aggregation, name }) <$>
    nullable Bound.check preceding.raw <*>
    nullable Bound.check following.raw <*> aggregation.accept <*>
    nullable text name.raw).orInvalid "WindowClause"

end Builder

namespace Call

/-- The operation that a call asks for, if its arguments are in order. -/
def operation? (look : ρ → Query) :
    Call ρ → Option (Except Error (Operation Expr))
  | .insert document => some do
      Operation.ofParts .insert none (some (← document.toDocument look))
  | .replace target document => some do
      let target ← target.toVariable
      Operation.ofParts .replace (some target)
        (← Builder.someDocument look document)
  | .remove target => some do
      Operation.ofParts .remove (some (← target.toVariable)) none
  | .update target document => some do
      let target ← target.toVariable
      Operation.ofParts .update (some target)
        (some (← document.toDocument look))
  | _ => none

/-- The clause that a call adds, if its arguments are in order.  Of the record only
an update reads something: the collection of the query and its loop. -/
def addition? (look : ρ → Query) (record : Query) :
    Call ρ → Option (Except Error Addition)
  | .filter condition => some (.filter <$> condition.toExpr look)
  | .declare name value =>
      some (.declaration <$> Builder.declaration look name value)
  | .addCollect clause => some (.ok (.grouping clause))
  | .sort field direction => some (.sort <$> Builder.sortKey field direction)
  | .addUpsert upsert => some (.ok (.upsert upsert))
  | .updateWith document updates collection oldReference =>
      some (.update <$> Builder.updateClause look document updates
        (Builder.targetCollection record collection)
        (.ofOption (Slot.describe .text) record.loop) oldReference)
  | .traverse variableName path maxDepth minDepth =>
      some (.traversal <$>
        Builder.traversalClause variableName path maxDepth minDepth)
  | .prune condition =>
      some (.prune <$> Builder.pruneCondition look condition)
  | .window preceding following aggregation name =>
      some (.window <$>
        Builder.windowClause look preceding following aggregation name)
  | call => (call.operation? look).map (Functor.map .operation)

end Call

namespace Builder

variable {look : Query → ρ → Query} {builder : Builder}

theorem operate_eq (record : Query) (kind : OperationKind)
    (target : Option Value) (document : Option Expr) :
    operate record kind target document =
      record.addOperation <$> Operation.ofParts kind target document := by
  rw [← bind_pure_comp]
  rfl

/-- A search adds its clause once the view has been claimed. -/
theorem search_eq (look : ρ → Query) (record : Query) (view : Value)
    (conditions : List (Operand ρ)) (options : Operand ρ) :
    search look record view conditions options =
      record.add <$> .search <$> searchClause look view conditions options := by
  simp only [search, searchClause, map_bind, bind_pure_comp, Functor.map_map]
  rfl

theorem updateWith_eq (look : ρ → Query) (record : Query)
    (document updates collection : Operand ρ) (oldReference : Bool) :
    updateWith look record document updates collection oldReference =
      record.add <$> .update <$> updateClause look document updates
        (targetCollection record collection)
        (.ofOption (Slot.describe .text) record.loop) oldReference := by
  simp only [updateWith, updateClause, map_bind, bind_pure_comp,
    Functor.map_map]
  rfl

/-- A call that adds a clause changes the record exactly if its arguments are in
order. -/
theorem perform_of_addition? {call : Call ρ}
    {addition : Except Error Addition}
    (hcall : call.addition? (look builder.record) builder.record =
      some addition) :
    builder.perform look call =
      builder.onRecord (builder.record.add <$> addition) := by
  cases call with
  | addCollect | addUpsert =>
      obtain rfl := Option.some.inj hcall
      rfl
  | updateWith =>
      obtain rfl := Option.some.inj hcall
      rw [perform, updateWith_eq]
  | filter | declare | prune | window =>
      obtain rfl := Option.some.inj hcall
      simp only [perform, filter, declare, declaration, prune, pruneCondition,
        window, windowClause, map_bind, bind_pure_comp, Functor.map_map]
      rfl
  | sort field direction =>
      obtain rfl := Option.some.inj hcall
      simp only [perform, sort, sortKey]
      cases (Check.word SortDirection.ofText? direction.raw).value? with
      | none => rfl
      | some direction =>
          simp only [map_bind, bind_pure_comp, Functor.map_map]
          rfl
  | traverse =>
      obtain rfl := Option.some.inj hcall
      simp only [perform, traverse, traversalClause, bind_pure_comp,
        Functor.map_map]
      rfl
  | insert | replace | remove | update =>
      obtain rfl := Option.some.inj hcall
      simp only [perform, operate_eq, map_bind, Functor.map_map]
      rfl
  | _ => cases hcall

/-! ## Loops, sources and results -/

variable {after : Builder}

/-- A loop is nested in the main one, if that has a name. -/
theorem exists_of_openLoop {variableName : Operand ρ}
    (hopen : builder.openLoop variableName = .ok after) :
    ∃ name, variableName.toVariable = .ok name ∧
      ((Slot.isPresentText builder.record.loop = true ∧
          ∃ loop, name = .text loop ∧
            after =
              { record :=
                  { builder.record with
                    joins := Record.append builder.record.joins
                      { loop, source := none } },
                openJoin :=
                  some (Record.members builder.record.joins).length }) ∨
        (Slot.isPresentText builder.record.loop = false ∧
          after =
            { builder with
              record :=
                { builder.record with loop := Slot.text? name } })) := by
  obtain ⟨name, hname, hopen⟩ := exists_of_bind_eq_ok hopen
  refine ⟨name, hname, ?_⟩
  dsimp only at hopen
  cases hpresent : Slot.isPresentText builder.record.loop with
  | true =>
      rw [if_pos hpresent] at hopen
      obtain ⟨loop, hloop, hopen⟩ := exists_of_bind_eq_ok hopen
      have htext := Check.text_eq_ok_iff.1 (Checked.orInvalid_eq_ok hloop)
      exact .inl ⟨rfl, loop, htext, (Except.ok.inj hopen).symm⟩
  | false =>
      rw [if_neg (ne_true_of_eq_false hpresent)] at hopen
      exact .inr ⟨rfl, (Except.ok.inj hopen).symm⟩

/-- Besides the source at most the collection of the query changes. -/
theorem exists_of_iterate {source : Operand ρ}
    (hiterate : builder.iterate source = .ok after) :
    ∃ value collection, sourceValue source = .ok value ∧
      after = setSource
        { builder with record := { builder.record with collection } }
        (Slot.source? value) := by
  obtain ⟨value, hvalue, hiterate⟩ := exists_of_bind_eq_ok hiterate
  obtain rfl := Except.ok.inj hiterate
  refine ⟨value, ?_⟩
  split
  · split
    · exact ⟨builder.record.collection, hvalue, rfl⟩
    · exact ⟨_, hvalue, rfl⟩
  · exact ⟨builder.record.collection, hvalue, rfl⟩

theorem exists_of_iterateGraph {look : ρ → Query}
    {graph directionWord vertex minDepth maxDepth options : Operand ρ}
    (hiterate : iterateGraph look builder graph directionWord vertex minDepth
      maxDepth options = .ok after) :
    ∃ traversal : GraphSource Expr,
      options.toOptions look = .ok traversal.options ∧
        after = builder.setSource (some (.proper (.graph traversal))) := by
  obtain ⟨direction, -, hiterate⟩ := exists_of_bind_eq_ok hiterate
  obtain ⟨origin, -, hiterate⟩ := exists_of_bind_eq_ok hiterate
  obtain ⟨document, hdocument, hiterate⟩ := exists_of_bind_eq_ok hiterate
  obtain ⟨source, hsource, hiterate⟩ := exists_of_bind_eq_ok hiterate
  obtain ⟨limited, last, hlimited, -, rfl⟩ :=
    Checked.exists_of_seq (Checked.orInvalid_eq_ok hsource)
  obtain ⟨started, first, hstarted, -, rfl⟩ := Checked.exists_of_seq hlimited
  obtain ⟨named, start, hnamed, -, rfl⟩ := Checked.exists_of_seq hstarted
  obtain ⟨name, -, rfl⟩ := Checked.exists_of_map hnamed
  exact ⟨_, hdocument, (Except.ok.inj hiterate).symm⟩

section Records

variable {look : ρ → Query} {record changed : Query}

theorem exists_of_nameLoops {vertex edge path : Operand ρ}
    (hnames : nameLoops record vertex edge path = .ok changed) :
    ∃ names, changed = { record with loopNames := some names } := by
  obtain ⟨vertexName, -, hnames⟩ := exists_of_bind_eq_ok hnames
  obtain ⟨edgeName, -, hnames⟩ := exists_of_bind_eq_ok hnames
  obtain ⟨pathName, -, hnames⟩ := exists_of_bind_eq_ok hnames
  obtain ⟨names, -, hnames⟩ := exists_of_bind_eq_ok hnames
  exact ⟨names, (Except.ok.inj hnames).symm⟩

/-- A view is claimed as a source once, and then found to be the source. -/
theorem of_claimView {view : Value}
    (hclaim : claimView record view = .ok changed) :
    record.source = none ∧
        changed = { record with source := Slot.source? view } ∨
      record.source.isSome = true ∧ changed = record := by
  unfold claimView at hclaim
  split at hclaim
  · rename_i hsource
    exact .inl ⟨hsource, (Except.ok.inj hclaim).symm⟩
  · rename_i source hsource
    dsimp only at hclaim
    split at hclaim
    · exact .inr ⟨by rw [hsource]; rfl, (Except.ok.inj hclaim).symm⟩
    · cases hclaim

/-- A new builder has at most a collection, or else a result. -/
theorem exists_of_ofInitial {initial : Operand ρ} {start : Builder}
    (hstart : ofInitial look initial = .ok start) :
    (∃ collection, start = { record := { collection } }) ∨
      ∃ expr, initial.toExpr look = .ok expr ∧
        start = { record := { result := expr.present? } } := by
  unfold ofInitial at hstart
  split at hstart
  · exact .inl ⟨none, (Except.ok.inj hstart).symm⟩
  · exact .inl ⟨_, (Except.ok.inj hstart).symm⟩
  · obtain ⟨expr, hexpr, rfl⟩ := exists_of_map_eq_ok hstart
    exact .inr ⟨expr, hexpr, rfl⟩

theorem exists_of_setResult {value distinct : Operand ρ}
    (hresult : setResult look record value distinct = .ok changed) :
    ∃ expr distinct, value.toValue look = .ok expr ∧
      changed = { record with result := expr.present?, distinct } := by
  obtain ⟨expr, hexpr, hresult⟩ := exists_of_bind_eq_ok hresult
  exact ⟨expr, _, hexpr, (Except.ok.inj hresult).symm⟩

end Records

end Builder

end ArangoQuery
