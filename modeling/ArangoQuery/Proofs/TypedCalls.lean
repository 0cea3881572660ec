import ArangoQuery.Proofs.StageReturns
import ArangoQuery.Proofs.TypedArguments

/-!
# Typed calls

A call is typed if its arguments are: names are texts, numbers of results are
integers, and all else is made of data and of restorable expressions.  What such a
call adds to a record is restorable, and it leaves the other fields alone; so
typed calls keep a record restorable (`Builder.isRestorable_of_runChain`).
-/

namespace ArangoQuery

open Record (members)

variable {ρ : Type}

/-! ## Expressions that are accepted -/

theorem Expr.isRestorable_of_accept {expr accepted : Expr}
    (hexpr : expr.isRestorable = true) (haccept : expr.accept = .ok accepted) :
    accepted.isRestorable = true := by
  rw [accept_of_isNode (isNode_of_isRestorable hexpr)] at haccept
  exact Checked.ok.inj haccept ▸ hexpr

theorem Expr.isRestorable_of_acceptSome {expr : Expr} {accepted : Option Expr}
    (hexpr : expr.isRestorable = true)
    (haccept : expr.acceptSome = .ok accepted) :
    accepted.all isRestorable = true := by
  unfold acceptSome at haccept
  split at haccept
  · exact Checked.ok.inj haccept ▸ rfl
  · rw [accept_of_isNode (isNode_of_isRestorable hexpr)] at haccept
    obtain rfl := Checked.ok.inj haccept
    exact hexpr

theorem Expr.isRestorable_present? {expr : Expr}
    (hexpr : expr.isRestorable = true) :
    expr.present?.all isRestorable = true := by
  unfold present?
  split
  · rfl
  · exact hexpr

/-! ## Typed calls -/

namespace Operand

/-- A text, or a reference to a variable. -/
def isName : Operand ρ → Bool
  | .text _ => true
  | .built (.reference _) => true
  | _ => false

def isText : Operand ρ → Bool
  | .text _ => true
  | _ => false

def isInt : Operand ρ → Bool
  | .scalar (.int _) => true
  | _ => false

/-- A number of results, if there is one. -/
def isCount : Operand ρ → Bool
  | .null => true
  | .scalar (.int _) => true
  | _ => false

/-- A source of a declared type, or what no loop accepts as its source. -/
def isSource (operand : Operand ρ) : Bool :=
  (Builder.sourceValue operand).toOption.all fun value =>
    Slot.isRestorable (Slot.source? value)

theorem exists_of_isName {operand : Operand ρ} (hname : operand.isName = true) :
    ∃ name, operand.toVariable = .ok (.text name) := by
  unfold isName at hname
  split at hname
  · exact ⟨_, rfl⟩
  · exact ⟨_, rfl⟩
  · cases hname

theorem exists_of_isText {operand : Operand ρ} (htext : operand.isText = true) :
    ∃ name, Slot.text? operand.raw = some (.proper name) := by
  unfold isText at htext
  split at htext
  · exact ⟨_, rfl⟩
  · cases htext

theorem exists_of_isInt {operand : Operand ρ} (hint : operand.isInt = true) :
    ∃ number, operand = .scalar (.int number) := by
  unfold isInt at hint
  split at hint
  · exact ⟨_, rfl⟩
  · cases hint

theorem isProper_count? {operand : Operand ρ}
    (hcount : operand.isCount = true) :
    (Slot.count? operand.raw).all Slot.isProper = true := by
  unfold isCount at hcount
  split at hcount
  · rfl
  · rfl
  · cases hcount

end Operand

/-- Are the arguments of a call typed?  Those that the call checks may be anything,
since it fails if they are not of their type. -/
def Call.isTyped : Call ρ → Bool
  | .useCollections names => names.all Operand.isText
  | .loop variableName => variableName.isName
  | .source given => given.isSource
  | .join collection variableName =>
      variableName.isName && collection.isSource
  | .graph _ _ _ _ _ options => options.isTyped
  | .filter condition => condition.isTyped
  | .declare _ value => value.isTyped
  | .addCollect clause => clause.parts.all Expr.isRestorable
  | .insert document | .replace _ document | .update _ document =>
      document.isTyped
  | .into collection => collection.isText
  | .addUpsert upsert => upsert.parts.all Expr.isRestorable
  | .updateWith _ updates _ _ => updates.isTyped
  | .search _ conditions options =>
      Operand.areTyped conditions && options.isTyped
  | .prune condition => condition.isTyped
  | .window _ _ aggregation _ => aggregation.isTyped
  | .result value _ => value.isTyped
  | .limit count skipped => count.isCount && skipped.isCount
  | .offset skipped => skipped.isCount
  | .paginate page size => page.isInt && size.isInt
  | .loops .. | .sort .. | .remove _ | .traverse .. => true

/-! ## What a typed call adds -/

theorem Record.forall_members_append {α : Type} {holds : α → Prop}
    {family : Option (List α)} {clause : α}
    (hfamily : ∀ member ∈ members family, holds member)
    (hclause : holds clause) :
    ∀ member ∈ members (append family clause), holds member := by
  rw [append, members, Option.getD_some, List.forall_mem_append]
  exact ⟨hfamily, by simpa using hclause⟩

/-- One member is replaced, if what replaces it holds what the others do. -/
theorem Record.forall_modify {α : Type} {holds : α → Prop} {change : α → α}
    (hchange : ∀ member, holds member → holds (change member))
    {clauses : List α} (hclauses : ∀ member ∈ clauses, holds member)
    (position : Nat) :
    ∀ member ∈ clauses.modify position change, holds member := by
  intro member hmember
  obtain ⟨index, hindex, rfl⟩ := List.getElem_of_mem hmember
  rw [List.getElem_modify]
  split
  · exact hchange _ (hclauses _ (List.getElem_mem _))
  · exact hclauses _ (List.getElem_mem _)

theorem Record.forall_members_map {α : Type} {holds : α → Prop}
    {change : List α → List α}
    (hchange : ∀ clauses, (∀ member ∈ clauses, holds member) →
      ∀ member ∈ change clauses, holds member)
    {family : Option (List α)}
    (hfamily : ∀ member ∈ members family, holds member) :
    ∀ member ∈ members (family.map change), holds member := by
  cases family with
  | none => exact hfamily
  | some clauses => exact hchange clauses hfamily

open Record (forall_members_append forall_members_map forall_modify)

/-- Can a record be read back with this clause? -/
def Addition.IsRestorable : Addition → Prop
  | .filter condition | .prune condition => condition.isRestorable = true
  | .declaration clause => clause.2.isRestorable = true
  | .grouping clause => clause.parts.all Expr.isRestorable = true
  | .operation given =>
      given.collection.all Slot.isProper = true ∧
        given.document.all Expr.isRestorable = true
  | .upsert clause => clause.parts.all Expr.isRestorable = true
  | .update clause => clause.parts.all Expr.isRestorable = true
  | .search clause =>
      clause.conditions.all Expr.isRestorable = true ∧
        clause.options.all Document.isRestorable = true
  | .window clause => clause.aggregation.isRestorable = true
  | .sort _ | .traversal _ => True

namespace Builder

variable {look : ρ → Query}

/-! ### Clauses -/

section Clauses

variable (hlook : ∀ handle, (Expr.subquery (look handle)).isRestorable = true)

include hlook

theorem isRestorable_declaration {name value : Operand ρ}
    {clause : String × Expr} (htyped : value.isTyped = true)
    (hclause : declaration look name value = .ok clause) :
    clause.2.isRestorable = true := by
  obtain ⟨expr, hexpr, hclause⟩ := exists_of_bind_eq_ok hclause
  obtain ⟨pair, accepted, hpair, haccept, rfl⟩ :=
    Checked.exists_of_seq (Checked.orInvalid_eq_ok hclause)
  obtain ⟨text, -, rfl⟩ := Checked.exists_of_map hpair
  exact Expr.isRestorable_of_accept
    (Operand.isRestorable_toValue hlook htyped hexpr) haccept

theorem isRestorable_pruneCondition {condition : Operand ρ} {accepted : Expr}
    (htyped : condition.isTyped = true)
    (haccepted : pruneCondition look condition = .ok accepted) :
    accepted.isRestorable = true := by
  obtain ⟨expr, hexpr, haccepted⟩ := exists_of_bind_eq_ok haccepted
  exact Expr.isRestorable_of_accept
    (Operand.isRestorable_toExpr hlook htyped hexpr)
    (Checked.orInvalid_eq_ok haccepted)

theorem isRestorable_windowClause
    {preceding following aggregation name : Operand ρ} {clause : Window Expr}
    (htyped : aggregation.isTyped = true)
    (hclause : windowClause look preceding following aggregation name =
      .ok clause) : clause.aggregation.isRestorable = true := by
  obtain ⟨expr, hexpr, hclause⟩ := exists_of_bind_eq_ok hclause
  obtain ⟨named, text, hnamed, -, rfl⟩ :=
    Checked.exists_of_seq (Checked.orInvalid_eq_ok hclause)
  obtain ⟨bounded, accepted, hbounded, haccept, rfl⟩ :=
    Checked.exists_of_seq hnamed
  obtain ⟨ended, last, hended, -, rfl⟩ := Checked.exists_of_seq hbounded
  obtain ⟨first, -, rfl⟩ := Checked.exists_of_map hended
  exact Expr.isRestorable_of_accept
    (Operand.isRestorable_toValue hlook htyped hexpr) haccept

theorem isRestorable_updateClause {document updates : Operand ρ}
    {collection loop : Value} {oldReference : Bool} {clause : Update Expr}
    (htyped : updates.isTyped = true)
    (hclause : updateClause look document updates collection loop
      oldReference = .ok clause) : clause.parts.all Expr.isRestorable = true := by
  obtain ⟨variableName, -, hclause⟩ := exists_of_bind_eq_ok hclause
  obtain ⟨path, hpath, hclause⟩ := exists_of_bind_eq_ok hclause
  obtain ⟨fields, hfields, hclause⟩ := exists_of_bind_eq_ok hclause
  obtain ⟨targeted, loop, htargeted, -, rfl⟩ :=
    Checked.exists_of_seq (Checked.orInvalid_eq_ok hclause)
  obtain ⟨given, target, hgiven, -, rfl⟩ := Checked.exists_of_seq htargeted
  obtain ⟨accepted, haccept, rfl⟩ := Checked.exists_of_map hgiven
  obtain ⟨text, -, rfl⟩ :=
    Checked.exists_of_map (Checked.orInvalid_eq_ok hpath)
  have haccepted := Expr.isRestorable_of_accept
    (Operand.isRestorable_toValue hlook htyped hfields) haccept
  simpa [Update.parts] using ⟨rfl, haccepted⟩

theorem isRestorable_searchClause {view : Value}
    {conditions : List (Operand ρ)} {options : Operand ρ} {clause : Search Expr}
    (hconditions : Operand.areTyped conditions = true)
    (hoptions : options.isTyped = true)
    (hclause : searchClause look view conditions options = .ok clause) :
    (Addition.search clause).IsRestorable := by
  obtain ⟨exprs, hexprs, hclause⟩ := exists_of_bind_eq_ok hclause
  obtain ⟨document, hdocument, hclause⟩ := exists_of_bind_eq_ok hclause
  obtain ⟨viewed, accepted, hviewed, haccept, rfl⟩ :=
    Checked.exists_of_seq (Checked.orInvalid_eq_ok hclause)
  obtain ⟨name, -, rfl⟩ := Checked.exists_of_map hviewed
  have hrestorable :=
    Operand.forall_isRestorable_toExprs hlook hconditions exprs hexprs
  rw [Expr.traverse_accept fun expr hexpr =>
    Expr.isNode_of_isRestorable (hrestorable expr hexpr)] at haccept
  obtain rfl := Checked.ok.inj haccept
  exact ⟨List.all_eq_true.2 hrestorable,
    Operand.isRestorable_toOptions hlook hoptions hdocument⟩

theorem isRestorable_someDocument {operand : Operand ρ}
    {document : Option Expr} (htyped : operand.isTyped = true)
    (hdocument : someDocument look operand = .ok document) :
    document.all Expr.isRestorable = true := by
  unfold someDocument at hdocument
  split at hdocument
  · exact Except.ok.inj hdocument ▸ rfl
  · obtain ⟨expr, hexpr, rfl⟩ := exists_of_map_eq_ok hdocument
    exact Operand.isRestorable_toValue hlook htyped hexpr

omit hlook

/-- Only a view with a name is searched. -/
theorem eq_of_searchClause {view : Value} {conditions : List (Operand ρ)}
    {options : Operand ρ} {clause : Search Expr}
    (hclause : searchClause look view conditions options = .ok clause) :
    view = .text clause.view := by
  obtain ⟨exprs, -, hclause⟩ := exists_of_bind_eq_ok hclause
  obtain ⟨document, -, hclause⟩ := exists_of_bind_eq_ok hclause
  obtain ⟨viewed, accepted, hviewed, -, rfl⟩ :=
    Checked.exists_of_seq (Checked.orInvalid_eq_ok hclause)
  obtain ⟨name, hname, rfl⟩ := Checked.exists_of_map hviewed
  exact Check.text_eq_ok_iff.1 hname

theorem isRestorable_ofParts {kind : OperationKind} {target : Option Value}
    {document : Option Expr} {operation : Operation Expr}
    (hdocument : document.all Expr.isRestorable = true)
    (hoperation : Operation.ofParts kind target document = .ok operation) :
    (Addition.operation operation).IsRestorable := by
  obtain ⟨targeted, accepted, htargeted, haccept, rfl⟩ :=
    Checked.exists_of_seq (Checked.orInvalid_eq_ok hoperation)
  obtain ⟨name, -, rfl⟩ := Checked.exists_of_map htargeted
  refine ⟨rfl, ?_⟩
  cases document with
  | none => exact Checked.ok.inj haccept ▸ rfl
  | some expr => exact Expr.isRestorable_of_acceptSome hdocument haccept

include hlook

theorem isRestorable_operation? {call : Call ρ} {operation : Operation Expr}
    (htyped : call.isTyped = true)
    (hcall : call.operation? look = some (.ok operation)) :
    (Addition.operation operation).IsRestorable := by
  cases call with
  | insert document =>
      obtain ⟨expr, hexpr, hparts⟩ := exists_of_bind_eq_ok (Option.some.inj hcall)
      have hdocument : (some expr).all Expr.isRestorable = true :=
        Operand.isRestorable_toValue hlook htyped hexpr
      exact isRestorable_ofParts hdocument hparts
  | replace target document =>
      obtain ⟨name, -, hparts⟩ := exists_of_bind_eq_ok (Option.some.inj hcall)
      obtain ⟨expr, hexpr, hparts⟩ := exists_of_bind_eq_ok hparts
      exact isRestorable_ofParts
        (isRestorable_someDocument hlook htyped hexpr) hparts
  | remove target =>
      obtain ⟨name, -, hparts⟩ := exists_of_bind_eq_ok (Option.some.inj hcall)
      exact isRestorable_ofParts rfl hparts
  | update target document =>
      obtain ⟨name, -, hparts⟩ := exists_of_bind_eq_ok (Option.some.inj hcall)
      obtain ⟨expr, hexpr, hparts⟩ := exists_of_bind_eq_ok hparts
      have hdocument : (some expr).all Expr.isRestorable = true :=
        Operand.isRestorable_toValue hlook htyped hexpr
      exact isRestorable_ofParts hdocument hparts
  | _ => cases hcall

/-- A typed call adds a restorable clause. -/
theorem isRestorable_addition? (record : Query) {call : Call ρ}
    {addition : Addition} (htyped : call.isTyped = true)
    (hcall : call.addition? look record = some (.ok addition)) :
    addition.IsRestorable := by
  cases call with
  | addCollect | addUpsert =>
      obtain rfl := Except.ok.inj (Option.some.inj hcall)
      exact htyped
  | filter condition =>
      obtain ⟨expr, hexpr, rfl⟩ := exists_of_map_eq_ok (Option.some.inj hcall)
      exact Operand.isRestorable_toExpr hlook htyped hexpr
  | declare name value =>
      obtain ⟨clause, hclause, rfl⟩ :=
        exists_of_map_eq_ok (Option.some.inj hcall)
      exact isRestorable_declaration hlook htyped hclause
  | sort | traverse =>
      obtain ⟨clause, -, rfl⟩ := exists_of_map_eq_ok (Option.some.inj hcall)
      trivial
  | updateWith document updates collection oldReference =>
      obtain ⟨clause, hclause, rfl⟩ :=
        exists_of_map_eq_ok (Option.some.inj hcall)
      exact isRestorable_updateClause hlook htyped hclause
  | prune condition =>
      obtain ⟨expr, hexpr, rfl⟩ := exists_of_map_eq_ok (Option.some.inj hcall)
      exact isRestorable_pruneCondition hlook htyped hexpr
  | window preceding following aggregation name =>
      obtain ⟨clause, hclause, rfl⟩ :=
        exists_of_map_eq_ok (Option.some.inj hcall)
      exact isRestorable_windowClause hlook htyped hclause
  | insert | replace | remove | update =>
      obtain ⟨operation, hoperation, rfl⟩ :=
        exists_of_map_eq_ok (Option.some.inj hcall)
      exact isRestorable_operation? hlook htyped (congrArg some hoperation)
  | _ => cases hcall

end Clauses

section Records

variable {record after : Query}

theorem isRestorable_addFilter {condition : Expr}
    (hrecord : record.IsRestorable) (hcondition : condition.isRestorable = true) :
    (record.addFilter condition).IsRestorable := by
  unfold Query.addFilter
  split
  · exact { hrecord with
      filtersAfterCollect :=
        forall_members_append hrecord.filtersAfterCollect hcondition }
  · exact { hrecord with
      filters := forall_members_append hrecord.filters hcondition }

theorem isRestorable_addLet {clause : String × Expr}
    (hrecord : record.IsRestorable) (hclause : clause.2.isRestorable = true) :
    (record.addLet clause).IsRestorable := by
  unfold Query.addLet
  split
  · exact { hrecord with
      letsAfterCollect :=
        forall_members_append hrecord.letsAfterCollect hclause }
  · exact { hrecord with
      letsBeforeCollect :=
        forall_members_append hrecord.letsBeforeCollect hclause }

theorem isRestorable_add {addition : Addition}
    (hrecord : record.IsRestorable) (haddition : addition.IsRestorable) :
    (record.add addition).IsRestorable := by
  cases addition with
  | filter condition => exact isRestorable_addFilter hrecord haddition
  | declaration clause => exact isRestorable_addLet hrecord haddition
  | sort | traversal => exact { hrecord with }
  | grouping clause =>
      exact { hrecord with
        collects := forall_members_append hrecord.collects haddition }
  | operation operation =>
      exact { hrecord with
        operations := forall_members_append hrecord.operations haddition }
  | upsert clause =>
      exact { hrecord with
        upserts := forall_members_append hrecord.upserts haddition }
  | update clause =>
      exact { hrecord with
        updates := forall_members_append hrecord.updates haddition }
  | search clause =>
      exact { hrecord with
        searches := forall_members_append hrecord.searches haddition }
  | prune condition =>
      exact { hrecord with
        prunes := forall_members_append hrecord.prunes haddition }
  | window clause =>
      exact { hrecord with
        windows := forall_members_append hrecord.windows haddition }

theorem isRestorable_setResult {value distinct : Operand ρ}
    (hlook : ∀ handle, (Expr.subquery (look handle)).isRestorable = true)
    (hrecord : record.IsRestorable) (htyped : value.isTyped = true)
    (hafter : setResult look record value distinct = .ok after) :
    after.IsRestorable := by
  obtain ⟨expr, distinct, hexpr, rfl⟩ := exists_of_setResult hafter
  exact { hrecord with
    result := Expr.isRestorable_present?
      (Operand.isRestorable_toValue hlook htyped hexpr) }

theorem isRestorable_claimView {name : String} (hrecord : record.IsRestorable)
    (hafter : claimView record (.text name) = .ok after) :
    after.IsRestorable := by
  obtain ⟨-, rfl⟩ | ⟨-, rfl⟩ := of_claimView hafter
  · exact { hrecord with source := rfl }
  · exact hrecord

theorem isRestorable_into {collection : Operand ρ}
    (hrecord : record.IsRestorable) (htext : collection.isText = true)
    (hafter : into record collection = .ok after) : after.IsRestorable := by
  obtain ⟨name, hname⟩ := Operand.exists_of_isText htext
  unfold into at hafter
  split at hafter
  · cases hafter
  · obtain rfl := Except.ok.inj hafter
    exact { hrecord with
      operations := forall_members_map
        (fun operations hoperations => forall_modify
          (fun operation hoperation => ⟨by rw [hname]; rfl, hoperation.2⟩)
          hoperations _)
        hrecord.operations }

theorem isRestorable_setLimit {count offset : Operand ρ}
    (hrecord : record.IsRestorable) (hcount : count.isCount = true)
    (hoffset : offset.isCount = true) :
    (setLimit record count offset).IsRestorable := by
  have hlimit : Query.IsRestorable
      { record with limit := Slot.count? count.raw } :=
    { hrecord with limit := Operand.isProper_count? hcount }
  unfold setLimit
  split
  · exact hlimit
  · exact { hlimit with offset := Operand.isProper_count? hoffset }

end Records

section Loops

variable {builder after : Builder}

theorem isRestorable_setSource {source : Option (Slot (Source Expr))}
    (hbuilder : builder.record.IsRestorable)
    (hsource : Slot.isRestorable source = true) :
    (builder.setSource source).record.IsRestorable := by
  unfold setSource
  split
  · have hgiven (join : Join Expr)
        (_ : Slot.isRestorable join.source = true) :
        Slot.isRestorable { join with source }.source = true := hsource
    exact { hbuilder with
      joins := forall_members_map
        (fun joins hjoins => forall_modify hgiven hjoins _) hbuilder.joins }
  · exact { hbuilder with source := hsource }

theorem isRestorable_openLoop {variableName : Operand ρ}
    (hbuilder : builder.record.IsRestorable)
    (hname : variableName.isName = true)
    (hafter : builder.openLoop variableName = .ok after) :
    after.record.IsRestorable := by
  obtain ⟨name, hvariable⟩ := Operand.exists_of_isName hname
  obtain ⟨given, hgiven, hafter⟩ := exists_of_openLoop hafter
  obtain rfl := Except.ok.inj (hvariable.symm.trans hgiven)
  obtain ⟨-, loop, -, rfl⟩ | ⟨-, rfl⟩ := hafter
  · exact { hbuilder with joins := forall_members_append hbuilder.joins rfl }
  · exact { hbuilder with loop := rfl }

theorem isRestorable_iterate {source : Operand ρ}
    (hbuilder : builder.record.IsRestorable)
    (hsource : source.isSource = true)
    (hafter : builder.iterate source = .ok after) :
    after.record.IsRestorable := by
  obtain ⟨value, collection, hvalue, rfl⟩ := exists_of_iterate hafter
  rw [Operand.isSource, hvalue] at hsource
  exact isRestorable_setSource { hbuilder with } hsource

theorem isRestorable_graph {traversal : GraphSource Expr}
    (hoptions : traversal.options.all Document.isRestorable = true) :
    Slot.isRestorable (some (.proper (.graph traversal))) = true := by
  obtain ⟨graph, direction, startVertex, minDepth, maxDepth, options⟩ := traversal
  cases options with
  | none => rfl
  | some options => exact hoptions

theorem isRestorable_iterateGraph
    {graph directionWord vertex minDepth maxDepth options : Operand ρ}
    (hlook : ∀ handle, (Expr.subquery (look handle)).isRestorable = true)
    (hbuilder : builder.record.IsRestorable)
    (htyped : options.isTyped = true)
    (hafter : builder.iterateGraph look graph directionWord vertex minDepth
      maxDepth options = .ok after) : after.record.IsRestorable := by
  obtain ⟨traversal, hdocument, rfl⟩ := exists_of_iterateGraph hafter
  exact isRestorable_setSource hbuilder (isRestorable_graph
    (Operand.isRestorable_toOptions hlook htyped hdocument))

end Loops

/-! ## Calls on a builder -/

theorem pageOffset_int {page size : Int} {offset : Scalar}
    (hoffset : pageOffset (.int page) (.int size) = .ok offset) :
    offset = .int ((page - 1) * size) := by
  by_cases hpage : (Number.int page).belowOne = true
  · simp [pageOffset, Number.ofValue?, hpage] at hoffset
    cases hoffset
  · by_cases hsize : (Number.int size).belowOne = true
    · simp [pageOffset, Number.ofValue?, hpage, hsize] at hoffset
      cases hoffset
    · simp [pageOffset, Number.ofValue?, hpage, hsize] at hoffset
      exact (Except.ok.inj hoffset).symm

theorem isRestorable_call
    (hlook : ∀ handle, (Expr.subquery (look handle)).isRestorable = true)
    {builder after : Builder} {call : Call ρ}
    (hbuilder : builder.record.IsRestorable) (htyped : call.isTyped = true)
    (hafter : (builder.perform (fun _ => look) call).success? = some after) :
    after.record.IsRestorable := by
  cases call with
  | filter | declare | addCollect | sort | insert | replace | remove | update
  | addUpsert | updateWith | traverse | prune | window =>
      obtain ⟨addition, haddition, rfl⟩ := exists_of_addition? rfl hafter
      exact isRestorable_add hbuilder
        (isRestorable_addition? hlook builder.record htyped
          (congrArg some haddition))
  | useCollections names =>
      obtain rfl := Option.some.inj hafter
      change Query.IsRestorable (if names.isEmpty then builder.record else _)
      split
      · exact hbuilder
      · refine { hbuilder with withCollections := ?_ }
        rw [members, Option.getD_some, List.forall_mem_append]
        refine ⟨hbuilder.withCollections, ?_⟩
        rw [List.forall_mem_map]
        intro operand hoperand
        obtain ⟨name, hname⟩ :=
          Operand.exists_of_isText (List.all_eq_true.1 htyped operand hoperand)
        rw [lockedCollection, hname]
        rfl
  | loop variableName =>
      exact isRestorable_openLoop hbuilder htyped (of_success?_attempt hafter)
  | source given =>
      exact isRestorable_iterate hbuilder htyped (of_success?_attempt hafter)
  | join collection variableName =>
      obtain ⟨hname, hsource⟩ := Bool.and_eq_true_iff.1 htyped
      obtain ⟨opened, hopen, hiterate⟩ := of_success?_andThen hafter
      exact isRestorable_iterate
        (isRestorable_openLoop hbuilder hname (of_success?_attempt hopen))
        hsource (of_success?_attempt hiterate)
  | graph graph direction startVertex minDepth maxDepth options =>
      exact isRestorable_iterateGraph hlook hbuilder htyped
        (of_success?_attempt hafter)
  | limit count skipped =>
      obtain rfl := Option.some.inj hafter
      obtain ⟨hcount, hskipped⟩ := Bool.and_eq_true_iff.1 htyped
      exact isRestorable_setLimit hbuilder hcount hskipped
  | offset skipped =>
      obtain rfl := Option.some.inj hafter
      exact { hbuilder with offset := Operand.isProper_count? htyped }
  | search view conditions options =>
      obtain ⟨hconditions, hoptions⟩ := Bool.and_eq_true_iff.1 htyped
      obtain ⟨claimed, clause, hclaim, hclause, rfl⟩ := exists_of_search hafter
      rw [eq_of_searchClause hclause] at hclaim
      exact isRestorable_add (isRestorable_claimView hbuilder hclaim)
        (isRestorable_searchClause hlook hconditions hoptions hclause)
  | paginate page size =>
      obtain ⟨hpage, hsize⟩ := Bool.and_eq_true_iff.1 htyped
      obtain ⟨page, rfl⟩ := Operand.exists_of_isInt hpage
      obtain ⟨size, rfl⟩ := Operand.exists_of_isInt hsize
      obtain ⟨record, hrecord, rfl⟩ := of_success?_onRecord hafter
      obtain ⟨offset, hoffset, rfl⟩ := exists_of_map_eq_ok hrecord
      obtain rfl := pageOffset_int hoffset
      have hcount (number : Int) :
          (Operand.scalar (.int number) : Operand ρ).isCount = true := rfl
      exact isRestorable_setLimit hbuilder (hcount size) (hcount _)
  | result value distinct =>
      obtain ⟨record, hrecord, rfl⟩ := of_success?_onRecord hafter
      exact isRestorable_setResult hlook hbuilder htyped hrecord
  | into collection =>
      obtain ⟨record, hrecord, rfl⟩ := of_success?_onRecord hafter
      exact isRestorable_into hbuilder htyped hrecord
  | loops vertex edge path =>
      obtain ⟨record, hrecord, rfl⟩ := of_success?_onRecord hafter
      obtain ⟨names, rfl⟩ := exists_of_nameLoops hrecord
      exact { hbuilder with }

end Builder

/-! ## Calls on stages -/

namespace Stage

/-- Are the keys and the parts that a stage has collected typed? -/
def isTyped : Stage ρ → Bool
  | .collect keys aggregates =>
      keys.all (·.2.isTyped) && aggregates.all (·.2.isRestorable)
  | .collectKeep keys _ => keys.all (·.2.isTyped)
  | .upsertInsert search => search.isRestorable
  | .upsertUpdate search insert => search.isRestorable && insert.isRestorable
  | .upsertInto search insert update =>
      search.isRestorable && insert.isRestorable && update.isRestorable

end Stage

def StageCall.isTyped : StageCall ρ → Bool
  | .aggregate _ _ expression => expression.isTyped
  | .aggregateAll aggregates => aggregates.all (·.2.isTyped)
  | .insert document | .update document => document.isTyped
  | .finish | .into _ | .sort .. => true

theorem StageCall.isTyped_given {call : StageCall ρ}
    (hcall : call.isTyped = true) :
    (call.given.map (Prod.map Value.text id)).all (·.2.isTyped) = true := by
  cases call with
  | aggregateAll aggregates => simpa [given, isTyped] using hcall
  | _ => rfl

namespace Stage

variable {look : ρ → Query}

theorem isRestorable_of_becomes
    (hlook : ∀ handle, (Expr.subquery (look handle)).isRestorable = true)
    {operand : Operand ρ} {expr : Expr} (htyped : operand.isTyped = true)
    (hexpr : operand.Becomes look expr) : expr.isRestorable = true := by
  obtain ⟨given, hgiven, haccept⟩ := hexpr
  exact Expr.isRestorable_of_accept
    (Operand.isRestorable_toValue hlook htyped hgiven) haccept

theorem forall_parts_of_namedAs {α : Type} {becomes : α → Expr → Prop}
    {given : List (Value × α)} {document : Document Expr}
    (hnamed : List.Forall₂ (NamedAs becomes) given document)
    (hgiven : ∀ item ∈ given, ∀ expr, becomes item.2 expr →
      expr.isRestorable = true) :
    (Document.parts document).all Expr.isRestorable = true := by
  rw [Document.forall_parts]
  induction hnamed with
  | nil => exact List.forall_mem_nil _
  | cons hpart hrest hparts =>
      obtain ⟨hfirst, hgiven⟩ := List.forall_mem_cons.1 hgiven
      exact List.forall_mem_cons.2 ⟨hfirst _ hpart.2, hparts hgiven⟩

theorem forall_parts_of_keys
    (hlook : ∀ handle, (Expr.subquery (look handle)).isRestorable = true)
    {keys : List (Value × Operand ρ)} {document : Document Expr}
    (hkeys : keys.all (·.2.isTyped) = true)
    (hnamed : List.Forall₂ (NamedAs (Operand.Becomes look)) keys document) :
    (Document.parts document).all Expr.isRestorable = true :=
  forall_parts_of_namedAs hnamed fun key hkey _ hexpr =>
    isRestorable_of_becomes hlook (List.all_eq_true.1 hkeys key hkey) hexpr

theorem isRestorable_collectClause
    (hlook : ∀ handle, (Expr.subquery (look handle)).isRestorable = true)
    {keys : List (Value × Operand ρ)} {aggregates : List (Value × Expr)}
    {into : Value} {collect : Collect Expr}
    (hkeys : keys.all (·.2.isTyped) = true)
    (haggregates : aggregates.all (·.2.isRestorable) = true)
    (hcollect : collectClause look keys aggregates into = .ok collect) :
    collect.parts.all Expr.isRestorable = true := by
  obtain ⟨hkeyParts, haggregateParts, -, -⟩ := collectClause_eq_ok_iff.1 hcollect
  rw [Collect.parts, List.all_append, forall_parts_of_keys hlook hkeys hkeyParts,
    Bool.true_and]
  exact forall_parts_of_namedAs haggregateParts fun aggregate haggregate _ hpart =>
    Expr.isRestorable_of_accept
      (List.all_eq_true.1 haggregates aggregate haggregate) hpart

theorem isRestorable_upsertClause {search insert update : Expr}
    {collection : Value} {upsert : Upsert Expr}
    (hparts : (search.isRestorable && insert.isRestorable &&
      update.isRestorable) = true)
    (hupsert : upsertClause search insert update collection = .ok upsert) :
    upsert.parts.all Expr.isRestorable = true := by
  rw [Bool.and_eq_true, Bool.and_eq_true] at hparts
  obtain ⟨⟨hsearch, hinsert⟩, hupdate⟩ := hparts
  obtain ⟨hsearched, hinserted, hupdated, -⟩ := exists_of_upsertClause hupsert
  simp [Upsert.parts, Expr.isRestorable_of_accept hsearch hsearched,
    Expr.isRestorable_of_accept hinsert hinserted,
    Expr.isRestorable_of_accept hupdate hupdated]

section Builders

variable {builder after : Builder}

theorem isRestorable_of_gains {call : StageCall ρ} {clause : StagedClause}
    (hbuilder : builder.record.IsRestorable)
    (hgains : Gains builder after call clause)
    (hclause : clause.addition.IsRestorable) : after.record.IsRestorable := by
  obtain ⟨sorts, -, rfl⟩ := hgains
  have hadded : (clause.addTo builder.record).IsRestorable := by
    rw [StagedClause.addTo_eq]
    exact Builder.isRestorable_add hbuilder hclause
  exact { hadded with }

/-- A stage is finished by handing over one clause, which is made of the parts that
the stage has collected. -/
theorem isRestorable_stageCall
    (hlook : ∀ handle, (Expr.subquery (look handle)).isRestorable = true)
    {stage : Stage ρ} {call : StageCall ρ}
    (hbuilder : builder.record.IsRestorable)
    (hstage : stage.isTyped = true) (hcall : call.isTyped = true)
    (hafter : (stage.perform (fun _ => look) builder call).parent? =
      some after) : after.record.IsRestorable := by
  cases stage with
  | collect keys aggregates =>
      obtain ⟨hkeys, haggregates⟩ := Bool.and_eq_true_iff.1 hstage
      obtain ⟨collect, hcollect, hgains⟩ := exists_of_parent_collect hafter
      exact isRestorable_of_gains hbuilder hgains
        (isRestorable_collectClause hlook hkeys haggregates hcollect)
  | collectKeep keys keep =>
      cases call with
      | sort field direction =>
          obtain ⟨key, rfl⟩ := onlySorts_of_parent_collectKeep hafter
          exact { hbuilder with }
      | _ =>
          obtain ⟨parts, aggregates, collect, hparts, hgiven, hcollect, hgains⟩ :=
            exists_of_parent_collectKeep (by simp) hafter
          obtain ⟨rfl, rfl, -, -⟩ := clause_eq_ok_iff.1 hcollect
          have hkeys := forall_parts_of_keys hlook hstage
            (convertKeys_eq_ok_iff.1 hparts)
          have haggregates := forall_parts_of_keys hlook
            (StageCall.isTyped_given hcall) hgiven
          refine isRestorable_of_gains hbuilder hgains ?_
          show (Document.parts collect.keys ++
            Document.parts collect.aggregates).all Expr.isRestorable = true
          rw [List.all_append, hkeys, haggregates]
          rfl
  | upsertInsert search =>
      cases (parent?_upsertInsert search call).symm.trans hafter
  | upsertUpdate search insert =>
      cases (parent?_upsertUpdate search insert call).symm.trans hafter
  | upsertInto search insert update =>
      obtain ⟨upsert, hupsert, hgains⟩ := exists_of_parent_upsertInto hafter
      exact isRestorable_of_gains hbuilder hgains
        (isRestorable_upsertClause hstage hupsert)

end Builders

end Stage

/-! ## Chains of typed calls -/

/-- Are the arguments of a step typed?  A condition has to be typed whatever
references it is made from. -/
def ChainStep.IsTyped : ChainStep → Prop
  | .call request => request.isTyped = true
  | .pruneWith condition =>
      ∀ references operand, condition references = .ok operand →
        operand.isTyped = true
  | .finish stage request => stage.isTyped = true ∧ request.isTyped = true

namespace Builder

section Chains

variable {look : Nat → Query} {start builder after : Builder}
variable (hlook : ∀ handle, (Expr.subquery (look handle)).isRestorable = true)

include hlook

theorem isRestorable_step {step : ChainStep}
    (hbuilder : builder.record.IsRestorable) (htyped : step.IsTyped)
    (hafter : step.perform look builder = some after) :
    after.record.IsRestorable := by
  cases step with
  | call request => exact isRestorable_call hlook hbuilder htyped hafter
  | pruneWith condition =>
      rw [ChainStep.perform] at hafter
      split at hafter
      · rename_i operand hoperand
        have hprune : (Call.prune operand : Call Nat).isTyped = true :=
          htyped _ _ hoperand
        exact isRestorable_call hlook hbuilder hprune hafter
      · cases hafter
  | finish stage request =>
      exact Stage.isRestorable_stageCall hlook hbuilder htyped.1 htyped.2 hafter

theorem isRestorable_ofInitial {initial : Operand Nat}
    (hinitial : initial.isTyped = true)
    (hstart : ofInitial look initial = .ok start) :
    start.record.IsRestorable := by
  obtain ⟨collection, rfl⟩ | ⟨expr, hexpr, rfl⟩ := exists_of_ofInitial hstart
  · exact { Query.isRestorable_empty with }
  · exact { Query.isRestorable_empty with
      result := Expr.isRestorable_present?
        (Operand.isRestorable_toExpr hlook hinitial hexpr) }

/-- What typed calls make of a new builder has a snapshot that it is read back
from. -/
theorem isRestorable_of_runChain {initial : Operand Nat}
    {steps : List ChainStep} (hinitial : initial.isTyped = true)
    (hstart : ofInitial look initial = .ok start)
    (hsteps : ∀ step ∈ steps, step.IsTyped)
    (hrun : runChain look start steps = some builder) :
    builder.record.IsRestorable :=
  runChain_keeps (motive := fun builder => builder.record.IsRestorable)
    (fun step hstep _ _ hbuilder hafter =>
      isRestorable_step hlook hbuilder (hsteps step hstep) hafter)
    hrun (isRestorable_ofInitial hlook hinitial hstart)

end Chains

end Builder

end ArangoQuery
