import ArangoQuery.Proofs.Successes
import Mathlib.Data.List.Forall2

/-!
# Calls on stages that return

A stage hands its clause to the builder when a call on it returns.  The parts of
the clause are what its keys and its aggregations become
(`Stage.collectClause_eq_ok_iff`), and the builder gains the clause, and a sort if
the call asks for one (`Stage.Gains`).  Sorting a grouping that keeps variables
returns too, but without the clause (`Stage.OnlySorts`).
-/

namespace ArangoQuery

/-! ## Parts that are accepted one by one -/

section Members

variable {α β : Type}

theorem Checked.forall₂_of_traverse {check : α → Checked β}
    {values : List α} {results : List β}
    (hresults : traverse check values = .ok results) :
    List.Forall₂ (fun value result => check value = .ok result) values
      results := by
  induction values generalizing results with
  | nil =>
      obtain rfl := Checked.ok.inj hresults
      exact .nil
  | cons value rest hrest =>
      rw [traverse] at hresults
      cases hvalue : check value with
      | rejected faults =>
          rw [hvalue] at hresults
          cases hresults
      | ok result =>
          cases htail : traverse check rest with
          | rejected faults =>
              rw [hvalue, htail] at hresults
              cases hresults
          | ok tail =>
              rw [hvalue, htail] at hresults
              obtain rfl := Checked.ok.inj hresults
              exact .cons hvalue (hrest htail)

theorem mapM_eq_ok_iff {step : α → Except Error β} {items : List α}
    {results : List β} :
    items.mapM step = .ok results ↔
      List.Forall₂ (fun item result => step item = .ok result) items results := by
  induction items generalizing results with
  | nil => simp [pure, Except.pure, eq_comm]
  | cons item rest hrest =>
      rw [List.mapM_cons, List.forall₂_cons_left_iff]
      constructor
      · intro hresults
        obtain ⟨first, hfirst, hresults⟩ := exists_of_bind_eq_ok hresults
        obtain ⟨others, hothers, hresults⟩ := exists_of_bind_eq_ok hresults
        exact ⟨first, others, hfirst, hrest.1 hothers,
          (Except.ok.inj hresults).symm⟩
      · rintro ⟨first, others, hfirst, hothers, rfl⟩
        rw [hfirst, hrest.2 hothers]
        rfl

end Members

theorem traverse_text_eq_ok_iff {values : List Value} {names : List String} :
    Checked.traverse Check.text values = .ok names ↔
      values = names.map .text := by
  constructor
  · intro hvalues
    have htexts := Checked.forall₂_of_traverse hvalues
    simp only [Check.text_eq_ok_iff] at htexts
    rwa [← List.forall₂_eq_eq_eq, List.forall₂_map_right_iff]
  · rintro rfl
    exact Checked.traverse_map_ok Check.text .text names fun _ _ => rfl

/-! ## Operands in clauses -/

namespace Operand

variable {ρ : Type}

/-- The operand is converted to an expression that a clause accepts. -/
def Becomes (look : ρ → Query) (operand : Operand ρ) (expr : Expr) : Prop :=
  ∃ given, operand.toValue look = .ok given ∧ given.accept = .ok expr

end Operand

/-- A clause accepts the expression, as it is or read as a typed record. -/
def Expr.Becomes (given accepted : Expr) : Prop :=
  given.accept = .ok accepted

/-- A named part of a grouping: the name is a text, and what is given under it
becomes the expression. -/
def NamedAs {α : Type} (becomes : α → Expr → Prop) (given : Value × α)
    (part : String × Expr) : Prop :=
  given.1 = .text part.1 ∧ becomes given.2 part.2

/-! ## Clauses and what calls say about them -/

/-- A clause that a stage is there for. -/
inductive StagedClause where
  | grouping (collect : Collect Expr)
  | upsert (clause : Upsert Expr)

namespace StagedClause

/-- The record with one clause more. -/
def addTo (record : Query) : StagedClause → Query
  | .grouping collect =>
      { record with collects := Record.append record.collects collect }
  | .upsert clause =>
      { record with upserts := Record.append record.upserts clause }

def addition : StagedClause → Addition
  | .grouping collect => .grouping collect
  | .upsert clause => .upsert clause

theorem addTo_eq (record : Query) (clause : StagedClause) :
    clause.addTo record = record.add clause.addition := by
  cases clause <;> rfl

end StagedClause

namespace StageCall

variable {ρ : Type}

/-- The name that a call gives to groups, or to a collection. -/
def target : StageCall ρ → Value
  | .into name => name.raw
  | _ => .null

/-- The aggregations that a call gives all at once. -/
def given : StageCall ρ → List (String × Operand ρ)
  | .aggregateAll aggregates => aggregates
  | _ => []

end StageCall

def Builder.withGrouping (builder : Builder) (collect : Collect Expr) : Builder :=
  { builder with
    record :=
      { builder.record with
        collects := Record.append builder.record.collects collect } }

variable {ρ : Type}

/-- The stage that a call leads to, if it does not get back to the builder. -/
def StageResult.stage? : StageResult ρ → Option (Stage ρ)
  | .same stage | .next stage => some stage
  | _ => none

namespace Stage

/-! ## Clauses and their parts -/

theorem namedPart_eq_ok_iff {model : String} {name : Value} {given : Expr}
    {part : String × Expr} :
    namedPart model name given = .ok part ↔
      name = .text part.1 ∧ given.accept = .ok part.2 := by
  constructor
  · intro hpart
    obtain ⟨pair, accepted, hpair, haccept, rfl⟩ :=
      Checked.exists_of_seq (Checked.orInvalid_eq_ok hpart)
    obtain ⟨text, htext, rfl⟩ := Checked.exists_of_map hpair
    exact ⟨Check.text_eq_ok_iff.1 htext, haccept⟩
  · rintro ⟨rfl, haccept⟩
    rw [namedPart, haccept]
    rfl

theorem namedParts_eq_ok_iff (model : String) {look : ρ → Query}
    {given : List (Value × Operand ρ)} {parts : Document Expr} :
    (given.mapM fun (key, operand) => do
        namedPart model key (← operand.toValue look)) = .ok parts ↔
      List.Forall₂ (NamedAs (Operand.Becomes look)) given parts := by
  rw [mapM_eq_ok_iff]
  refine iff_of_eq (congrArg (List.Forall₂ · given parts) ?_)
  funext ⟨key, operand⟩ part
  refine propext ⟨fun hpart => ?_, ?_⟩
  · obtain ⟨value, hvalue, hpart⟩ := exists_of_bind_eq_ok hpart
    obtain ⟨hkey, haccept⟩ := namedPart_eq_ok_iff.1 hpart
    exact ⟨hkey, value, hvalue, haccept⟩
  · rintro ⟨hkey, value, hvalue, haccept⟩
    simp only [hvalue]
    exact namedPart_eq_ok_iff.2 ⟨hkey, haccept⟩

theorem convertKeys_eq_ok_iff {look : ρ → Query}
    {keys : List (Value × Operand ρ)} {parts : Document Expr} :
    convertKeys look keys = .ok parts ↔
      List.Forall₂ (NamedAs (Operand.Becomes look)) keys parts :=
  namedParts_eq_ok_iff "CollectVariable"

theorem clause_eq_ok_iff {keys aggregates : Document Expr} {into : Value}
    {keep : Option (List Value)} {clause : Collect Expr} :
    Stage.clause keys aggregates into keep = .ok clause ↔
      clause.keys = keys ∧ clause.aggregates = aggregates ∧
        Check.nullable Check.text into = .ok clause.into ∧
        keep = clause.keep.map (List.map .text) := by
  obtain ⟨clauseKeys, clauseInto, clauseAggregates, clauseKeep⟩ := clause
  constructor
  · intro hclause
    obtain ⟨build, kept, hbuild, hkeep, hclause⟩ :=
      Checked.exists_of_seq (Checked.orInvalid_eq_ok hclause)
    obtain ⟨group, hgroup, rfl⟩ := Checked.exists_of_map hbuild
    cases hclause
    refine ⟨rfl, rfl, hgroup, ?_⟩
    cases keep with
    | none => cases hkeep; rfl
    | some names =>
        obtain ⟨texts, htexts, rfl⟩ := Checked.exists_of_map hkeep
        exact congrArg some (traverse_text_eq_ok_iff.1 htexts)
  · rintro ⟨rfl, rfl, hinto, rfl⟩
    simp only at hinto
    unfold Stage.clause
    rw [hinto]
    cases clauseKeep with
    | none => rfl
    | some names =>
        have hnames : Checked.traverse Check.text (names.map .text) =
            .ok names := traverse_text_eq_ok_iff.2 rfl
        simp only [Option.map_some, hnames]
        rfl

/-- The clause of a grouping has the parts that its keys and its aggregations
become. -/
theorem collectClause_eq_ok_iff {look : ρ → Query}
    {keys : List (Value × Operand ρ)} {aggregates : List (Value × Expr)}
    {into : Value} {clause : Collect Expr} :
    collectClause look keys aggregates into = .ok clause ↔
      List.Forall₂ (NamedAs (Operand.Becomes look)) keys clause.keys ∧
        List.Forall₂ (NamedAs Expr.Becomes) aggregates clause.aggregates ∧
        Check.nullable Check.text into = .ok clause.into ∧
        clause.keep = none := by
  have haggregates {parts : Document Expr} :
      (aggregates.mapM fun entry =>
        namedPart "CollectAggregate" entry.1 entry.2) = .ok parts ↔
      List.Forall₂ (NamedAs Expr.Becomes) aggregates parts := by
    rw [mapM_eq_ok_iff]
    simp only [namedPart_eq_ok_iff]
    rfl
  constructor
  · intro hclause
    obtain ⟨parts, hparts, hclause⟩ := exists_of_bind_eq_ok hclause
    obtain ⟨entries, hentries, hclause⟩ := exists_of_bind_eq_ok hclause
    obtain ⟨rfl, rfl, hinto, hkeep⟩ := clause_eq_ok_iff.1 hclause
    exact ⟨convertKeys_eq_ok_iff.1 hparts, haggregates.1 hentries, hinto,
      Option.map_eq_none_iff.1 hkeep.symm⟩
  · rintro ⟨hkeys, hentries, hinto, hkeep⟩
    have hclause : Stage.clause clause.keys clause.aggregates into none =
        .ok clause :=
      clause_eq_ok_iff.2 ⟨rfl, rfl, hinto, by rw [hkeep]; rfl⟩
    rw [collectClause, convertKeys_eq_ok_iff.2 hkeys, ← hclause]
    exact congrArg
      (Except.bind · fun parts => Stage.clause clause.keys parts into none)
      (haggregates.2 hentries)

theorem aggregation_eq_ok_iff {look : ρ → Query} {function : String}
    {expression : Operand ρ} {part : Expr} :
    aggregation look function expression = .ok part ↔
      ∃ expr, expression.Becomes look expr ∧
        part = .of (.call function [expr]) := by
  constructor
  · intro hpart
    obtain ⟨given, hgiven, hpart⟩ := exists_of_bind_eq_ok hpart
    obtain ⟨call, arguments, hcall, harguments, rfl⟩ :=
      Checked.exists_of_seq (Checked.orInvalid_eq_ok hpart)
    obtain ⟨name, hname, rfl⟩ := Checked.exists_of_map hcall
    obtain rfl := Checked.ok.inj hname
    cases Checked.forall₂_of_traverse harguments with
    | cons haccept hrest =>
        cases hrest
        exact ⟨_, ⟨given, hgiven, haccept⟩, rfl⟩
  · rintro ⟨expr, ⟨given, hgiven, haccept⟩, rfl⟩
    rw [aggregation, hgiven]
    show Expr.ofCall (.text function) [given] = _
    rw [Expr.ofCall, Checked.traverse, haccept]
    rfl

/-! ## Back to the builder -/

theorem stage?_ofOutcome (outcome : Outcome) :
    (ofOutcome outcome : StageResult ρ).stage? = none := by
  obtain ⟨builder, error⟩ := outcome
  cases error <;> rfl

variable {look : Query → ρ → Query} {builder after : Builder}

theorem parent?_hand_iff {clause : Except Error (Collect Expr)} :
    (ofOutcome (hand look builder clause) : StageResult ρ).parent? =
        some after ↔
      ∃ collect, clause = .ok collect ∧ after = builder.withGrouping collect := by
  cases clause with
  | error error => simp [hand, ofOutcome, StageResult.parent?]
  | ok collect =>
      have hparent : (ofOutcome (hand look builder (.ok collect)) :
          StageResult ρ).parent? = some (builder.withGrouping collect) := rfl
      rw [hparent]
      simp [eq_comm]

/-- The sorts after a call that returns: one more if the call asks for it. -/
def Sorts (before after : Option (List SortKey)) : StageCall ρ → Prop
  | .sort .. => ∃ key, after = Record.append before key
  | _ => after = before

/-- The builder has gained one clause, and a sort if the call asks for it. -/
def Gains (builder after : Builder) (call : StageCall ρ)
    (clause : StagedClause) : Prop :=
  ∃ sorts, Sorts builder.record.sorts sorts call ∧
    after = { builder with record := { clause.addTo builder.record with sorts } }

/-- The builder has gained a sort and nothing else. -/
def OnlySorts (builder after : Builder) : Prop :=
  ∃ key, after = { builder with record := { builder.record with
    sorts := Record.append builder.record.sorts key } }

theorem OnlySorts.not_gains {call : StageCall ρ} {clause : StagedClause}
    (hsorts : OnlySorts builder after) : ¬ Gains builder after call clause := by
  have hlonger {α : Type} (given : Option (List α)) (item : α) :
      given ≠ Record.append given item := by
    intro hsame
    have hlength := congrArg (fun items => (Record.members items).length) hsame
    simp [Record.append, Record.members] at hlength
  obtain ⟨key, rfl⟩ := hsorts
  rintro ⟨sorts, -, hafter⟩
  have hrecord := congrArg Builder.record hafter
  cases clause with
  | grouping collect => exact hlonger _ collect (congrArg Record.collects hrecord)
  | upsert upsert => exact hlonger _ upsert (congrArg Record.upserts hrecord)

theorem onlySorts_of_sort {field direction : Operand ρ}
    (hsort : (builder.perform look (.sort field direction)).success? =
      some after) : OnlySorts builder after := by
  obtain ⟨addition, haddition, rfl⟩ := Builder.exists_of_addition? rfl hsort
  obtain ⟨key, -, rfl⟩ := exists_of_map_eq_ok haddition
  exact ⟨key, rfl⟩

theorem exists_of_parent_collect {keys : List (Value × Operand ρ)}
    {aggregates : List (Value × Expr)} {call : StageCall ρ}
    (hparent : ((Stage.collect keys aggregates).perform look builder
      call).parent? = some after) :
    ∃ clause, collectClause (look builder.record) keys aggregates call.target =
        .ok clause ∧ Gains builder after call (.grouping clause) := by
  cases call with
  | finish | into =>
      obtain ⟨clause, hclause, rfl⟩ := parent?_hand_iff.1 hparent
      exact ⟨clause, hclause, _, rfl, rfl⟩
  | sort field direction =>
      obtain ⟨between, hbetween, hsort⟩ :=
        Builder.of_success?_andThen (success?_of_parent? hparent)
      rw [← Family.parent?_ofOutcome, parent?_hand_iff] at hbetween
      obtain ⟨clause, hclause, rfl⟩ := hbetween
      obtain ⟨key, rfl⟩ := onlySorts_of_sort hsort
      exact ⟨clause, hclause, _, ⟨key, rfl⟩, rfl⟩
  | aggregate =>
      obtain ⟨entered, -, hsame⟩ := exists_of_orFail hparent fun _ => rfl
      cases hsame
  | aggregateAll | insert | update => cases hparent

/-- A grouping that keeps variables is handed over by every call that returns,
except by a sort. -/
theorem exists_of_parent_collectKeep {keys : List (Value × Operand ρ)}
    {keep : List Value} {call : StageCall ρ}
    (hcall : ∀ field direction, call ≠ .sort field direction)
    (hparent : ((Stage.collectKeep keys keep).perform look builder
      call).parent? = some after) :
    ∃ parts aggregates clause,
      convertKeys (look builder.record) keys = .ok parts ∧
        List.Forall₂ (NamedAs (Operand.Becomes (look builder.record)))
          (call.given.map (Prod.map .text id)) aggregates ∧
        Stage.clause parts aggregates call.target (some keep) = .ok clause ∧
        Gains builder after call (.grouping clause) := by
  cases call with
  | into name =>
      obtain ⟨clause, hclause, rfl⟩ := parent?_hand_iff.1 hparent
      obtain ⟨parts, hparts, hclause⟩ := exists_of_bind_eq_ok hclause
      exact ⟨parts, [], clause, hparts, .nil, hclause, _, rfl, rfl⟩
  | aggregateAll given =>
      obtain ⟨clause, hclause, rfl⟩ := parent?_hand_iff.1 hparent
      obtain ⟨parts, hparts, hclause⟩ := exists_of_bind_eq_ok hclause
      obtain ⟨aggregates, haggregates, hclause⟩ := exists_of_bind_eq_ok hclause
      have hgiven : List.Forall₂ (NamedAs (Operand.Becomes (look builder.record)))
          (given.map (Prod.map .text id)) aggregates := by
        rw [← namedParts_eq_ok_iff "CollectAggregate", ← haggregates,
          List.mapM_map]
        rfl
      exact ⟨parts, aggregates, clause, hparts, hgiven, hclause, _, rfl, rfl⟩
  | sort field direction => exact absurd rfl (hcall field direction)
  | aggregate | finish | insert | update => cases hparent

theorem onlySorts_of_parent_collectKeep {keys : List (Value × Operand ρ)}
    {keep : List Value} {field direction : Operand ρ}
    (hparent : ((Stage.collectKeep keys keep).perform look builder
      (.sort field direction)).parent? = some after) :
    OnlySorts builder after :=
  onlySorts_of_sort (success?_of_parent? hparent)

theorem exists_of_upsertClause {search insert update : Expr}
    {collection : Value} {clause : Upsert Expr}
    (hclause : upsertClause search insert update collection = .ok clause) :
    search.Becomes clause.search ∧ insert.Becomes clause.insert ∧
      update.Becomes clause.update ∧ collection = .text clause.collection := by
  obtain ⟨build, name, hbuild, hname, rfl⟩ :=
    Checked.exists_of_seq (Checked.orInvalid_eq_ok hclause)
  obtain ⟨withInsert, updated, hinsert, hupdated, rfl⟩ :=
    Checked.exists_of_seq hbuild
  obtain ⟨withSearch, inserted, hsearch, hinserted, rfl⟩ :=
    Checked.exists_of_seq hinsert
  obtain ⟨searched, hsearched, rfl⟩ := Checked.exists_of_map hsearch
  exact ⟨hsearched, hinserted, hupdated, Check.text_eq_ok_iff.1 hname⟩

theorem parent?_upsertInsert (search : Expr) (call : StageCall ρ) :
    ((Stage.upsertInsert search).perform look builder call).parent? = none := by
  cases call with
  | insert document =>
      rw [perform]
      cases document.toDocument (look builder.record) <;> rfl
  | _ => rfl

theorem parent?_upsertUpdate (search insert : Expr) (call : StageCall ρ) :
    ((Stage.upsertUpdate search insert).perform look builder call).parent? =
      none := by
  cases call with
  | update document =>
      rw [perform]
      cases document.toDocument (look builder.record) <;> rfl
  | _ => rfl

theorem exists_of_parent_upsertInto {search insert update : Expr}
    {call : StageCall ρ}
    (hparent : ((Stage.upsertInto search insert update).perform look builder
      call).parent? = some after) :
    ∃ clause, upsertClause search insert update call.target = .ok clause ∧
      Gains builder after call (.upsert clause) := by
  cases call with
  | into collection =>
      obtain ⟨clause, hclause, hafter⟩ := exists_of_orFail hparent fun _ => rfl
      exact ⟨clause, hclause, _, rfl, (Option.some.inj hafter).symm⟩
  | _ => cases hparent

end Stage

end ArangoQuery
