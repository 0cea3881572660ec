import ArangoQuery.Proofs.Moves
import ArangoQuery.Proofs.Successes
import ArangoQuery.Proofs.Tree
import ArangoQuery.Proofs.WrittenLines

/-!
# What lasts in a record

A call adds a clause at the end of its family and leaves all clauses that are
there already as they are.  Two things can be replaced by a later call: the source
of a loop and the result (`Call.Replaces`).  So the expressions that a call has put
into a record stay where they are, whatever else is called
(`Builder.lasts_perform`, `Stage.grows_perform`).
-/

namespace ArangoQuery

open Record (members)

variable {ρ : Type}

namespace Record

variable {α : Type}

/-- The expressions in the clauses of one kind, clause by clause. -/
def partsOf (record : Record α) : ClauseKind → List (List α)
  | .loop => record.source.toList.map fun source => Slot.parts (some source)
  | .nestedLoop => (members record.joins).map Join.parts
  | .earlyLet => (members record.letsBeforeCollect).map fun clause => [clause.2]
  | .search => (members record.searches).map Search.parts
  | .earlyFilter => (members record.filters).map fun condition => [condition]
  | .grouping => (members record.collects).map Collect.parts
  | .prune => (members record.prunes).map fun condition => [condition]
  | .lateLet => (members record.letsAfterCollect).map fun clause => [clause.2]
  | .lateFilter =>
      (members record.filtersAfterCollect).map fun condition => [condition]
  | .window => (members record.windows).map Window.parts
  | .operation => (members record.operations).map Operation.parts
  | .upsert => (members record.upserts).map Upsert.parts
  | .update => (members record.updates).map Update.parts
  | .result => record.result.toList.map fun result => [result]
  | .collections | .traversal | .order | .page => []

/-- The expressions in the clause at a position among those of its kind. -/
def partsAt (record : Record α) (kind : ClauseKind) (position : Nat) :
    Option (List α) :=
  (record.partsOf kind)[position]?

theorem map_modify_of_eq {β γ : Type} (f : β → γ) {change : β → β}
    (hchange : ∀ clause, f (change clause) = f clause) (clauses : List β)
    (position : Nat) :
    (clauses.modify position change).map f = clauses.map f := by
  apply List.ext_getElem?
  intro index
  rw [List.getElem?_map, List.getElem?_map, List.getElem?_modify,
    Option.map_eq_map, Option.map_map]
  refine Option.map_congr fun clause _ => ?_
  by_cases hindex : position = index
  · simp only [Function.comp_apply, hindex, if_true, hchange]
  · simp only [Function.comp_apply, hindex, if_false]

theorem map_members_append {β γ : Type} (f : β → γ) (family : Option (List β))
    (clause : β) :
    (members family).map f <+: (members (append family clause)).map f :=
  (List.prefix_append (members family) [clause]).map f

end Record

namespace Query

/-- What the clauses of a record contain stays in its place, except where it is
replaced. -/
def Lasts (replaced : ClauseKind → Nat → Prop) (earlier later : Query) : Prop :=
  ∀ kind position parts, ¬ replaced kind position →
    earlier.partsAt kind position = some parts →
    later.partsAt kind position = some parts

variable {replaced : ClauseKind → Nat → Prop} {earlier between later : Query}

theorem Lasts.refl (replaced : ClauseKind → Nat → Prop) (record : Query) :
    record.Lasts replaced record :=
  fun _ _ _ _ hparts => hparts

/-- Clauses are only added, each after all others of its kind. -/
def Grows (earlier later : Query) : Prop :=
  ∀ kind, earlier.partsOf kind <+: later.partsOf kind

theorem Grows.refl (record : Query) : record.Grows record :=
  fun _ => List.prefix_rfl

/-- Fields that contain no expressions may change. -/
theorem Grows.of_eq (hparts : later.partsOf = earlier.partsOf) :
    earlier.Grows later :=
  fun kind => (congrFun hparts kind).symm ▸ List.prefix_rfl

theorem Grows.trans (hfirst : earlier.Grows between)
    (hsecond : between.Grows later) : earlier.Grows later :=
  fun kind => (hfirst kind).trans (hsecond kind)

theorem Grows.lasts (hgrows : earlier.Grows later)
    (replaced : ClauseKind → Nat → Prop) : earlier.Lasts replaced later := by
  intro kind position parts _ hparts
  obtain ⟨added, hadded⟩ := hgrows kind
  have hposition := (List.getElem?_eq_some_iff.1 hparts).1
  rw [Record.partsAt, ← hadded, List.getElem?_append_left hposition]
  exact hparts

end Query

/-! ## Calls that add a clause -/

namespace Builder

variable {builder : Builder}

theorem record_attempt {motive : Query → Prop} {change : Except Error Builder}
    (hbuilder : motive builder.record)
    (hchange : ∀ after, change = .ok after → motive after.record) :
    motive (builder.attempt change).builder.record := by
  cases change with
  | error error => exact hbuilder
  | ok after => exact hchange after rfl

theorem record_onRecord {motive : Query → Prop} {change : Except Error Query}
    (hbuilder : motive builder.record)
    (hchange : ∀ record, change = .ok record → motive record) :
    motive (builder.onRecord change).builder.record := by
  cases change with
  | error error => exact hbuilder
  | ok record => exact hchange record rfl

theorem record_andThen {motive : Query → Prop} {outcome : Outcome}
    {next : Builder → Outcome} (houtcome : motive outcome.builder.record)
    (hnext : motive (next outcome.builder).builder.record) :
    motive (outcome.andThen next).builder.record := by
  rw [Outcome.andThen]
  cases outcome.error with
  | none => exact hnext
  | some error => exact houtcome

section Records

variable {record after : Query}

theorem grows_addFilter (record : Query) (condition : Expr) :
    record.Grows (record.addFilter condition) := by
  intro kind
  unfold Query.addFilter
  split
  · cases kind with
    | lateFilter => exact Record.map_members_append _ _ condition
    | _ => exact List.prefix_rfl
  · cases kind with
    | earlyFilter => exact Record.map_members_append _ _ condition
    | _ => exact List.prefix_rfl

theorem grows_addLet (record : Query) (clause : String × Expr) :
    record.Grows (record.addLet clause) := by
  intro kind
  unfold Query.addLet
  split
  · cases kind with
    | lateLet => exact Record.map_members_append _ _ clause
    | _ => exact List.prefix_rfl
  · cases kind with
    | earlyLet => exact Record.map_members_append _ _ clause
    | _ => exact List.prefix_rfl

/-- The clause that is added is the last of its kind. -/
theorem grows_add (record : Query) (addition : Addition) :
    record.Grows (record.add addition) := by
  cases addition with
  | filter condition => exact grows_addFilter record condition
  | declaration clause => exact grows_addLet record clause
  | sort | traversal => exact .of_eq rfl
  | grouping clause =>
      intro kind
      cases kind with
      | grouping => exact Record.map_members_append _ _ clause
      | _ => exact List.prefix_rfl
  | operation operation =>
      intro kind
      cases kind with
      | operation => exact Record.map_members_append _ _ operation
      | _ => exact List.prefix_rfl
  | upsert clause =>
      intro kind
      cases kind with
      | upsert => exact Record.map_members_append _ _ clause
      | _ => exact List.prefix_rfl
  | update clause =>
      intro kind
      cases kind with
      | update => exact Record.map_members_append _ _ clause
      | _ => exact List.prefix_rfl
  | search clause =>
      intro kind
      cases kind with
      | search => exact Record.map_members_append _ _ clause
      | _ => exact List.prefix_rfl
  | prune condition =>
      intro kind
      cases kind with
      | prune => exact Record.map_members_append _ _ condition
      | _ => exact List.prefix_rfl
  | window clause =>
      intro kind
      cases kind with
      | window => exact Record.map_members_append _ _ clause
      | _ => exact List.prefix_rfl

theorem grows_of_add {converted : Except Error Addition}
    (hafter : record.add <$> converted = .ok after) : record.Grows after := by
  obtain ⟨addition, -, rfl⟩ := exists_of_map_eq_ok hafter
  exact grows_add record addition

/-- The collection of an operation is no expression. -/
theorem grows_into {collection : Operand ρ}
    (hafter : into record collection = .ok after) : record.Grows after := by
  unfold into at hafter
  split at hafter
  · cases hafter
  · obtain rfl := Except.ok.inj hafter
    have hoperations (given : Option (List (Operation Expr))) :
        (members (given.map (modifyLast fun operation =>
          { operation with collection := Slot.text? collection.raw }))).map
            Operation.parts = (members given).map Operation.parts := by
      cases given with
      | none => rfl
      | some operations =>
          refine Record.map_modify_of_eq Operation.parts (fun operation => ?_)
            operations _
          rfl
    refine .of_eq (funext fun kind => ?_)
    cases kind with
    | operation => exact hoperations record.operations
    | _ => rfl

/-- A view becomes the source of a loop only if there is none. -/
theorem grows_claimView {view : Value}
    (hafter : claimView record view = .ok after) : record.Grows after := by
  obtain ⟨hsource, rfl⟩ | ⟨-, rfl⟩ := of_claimView hafter
  · intro kind
    cases kind with
    | loop =>
        rw [Record.partsOf, hsource]
        exact List.nil_prefix
    | _ => exact List.prefix_rfl
  · exact .refl _

theorem grows_nameLoops {vertex edge path : Operand ρ}
    (hafter : nameLoops record vertex edge path = .ok after) :
    record.Grows after := by
  obtain ⟨names, rfl⟩ := exists_of_nameLoops hafter
  exact .of_eq rfl

theorem grows_setLimit (record : Query) (count offset : Operand ρ) :
    record.Grows (setLimit record count offset) := by
  unfold setLimit
  split <;> exact .of_eq rfl

end Records

theorem grows_openLoop {after : Builder} {variableName : Operand ρ}
    (hafter : builder.openLoop variableName = .ok after) :
    builder.record.Grows after.record := by
  obtain ⟨name, -, ⟨-, loop, -, rfl⟩ | ⟨-, rfl⟩⟩ := exists_of_openLoop hafter
  · intro kind
    cases kind with
    | nestedLoop => exact Record.map_members_append Join.parts _ ⟨loop, none⟩
    | _ => exact List.prefix_rfl
  · exact .of_eq rfl

end Builder

/-! ## Sources and results -/

/-- Is this the loop whose source is set next?  It is the open nested loop, or
else the main one. -/
def IsNextSource (openJoin : Option Nat) (kind : ClauseKind)
    (position : Nat) : Prop :=
  match openJoin with
  | none => kind = .loop
  | some opened => kind = .nestedLoop ∧ position = opened

/-- May a call replace the expressions at this place? -/
def Call.Replaces (openJoin : Option Nat) (call : Call ρ) (kind : ClauseKind)
    (position : Nat) : Prop :=
  match call with
  | .source _ | .join .. | .graph .. => IsNextSource openJoin kind position
  | .result .. => kind = .result
  | _ => False

namespace Builder

variable {builder : Builder}

theorem lasts_setSource (builder : Builder)
    (source : Option (Slot (Source Expr))) :
    builder.record.Lasts (IsNextSource builder.openJoin)
      (builder.setSource source).record := by
  intro kind position parts hkept hparts
  rw [setSource]
  cases hopen : builder.openJoin with
  | none =>
      rw [hopen] at hkept
      cases kind with
      | loop => exact absurd rfl hkept
      | _ => exact hparts
  | some opened =>
      rw [hopen] at hkept
      cases kind with
      | nestedLoop =>
          have hposition : opened ≠ position := fun hsame =>
            hkept ⟨rfl, hsame.symm⟩
          rw [Record.partsAt, Record.partsOf, List.getElem?_map] at hparts ⊢
          cases hjoins : builder.record.joins with
          | none =>
              rw [hjoins] at hparts
              cases hparts
          | some joins =>
              rw [hjoins] at hparts
              rw [← hparts]
              exact congrArg (Option.map Join.parts)
                (List.getElem?_modify_ne _ joins hposition)
      | _ => exact hparts

theorem lasts_iterate {after : Builder} {source : Operand ρ}
    (hafter : builder.iterate source = .ok after) :
    builder.record.Lasts (IsNextSource builder.openJoin) after.record := by
  obtain ⟨value, collection, -, rfl⟩ := exists_of_iterate hafter
  exact lasts_setSource
    { builder with record := { builder.record with collection } } _

theorem lasts_iterateGraph {look : ρ → Query} {after : Builder}
    {graph directionWord vertex minDepth maxDepth options : Operand ρ}
    (hafter : iterateGraph look builder graph directionWord vertex minDepth
      maxDepth options = .ok after) :
    builder.record.Lasts (IsNextSource builder.openJoin) after.record := by
  obtain ⟨traversal, -, rfl⟩ := exists_of_iterateGraph hafter
  exact lasts_setSource builder _

/-- A loop that has been opened is new, or else it is the one that was open. -/
theorem openJoin_of_openLoop {after : Builder} {variableName : Operand ρ}
    (hafter : builder.openLoop variableName = .ok after) :
    after.openJoin = builder.openJoin ∨
      after.openJoin = some (members builder.record.joins).length := by
  obtain ⟨name, -, ⟨-, loop, -, rfl⟩ | ⟨-, rfl⟩⟩ := exists_of_openLoop hafter
  · exact .inr rfl
  · exact .inl rfl

/-- A join replaces no source but the next one: a loop that it opens has none
yet. -/
theorem lasts_join {between after : Builder}
    {collection variableName : Operand ρ}
    (hopen : builder.openLoop variableName = .ok between)
    (hafter : between.iterate collection = .ok after) :
    builder.record.Lasts (IsNextSource builder.openJoin) after.record := by
  intro kind position parts hkept hparts
  have hopened := (grows_openLoop hopen).lasts (fun _ _ => False) kind position
    parts id hparts
  refine lasts_iterate hafter kind position parts (fun hnext => ?_) hopened
  obtain hsame | hnew := openJoin_of_openLoop hopen
  · exact hkept (hsame ▸ hnext)
  · rw [hnew] at hnext
    obtain ⟨rfl, rfl⟩ := hnext
    have hposition := (List.getElem?_eq_some_iff.1 hparts).1
    rw [Record.partsOf, List.length_map] at hposition
    exact Nat.lt_irrefl _ hposition

theorem lasts_setResult {look : ρ → Query} {record after : Query}
    {value distinct : Operand ρ}
    (hafter : setResult look record value distinct = .ok after) :
    record.Lasts (fun kind _ => kind = .result) after := by
  obtain ⟨expr, distinct, -, rfl⟩ := exists_of_setResult hafter
  intro kind position parts hkept hparts
  cases kind with
  | result => exact absurd rfl hkept
  | _ => exact hparts

/-- What a record contains lasts through every call, except for the source that
the call sets and for the result. -/
theorem lasts_perform (look : Query → ρ → Query) (builder : Builder)
    (call : Call ρ) :
    builder.record.Lasts (call.Replaces builder.openJoin)
      (builder.perform look call).builder.record := by
  have hattempt {replaced : ClauseKind → Nat → Prop}
      {change : Except Error Builder}
      (hchange : ∀ after, change = .ok after →
        builder.record.Lasts replaced after.record) :
      builder.record.Lasts replaced (builder.attempt change).builder.record :=
    record_attempt (.refl replaced builder.record) hchange
  have honRecord {replaced : ClauseKind → Nat → Prop}
      {change : Except Error Query}
      (hchange : ∀ after, change = .ok after → builder.record.Grows after) :
      builder.record.Lasts replaced (builder.onRecord change).builder.record :=
    record_onRecord (.refl replaced builder.record) fun after hafter =>
      (hchange after hafter).lasts replaced
  cases call with
  | filter | declare | addCollect | sort | insert | replace | remove | update
  | addUpsert | updateWith | traverse | prune | window =>
      rw [perform_of_addition? rfl]
      exact honRecord fun after hafter => grows_of_add hafter
  | search view conditions options =>
      rw [perform]
      cases hclaim : claimView builder.record view.raw with
      | error error => exact .refl _ builder.record
      | ok claimed =>
          have hclaimed := grows_claimView hclaim
          refine record_onRecord (hclaimed.lasts _) fun after hafter => ?_
          rw [search_eq] at hafter
          exact (hclaimed.trans (grows_of_add hafter)).lasts _
  | useCollections names =>
      refine Query.Grows.lasts ?_ _
      simp only [perform, adjust, changed]
      split <;> exact .of_eq rfl
  | loop variableName =>
      exact hattempt fun after hafter => (grows_openLoop hafter).lasts _
  | source given => exact hattempt fun after hafter => lasts_iterate hafter
  | join collection variableName =>
      rw [perform]
      cases hopen : builder.openLoop variableName with
      | error error => exact .refl _ builder.record
      | ok between =>
          exact record_attempt ((grows_openLoop hopen).lasts _)
            fun after hafter => lasts_join hopen hafter
  | graph name direction vertex minDepth maxDepth options =>
      exact hattempt fun after hafter => lasts_iterateGraph hafter
  | loops vertex edge path =>
      exact honRecord fun after hafter => grows_nameLoops hafter
  | into collection => exact honRecord fun after hafter => grows_into hafter
  | result value distinct =>
      exact record_onRecord (.refl _ builder.record) fun after hafter =>
        lasts_setResult hafter
  | limit count skipped =>
      exact (grows_setLimit builder.record count skipped).lasts _
  | offset count => exact Query.Grows.lasts (.of_eq rfl) _
  | paginate page size =>
      refine honRecord fun after hafter => ?_
      obtain ⟨offset, -, rfl⟩ := exists_of_map_eq_ok hafter
      exact grows_setLimit builder.record size _

end Builder

/-! ## Calls on stages -/

namespace Stage

variable {look : Query → ρ → Query} {builder : Builder}

theorem builder_ofOutcome (outcome : Outcome) :
    (ofOutcome outcome : StageResult ρ).builder builder = outcome.builder := by
  obtain ⟨after, error⟩ := outcome
  cases error <;> rfl

theorem grows_hand (builder : Builder) (clause : Except Error (Collect Expr)) :
    builder.record.Grows (hand look builder clause).builder.record := by
  cases clause with
  | error error => exact .refl builder.record
  | ok clause => exact Builder.grows_add builder.record (.grouping clause)

theorem grows_performSort (builder : Builder) (field direction : Operand ρ) :
    builder.record.Grows
      (builder.perform look (.sort field direction)).builder.record := by
  rw [Builder.perform_of_addition? rfl]
  exact Builder.record_onRecord (.refl builder.record) fun after hafter =>
    Builder.grows_of_add hafter

theorem grows_orFail {α : Type} {step : Except Error α}
    {next : α → StageResult ρ}
    (hnext : ∀ value,
      builder.record.Grows ((next value).builder builder).record) :
    builder.record.Grows
      ((orFail builder step next).builder builder).record := by
  cases step with
  | error error => exact .refl builder.record
  | ok value => exact hnext value

/-- A stage adds its clause when it is finished, and before that nothing. -/
theorem grows_perform (look : Query → ρ → Query) (builder : Builder)
    (stage : Stage ρ) (call : StageCall ρ) :
    builder.record.Grows
      ((stage.perform look builder call).builder builder).record := by
  cases stage with
  | collect keys aggregates =>
      cases call with
      | aggregate => exact grows_orFail fun _ => .refl builder.record
      | finish | into =>
          rw [perform, builder_ofOutcome]
          exact grows_hand builder _
      | sort field direction =>
          rw [perform, builder_ofOutcome]
          have hhand := @grows_hand _ look builder
            (collectClause (look builder.record) keys aggregates .null)
          exact Builder.record_andThen hhand
            (hhand.trans (grows_performSort _ field direction))
      | _ => exact .refl builder.record
  | collectKeep keys keep =>
      cases call with
      | into | aggregateAll =>
          rw [perform, builder_ofOutcome]
          exact grows_hand builder _
      | sort field direction =>
          rw [perform, builder_ofOutcome]
          exact grows_performSort builder field direction
      | _ => exact .refl builder.record
  | upsertInsert search =>
      cases call with
      | insert => exact grows_orFail fun _ => .refl builder.record
      | _ => exact .refl builder.record
  | upsertUpdate search insert =>
      cases call with
      | update => exact grows_orFail fun _ => .refl builder.record
      | _ => exact .refl builder.record
  | upsertInto search insert update =>
      cases call with
      | into =>
          exact grows_orFail fun upsert =>
            Builder.grows_add builder.record (.upsert upsert)
      | _ => exact .refl builder.record

end Stage

end ArangoQuery
