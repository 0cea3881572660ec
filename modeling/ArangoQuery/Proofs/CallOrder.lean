import ArangoQuery.Proofs.Changes
import ArangoQuery.Script.Run

/-!
# The order of calls

A builder may be called in any order, and only calls of one family can tell in
which order they came.  Every family is described by the part of a builder that
it owns (`Family.view`).  A call of the family reads and changes that part alone;
any other call leaves it as it is.  So a chain of calls says to each family what
its own calls say, and two chains that agree family by family build the same
query (`Builder.runChain_eq_of_families`).
-/

namespace ArangoQuery

/-- A step in the chain that builds a query. -/
inductive ChainStep where
  | call (call : Call Nat)
  /-- A condition on a traversal, made from the variables of its loop. -/
  | pruneWith (condition : List Object → Except Error (Operand Nat))
  /-- A call on a stage of its own that hands a clause to the builder. -/
  | finish (stage : Stage Nat) (call : StageCall Nat)

/-- The families of calls that have their own part of a builder. -/
inductive Family where
  | loops
  | traversalLoops
  | conditions
  | declarations
  | sorts
  | pages
  | operations
  | upserts
  | traversals
  | windows
  | collections
  | result
  deriving DecidableEq, Repr

def Outcome.success? (outcome : Outcome) : Option Builder :=
  match outcome.error with
  | none => some outcome.builder
  | some _ => none

def StageResult.parent? {ρ : Type} : StageResult ρ → Option Builder
  | .parent builder => some builder
  | _ => none

namespace ChainStep

/-- The builder after a step that succeeds.  The arguments are the same whenever
the step is made, so `look` finds the same records at any time. -/
def perform (look : Nat → Query) (builder : Builder) :
    ChainStep → Option Builder
  | .call request => (builder.perform (fun _ => look) request).success?
  | .pruneWith condition =>
      match condition (Script.loopReferences builder.record) with
      | .ok operand =>
          (builder.perform (fun _ => look) (.prune operand)).success?
      | .error _ => none
  | .finish stage request =>
      (stage.perform (fun _ => look) builder request).parent?

end ChainStep

namespace Family

/-- Fields that no call changes. -/
def untouched (record : Query) : Query :=
  { raw := record.raw, rawBindings := record.rawBindings }

/-- What a family reads and changes.  Groupings are read by conditions and by
declarations, which go before or after them. -/
def view : Family → Builder → Builder
  | .loops, builder =>
      { record :=
          { untouched builder.record with
            collection := builder.record.collection,
            loop := builder.record.loop,
            source := builder.record.source,
            joins := builder.record.joins,
            updates := builder.record.updates,
            searches := builder.record.searches },
        openJoin := builder.openJoin }
  | .traversalLoops, builder =>
      { record :=
          { untouched builder.record with
            loopNames := builder.record.loopNames,
            prunes := builder.record.prunes } }
  | .conditions, builder =>
      { record :=
          { untouched builder.record with
            filters := builder.record.filters,
            filtersAfterCollect := builder.record.filtersAfterCollect,
            collects := builder.record.collects } }
  | .declarations, builder =>
      { record :=
          { untouched builder.record with
            letsBeforeCollect := builder.record.letsBeforeCollect,
            letsAfterCollect := builder.record.letsAfterCollect,
            collects := builder.record.collects } }
  | .sorts, builder =>
      { record :=
          { untouched builder.record with
            sorts := builder.record.sorts } }
  | .pages, builder =>
      { record :=
          { untouched builder.record with
            limit := builder.record.limit,
            offset := builder.record.offset } }
  | .operations, builder =>
      { record :=
          { untouched builder.record with
            operations := builder.record.operations } }
  | .upserts, builder =>
      { record :=
          { untouched builder.record with
            upserts := builder.record.upserts } }
  | .traversals, builder =>
      { record :=
          { untouched builder.record with
            traversals := builder.record.traversals } }
  | .windows, builder =>
      { record :=
          { untouched builder.record with
            windows := builder.record.windows } }
  | .collections, builder =>
      { record :=
          { untouched builder.record with
            withCollections := builder.record.withCollections } }
  | .result, builder =>
      { record :=
          { untouched builder.record with
            result := builder.record.result,
            distinct := builder.record.distinct } }

/-- The builder that is made up of the parts of all families. -/
def assemble (parts : Family → Builder) : Builder where
  record :=
    { collection := (parts .loops).record.collection,
      loop := (parts .loops).record.loop,
      source := (parts .loops).record.source,
      filters := (parts .conditions).record.filters,
      filtersAfterCollect := (parts .conditions).record.filtersAfterCollect,
      joins := (parts .loops).record.joins,
      letsAfterCollect := (parts .declarations).record.letsAfterCollect,
      letsBeforeCollect := (parts .declarations).record.letsBeforeCollect,
      collects := (parts .conditions).record.collects,
      sorts := (parts .sorts).record.sorts,
      result := (parts .result).record.result,
      distinct := (parts .result).record.distinct,
      limit := (parts .pages).record.limit,
      offset := (parts .pages).record.offset,
      operations := (parts .operations).record.operations,
      upserts := (parts .upserts).record.upserts,
      updates := (parts .loops).record.updates,
      loopNames := (parts .traversalLoops).record.loopNames,
      searches := (parts .loops).record.searches,
      traversals := (parts .traversals).record.traversals,
      prunes := (parts .traversalLoops).record.prunes,
      windows := (parts .windows).record.windows,
      withCollections := (parts .collections).record.withCollections,
      raw := (parts .result).record.raw,
      rawBindings := (parts .result).record.rawBindings }
  openJoin := (parts .loops).openJoin

theorem assemble_view (builder : Builder) :
    assemble (fun family => family.view builder) = builder :=
  rfl

theorem eq_of_views {left right : Builder}
    (hviews : ∀ family : Family, family.view left = family.view right) :
    left = right := by
  rw [← assemble_view left, funext hviews, assemble_view]

/-- The families that a call on a builder belongs to. -/
def ofCall : Call Nat → List Family
  | .useCollections _ => [.collections]
  | .loop _ | .source _ | .join .. | .graph .. | .search .. | .updateWith .. =>
      [.loops]
  | .loops .. | .prune _ => [.traversalLoops]
  | .filter _ => [.conditions]
  | .declare .. => [.declarations]
  | .addCollect _ => [.conditions, .declarations]
  | .sort .. => [.sorts]
  | .limit .. | .offset _ | .paginate .. => [.pages]
  | .insert _ | .replace .. | .remove _ | .update .. | .into _ => [.operations]
  | .addUpsert _ => [.upserts]
  | .traverse .. => [.traversals]
  | .window .. => [.windows]
  | .result .. => [.result]

/-- The families that a call on a stage belongs to, by what it hands over. -/
def ofStageCall : Stage Nat → StageCall Nat → List Family
  | .collect .., .sort .. => [.conditions, .declarations, .sorts]
  | .collect .., _ => [.conditions, .declarations]
  | .collectKeep .., .sort .. => [.sorts]
  | .collectKeep .., _ => [.conditions, .declarations]
  | _, _ => [.upserts]

def ofStep : ChainStep → List Family
  | .call call => ofCall call
  | .pruneWith _ => [.traversalLoops]
  | .finish stage call => ofStageCall stage call

/-- The steps of a chain that belong to a family. -/
def restrict (family : Family) (steps : List ChainStep) : List ChainStep :=
  steps.filter fun step => (ofStep step).contains family

theorem restrict_cons_of_mem {family : Family} {step : ChainStep}
    (hfamily : (ofStep step).contains family = true)
    (rest : List ChainStep) :
    family.restrict (step :: rest) = step :: family.restrict rest :=
  List.filter_cons_of_pos hfamily

theorem restrict_cons_of_not_mem {family : Family} {step : ChainStep}
    (hfamily : (ofStep step).contains family = false)
    (rest : List ChainStep) :
    family.restrict (step :: rest) = family.restrict rest :=
  List.filter_cons_of_neg (ne_true_of_eq_false hfamily)

theorem exists_mem_ofStep (step : ChainStep) :
    ∃ family : Family, (ofStep step).contains family = true := by
  have hfamilies : ofStep step ≠ [] := by
    cases step with
    | call request => cases request <;> exact List.cons_ne_nil _ _
    | pruneWith condition => exact List.cons_ne_nil _ _
    | finish stage request =>
        cases stage <;> cases request <;> exact List.cons_ne_nil _ _
  obtain ⟨family, hfamily⟩ := List.exists_mem_of_ne_nil _ hfamilies
  exact ⟨family, List.contains_iff_mem.2 hfamily⟩

/-- A change respects families when it depends on their parts alone, each of
which it changes by what that part says, and leaves all other parts alone. -/
def Respects (families : List Family) (change : Builder → Option Builder) :
    Prop :=
  ∀ builder (family : Family),
    (change builder).map family.view =
      if families.contains family then
        (change (family.view builder)).map family.view
      else (change builder).map fun _ => family.view builder

section Changes

variable {families : List Family}

/-- A change that fails fails for every builder. -/
theorem respects_none : Respects families fun _ => none := by
  intro builder family
  rw [Option.map_none, Option.map_none, ite_self]

/-- What is converted before a change does not depend on the builder. -/
theorem respects_attempt_bind {α : Type} (converted : Except Error α)
    {next : α → Builder → Except Error Builder}
    (hnext : ∀ value, Respects families fun builder =>
      (builder.attempt (next value builder)).success?) :
    Respects families fun builder =>
      (builder.attempt (converted >>= fun value =>
        next value builder)).success? := by
  cases converted with
  | error error => exact respects_none
  | ok value => exact hnext value

theorem respects_onRecord_bind {α : Type} (converted : Except Error α)
    {start : Builder → Builder} {next : α → Builder → Except Error Query}
    (hnext : ∀ value, Respects families fun builder =>
      ((start builder).onRecord (next value builder)).success?) :
    Respects families fun builder =>
      ((start builder).onRecord (converted >>= fun value =>
        next value builder)).success? := by
  cases converted with
  | error error => exact respects_none
  | ok value => exact hnext value

theorem Respects.of_mem {change : Builder → Option Builder}
    (hchange : Respects families change) {family : Family}
    (hfamily : families.contains family = true) (builder : Builder) :
    (change builder).map family.view =
      (change (family.view builder)).map family.view := by
  simpa only [hfamily, if_true] using hchange builder family

theorem Respects.of_not_mem {change : Builder → Option Builder}
    (hchange : Respects families change) {family : Family}
    (hfamily : families.contains family = false) {builder after : Builder}
    (hafter : change builder = some after) :
    family.view after = family.view builder := by
  have hviews := hchange builder family
  rw [hafter, hfamily] at hviews
  exact Option.some.inj hviews

theorem success?_andThen (outcome : Outcome) (next : Builder → Outcome) :
    (outcome.andThen next).success? =
      outcome.success?.bind fun builder => (next builder).success? := by
  obtain ⟨builder, error⟩ := outcome
  cases error <;> rfl

theorem Respects.andThen {first next : Builder → Outcome}
    (hfirst : Respects families fun builder => (first builder).success?)
    (hnext : Respects families fun builder => (next builder).success?) :
    Respects families fun builder =>
      ((first builder).andThen next).success? := by
  intro builder family
  simp only [success?_andThen, Option.map_bind]
  cases hfamily : families.contains family with
  | true =>
      -- The second change sees no more than the view of the first one's result.
      have hview (start : Builder) :
          ((first start).success?.bind fun between =>
            (next between).success?.map family.view) =
          ((first start).success?.map family.view).bind fun seen =>
            (next seen).success?.map family.view := by
        rw [Option.bind_map]
        exact congrArg _ (funext fun between => hnext.of_mem hfamily between)
      simp only [if_true]
      exact (hview builder).trans
        ((congrArg (Option.bind · _) (hfirst.of_mem hfamily builder)).trans
          (hview (family.view builder)).symm)
  | false =>
      simp only [Bool.false_eq_true, if_false]
      cases hbetween : (first builder).success? with
      | none => rfl
      | some between =>
          cases hafter : (next between).success? with
          | none => simp [hafter]
          | some after =>
              simp [hafter, hnext.of_not_mem hfamily hafter,
                hfirst.of_not_mem hfamily hbetween]

end Changes

theorem respects_openLoop (variableName : Operand Nat) :
    Respects [.loops] fun builder =>
      (builder.attempt (builder.openLoop variableName)).success? := by
  simp only [Builder.openLoop]
  apply respects_attempt_bind
  intro name
  rintro ⟨record, openJoin⟩ family
  cases hloop : Slot.isPresentText record.loop with
  | true =>
      cases (Check.text name).orInvalid "JoinClause" <;> cases family <;>
        simp [hloop, view, untouched] <;> rfl
  | false => cases family <;> simp [hloop, view, untouched] <;> rfl

theorem respects_iterate (source : Operand Nat) :
    Respects [.loops] fun builder =>
      (builder.attempt (builder.iterate source)).success? := by
  simp only [Builder.iterate]
  apply respects_attempt_bind
  intro value
  rintro ⟨record, openJoin⟩ family
  cases openJoin with
  | some position => cases family <;> rfl
  | none =>
      cases value with
      | scalar value =>
          cases value with
          | text name =>
              cases hplaceholder : startsWithAt name <;> cases family <;>
                simp [hplaceholder, view, untouched] <;> rfl
          | _ => cases family <;> rfl
      | _ => cases family <;> rfl

theorem respects_claimView (given : Value) :
    Respects [.loops] fun builder =>
      (builder.onRecord (Builder.claimView builder.record given)).success? := by
  rintro ⟨record, openJoin⟩ family
  obtain ⟨_, _, source⟩ := record
  cases source with
  | none => cases family <;> rfl
  | some source =>
      cases hsame : (source.describe Source.describeFully).same given <;>
        cases family <;>
        simp [Builder.claimView, view, untouched, hsame] <;> rfl

theorem respects_setLimit (count offset : Operand Nat) :
    Respects [.pages] fun builder =>
      (builder.adjust fun record =>
        Builder.setLimit record count offset).success? := by
  rintro ⟨record, openJoin⟩ family
  cases offset with
  | scalar value => cases value <;> cases family <;> rfl
  | _ => cases family <;> rfl

/-! ## Clauses that are added -/

/-- The families whose parts a clause is added to. -/
def ofAddition : Addition → List Family
  | .filter _ => [.conditions]
  | .declaration _ => [.declarations]
  | .grouping _ => [.conditions, .declarations]
  | .sort _ => [.sorts]
  | .operation _ => [.operations]
  | .upsert _ => [.upserts]
  | .update _ | .search _ => [.loops]
  | .traversal _ => [.traversals]
  | .prune _ => [.traversalLoops]
  | .window _ => [.windows]

theorem respects_add (addition : Addition) :
    Respects (ofAddition addition) fun builder =>
      some { builder with record := builder.record.add addition } := by
  rintro ⟨record, openJoin⟩ family
  cases addition with
  | filter condition =>
      cases hempty : (Record.members record.collects).isEmpty <;> cases family <;>
        simp [ofAddition, Query.add, Query.addFilter, Record.phase, view,
          untouched, hempty]
  | declaration clause =>
      cases hempty : (Record.members record.collects).isEmpty <;> cases family <;>
        simp [ofAddition, Query.add, Query.addLet, Record.phase, view,
          untouched, hempty]
  | _ => cases family <;> rfl

theorem respects_onRecord_add {families : List Family}
    {converted : Except Error Addition}
    (hfamilies : ∀ addition, converted = .ok addition →
      ofAddition addition = families) :
    Respects families fun builder =>
      (builder.onRecord (builder.record.add <$> converted)).success? := by
  cases converted with
  | error error => exact respects_none
  | ok addition =>
      obtain rfl := hfamilies addition rfl
      exact respects_add addition

/-- A call and the clause that it adds belong to the same families. -/
theorem ofAddition_of_addition? {look : Nat → Query} {record : Query}
    {call : Call Nat} {addition : Addition}
    (hcall : call.addition? look record = some (.ok addition)) :
    ofAddition addition = ofCall call := by
  cases call with
  | addCollect | addUpsert =>
      obtain rfl := Except.ok.inj (Option.some.inj hcall)
      rfl
  | filter | declare | sort | insert | replace | remove | update | updateWith
  | traverse | prune | window =>
      obtain ⟨clause, -, rfl⟩ := exists_of_map_eq_ok (Option.some.inj hcall)
      rfl
  | _ => cases hcall

/-- A call that adds a clause respects its families, if the clause says the same
when only their parts are seen. -/
theorem respects_of_addition? {look : Nat → Query} {call : Call Nat}
    {converted : Query → Except Error Addition}
    (hcall : ∀ record, call.addition? look record = some (converted record))
    (hview : ∀ builder (family : Family),
      (ofCall call).contains family = true →
        converted (family.view builder).record = converted builder.record) :
    Respects (ofCall call) fun builder =>
      (builder.perform (fun _ => look) call).success? := by
  intro builder family
  have hrespects : Respects (ofCall call) fun start =>
      (start.onRecord
        (start.record.add <$> converted builder.record)).success? :=
    respects_onRecord_add fun addition haddition =>
      ofAddition_of_addition? ((hcall builder.record).trans
        (congrArg some haddition))
  have hperform (start : Builder) :
      start.perform (fun _ => look) call =
        start.onRecord (start.record.add <$> converted start.record) :=
    Builder.perform_of_addition? (hcall start.record)
  simp only [hperform]
  cases hfamily : (ofCall call).contains family with
  | true =>
      rw [hview builder family hfamily]
      exact hrespects.of_mem hfamily builder
  | false =>
      simpa only [hfamily, Bool.false_eq_true, if_false]
        using hrespects builder family

theorem respects_call (look : Nat → Query) (call : Call Nat) :
    Respects (ofCall call) fun builder =>
      (builder.perform (fun _ => look) call).success? := by
  cases call with
  | filter | declare | addCollect | sort | insert | replace | remove | update
  | addUpsert | traverse | prune | window =>
      exact respects_of_addition? (fun _ => rfl) fun _ _ _ => rfl
  | updateWith document updates collection oldReference =>
      -- The collection and the loop that an update reads are parts of its family.
      refine respects_of_addition? (fun _ => rfl) fun builder family hfamily => ?_
      cases family with
      | loops => rfl
      | _ => cases hfamily
  | search view conditions options =>
      refine (respects_claimView view.raw).andThen ?_
      simp only [Builder.search_eq]
      refine respects_onRecord_add fun addition haddition => ?_
      obtain ⟨clause, -, rfl⟩ := exists_of_map_eq_ok haddition
      rfl
  | useCollections names =>
      rintro ⟨record, openJoin⟩ family
      simp only [Builder.perform, Builder.adjust]
      cases names.isEmpty <;> cases family <;> rfl
  | loop variableName => exact respects_openLoop variableName
  | source source => exact respects_iterate source
  | join collection variableName =>
      exact (respects_openLoop variableName).andThen
        (respects_iterate collection)
  | graph graph direction startVertex minDepth maxDepth options =>
      simp only [Builder.perform, Builder.iterateGraph]
      apply respects_attempt_bind
      intro direction
      apply respects_attempt_bind
      intro vertex
      apply respects_attempt_bind
      intro options
      apply respects_attempt_bind
      intro source
      rintro ⟨record, openJoin⟩ family
      cases openJoin <;> cases family <;> rfl
  | loops vertex edge path =>
      simp only [Builder.perform, Builder.nameLoops]
      apply respects_onRecord_bind
      intro vertex
      apply respects_onRecord_bind
      intro edge
      apply respects_onRecord_bind
      intro path
      apply respects_onRecord_bind
      intro loop
      rintro ⟨record, openJoin⟩ family
      cases family <;> rfl
  | into collection =>
      rintro ⟨record, openJoin⟩ family
      cases hempty : (Record.members record.operations).isEmpty <;>
        cases family <;>
        simp [Builder.perform, Builder.into, view, untouched, hempty] <;> rfl
  | result value distinct =>
      simp only [Builder.perform, Builder.setResult]
      apply respects_onRecord_bind
      intro expr
      rintro ⟨record, openJoin⟩ family
      cases family <;> rfl
  | limit count offset => exact respects_setLimit count offset
  | offset count =>
      rintro ⟨record, openJoin⟩ family
      cases family <;> rfl
  | paginate page size =>
      simp only [Builder.perform]
      apply respects_onRecord_bind
      intro offset
      exact respects_setLimit size (.scalar offset)

/-- The variables that a condition on a traversal may refer to are declared in
its own family. -/
theorem respects_pruneWith (look : Nat → Query)
    (condition : List Object → Except Error (Operand Nat)) :
    Respects [.traversalLoops] fun builder =>
      (ChainStep.pruneWith condition).perform look builder := by
  intro builder family
  have hprune (operand : Operand Nat) :=
    respects_call look (.prune operand) builder family
  cases family with
  | traversalLoops =>
      have hreferences : Script.loopReferences
          (view .traversalLoops builder).record =
          Script.loopReferences builder.record := rfl
      simp only [ChainStep.perform, hreferences]
      cases condition (Script.loopReferences builder.record) with
      | error error => rfl
      | ok operand => exact hprune operand
  | _ =>
      simp only [ChainStep.perform]
      cases condition (Script.loopReferences builder.record) with
      | error error => rfl
      | ok operand => exact hprune operand

theorem respects_hand (look : Nat → Query)
    (clause : Except Error (Collect Expr)) :
    Respects [.conditions, .declarations] fun builder =>
      (Stage.hand (fun _ => look) builder clause).success? := by
  cases clause with
  | error error => exact respects_none
  | ok clause => exact respects_call look (.addCollect clause)

theorem parent?_ofOutcome {ρ : Type} (outcome : Outcome) :
    (Stage.ofOutcome outcome : StageResult ρ).parent? = outcome.success? := by
  obtain ⟨builder, error⟩ := outcome
  cases error <;> rfl

/-- A step of a stage that does not get back to the builder. -/
theorem respects_orFail {families : List Family} {α : Type}
    (converted : Except Error α) {next : α → Builder → StageResult Nat}
    (hnext : ∀ value, Respects families fun builder =>
      (next value builder).parent?) :
    Respects families fun builder =>
      (Stage.orFail builder converted fun value =>
        next value builder).parent? := by
  cases converted with
  | error error => exact respects_none
  | ok value => exact hnext value

/-- A grouping that is finished by sorting belongs to both families. -/
theorem respects_collect_sort (look : Nat → Query)
    (clause : Except Error (Collect Expr)) (field direction : Operand Nat) :
    Respects [.conditions, .declarations, .sorts] fun builder =>
      ((Stage.hand (fun _ => look) builder clause).andThen fun builder =>
        builder.perform (fun _ => look) (.sort field direction)).success? := by
  cases clause with
  | error error => exact respects_none
  | ok clause =>
      have hsort (builder : Builder) :
          builder.perform (fun _ => look) (.sort field direction) =
            builder.onRecord
              (builder.record.add <$> .sort <$>
                Builder.sortKey field direction) :=
        Builder.perform_of_addition? rfl
      simp only [hsort]
      cases Builder.sortKey field direction with
      | error error => exact respects_none
      | ok key =>
          intro builder family
          cases family <;> rfl

theorem respects_stageCall (look : Nat → Query) (stage : Stage Nat)
    (call : StageCall Nat) :
    Respects (ofStageCall stage call) fun builder =>
      (stage.perform (fun _ => look) builder call).parent? := by
  cases stage with
  | collect keys aggregates =>
      cases call with
      | aggregate function name expression =>
          exact respects_orFail _ fun _ => respects_none
      | finish =>
          simp only [Stage.perform, parent?_ofOutcome]
          exact respects_hand look _
      | into name =>
          simp only [Stage.perform, parent?_ofOutcome]
          exact respects_hand look _
      | sort field direction =>
          simp only [Stage.perform, parent?_ofOutcome]
          exact respects_collect_sort look _ field direction
      | _ => exact respects_none
  | collectKeep keys keep =>
      cases call with
      | into name =>
          simp only [Stage.perform, parent?_ofOutcome]
          exact respects_hand look _
      | aggregateAll aggregates =>
          simp only [Stage.perform, parent?_ofOutcome]
          exact respects_hand look _
      | sort field direction =>
          simp only [Stage.perform, parent?_ofOutcome]
          exact respects_call look (.sort field direction)
      | _ => exact respects_none
  | upsertInsert search =>
      cases call with
      | insert document => exact respects_orFail _ fun _ => respects_none
      | _ => exact respects_none
  | upsertUpdate search insert =>
      cases call with
      | update document => exact respects_orFail _ fun _ => respects_none
      | _ => exact respects_none
  | upsertInto search insert update =>
      cases call with
      | into collection =>
          simp only [Stage.perform]
          apply respects_orFail
          intro upsert
          simp only [parent?_ofOutcome]
          exact respects_call look (.addUpsert upsert)
      | _ => exact respects_none

theorem respects_step (look : Nat → Query) (step : ChainStep) :
    Respects (ofStep step) (step.perform look) := by
  cases step with
  | call request => exact respects_call look request
  | pruneWith condition => exact respects_pruneWith look condition
  | finish stage request => exact respects_stageCall look stage request

end Family

namespace Builder

/-- The builder after a chain of steps that all succeed. -/
def runChain (look : Nat → Query) : Builder → List ChainStep → Option Builder
  | builder, [] => some builder
  | builder, step :: rest =>
      (step.perform look builder).bind fun builder =>
        runChain look builder rest

/-- What a family sees of a chain: its own steps, made on its own part. -/
def runFamily (look : Nat → Query) (family : Family) :
    Builder → List ChainStep → Option Builder
  | builder, [] => some builder
  | builder, step :: rest =>
      ((step.perform look builder).map family.view).bind fun builder =>
        runFamily look family builder rest

theorem runFamily_cons {look : Nat → Query} {builder between : Builder}
    {step : ChainStep} (hstep : step.perform look builder = some between)
    (rest : List ChainStep) (family : Family) :
    runFamily look family (family.view builder)
        (family.restrict (step :: rest)) =
      runFamily look family (family.view between) (family.restrict rest) := by
  have hrespects := Family.respects_step look step
  cases hfamily : (Family.ofStep step).contains family with
  | true =>
      have hview := hrespects.of_mem hfamily builder
      rw [hstep] at hview
      rw [Family.restrict_cons_of_mem hfamily, runFamily, ← hview]
      rfl
  | false =>
      rw [Family.restrict_cons_of_not_mem hfamily,
        hrespects.of_not_mem hfamily hstep]

/-- A chain that succeeds ends, for each family, where the steps of the family
alone end. -/
theorem runFamily_of_runChain {look : Nat → Query} {builder after : Builder}
    {steps : List ChainStep}
    (hrun : runChain look builder steps = some after) (family : Family) :
    runFamily look family (family.view builder) (family.restrict steps) =
      some (family.view after) := by
  induction steps generalizing builder with
  | nil => exact congrArg (Option.map family.view) hrun
  | cons step rest hrest =>
      obtain ⟨between, hstep, hrun⟩ := Option.bind_eq_some_iff.1 hrun
      rw [runFamily_cons hstep]
      exact hrest hrun

/-- A step that fails is seen to fail by its own family. -/
theorem exists_runFamily_eq_none {look : Nat → Query} {builder : Builder}
    {steps : List ChainStep} (hrun : runChain look builder steps = none) :
    ∃ family : Family,
      runFamily look family (family.view builder) (family.restrict steps) =
        none := by
  induction steps generalizing builder with
  | nil => exact absurd hrun (Option.some_ne_none builder)
  | cons step rest hrest =>
      cases hstep : step.perform look builder with
      | none =>
          obtain ⟨family, hfamily⟩ := Family.exists_mem_ofStep step
          have hview :=
            (Family.respects_step look step).of_mem hfamily builder
          rw [hstep] at hview
          refine ⟨family, ?_⟩
          rw [Family.restrict_cons_of_mem hfamily, runFamily, ← hview]
          rfl
      | some between =>
          rw [runChain, hstep] at hrun
          obtain ⟨family, hfamily⟩ := hrest hrun
          exact ⟨family, (runFamily_cons hstep rest family).trans hfamily⟩

/-- Chains that agree family by family fail both, or lead to the same builder. -/
theorem runChain_eq_of_families (look : Nat → Query) (start : Builder)
    {left right : List ChainStep}
    (hfamilies : ∀ family : Family,
      family.restrict left = family.restrict right) :
    runChain look start left = runChain look start right := by
  cases hleft : runChain look start left with
  | none =>
      obtain ⟨family, hfamily⟩ := exists_runFamily_eq_none hleft
      rw [hfamilies] at hfamily
      cases hright : runChain look start right with
      | none => rfl
      | some after =>
          rw [runFamily_of_runChain hright] at hfamily
          exact absurd hfamily (Option.some_ne_none _)
  | some after =>
      cases hright : runChain look start right with
      | none =>
          obtain ⟨family, hfamily⟩ := exists_runFamily_eq_none hright
          rw [← hfamilies, runFamily_of_runChain hleft] at hfamily
          exact absurd hfamily (Option.some_ne_none _)
      | some after' =>
          apply congrArg some
          apply Family.eq_of_views
          intro family
          have hfamily := runFamily_of_runChain hleft family
          rw [hfamilies, runFamily_of_runChain hright] at hfamily
          exact (Option.some.inj hfamily).symm

/-- Two chains of successful calls that agree family by family build the same
record, which compiles to the same query or fails with the same error. -/
theorem build_independent_of_call_order (look : Nat → Query) (start : Builder)
    {left right : List ChainStep} {builder builder' : Builder}
    (hleft : runChain look start left = some builder)
    (hright : runChain look start right = some builder')
    (hfamilies : ∀ family : Family,
      family.restrict left = family.restrict right) :
    builder.record = builder'.record ∧
      builder.record.compile = builder'.record.compile := by
  have hruns := runChain_eq_of_families look start hfamilies
  rw [hleft, hright, Option.some.injEq] at hruns
  exact ⟨congrArg Builder.record hruns,
    congrArg (fun builder => builder.record.compile) hruns⟩

end Builder

section Example

/-- A condition that stops at every vertex that is set. -/
def atVertex : List Object → Except Error (Operand Nat)
  | vertex :: _ => .ok vertex.toOperand
  | [] => .error (.type .mismatch)

/-- A loop over `users` with groups that are filtered, sorted and cut off. -/
def groupedChain : List ChainStep :=
  [.call (.loop (.text "u")), .call (.source (.text "users")),
    .call (.filter (.built (.reference "u.active"))),
    .finish (.collect [(.text "age", .text "u.age")] []) (.into (.text "g")),
    .call (.filter (.built (.reference "age"))),
    .call (.sort (.text "age") (.text "DESC")),
    .call (.limit (.scalar (.int 5)) .null),
    .pruneWith atVertex]

/-- The same calls, with those of different families in another order. -/
def shuffledChain : List ChainStep :=
  [.pruneWith atVertex,
    .call (.filter (.built (.reference "u.active"))),
    .call (.limit (.scalar (.int 5)) .null),
    .finish (.collect [(.text "age", .text "u.age")] []) (.into (.text "g")),
    .call (.loop (.text "u")), .call (.sort (.text "age") (.text "DESC")),
    .call (.filter (.built (.reference "age"))),
    .call (.source (.text "users"))]

theorem shuffledChain_builds_the_same :
    ∃ builder builder',
      Builder.runChain (fun _ => {}) {} groupedChain = some builder ∧
        Builder.runChain (fun _ => {}) {} shuffledChain = some builder' ∧
        (∀ family : Family,
          family.restrict groupedChain = family.restrict shuffledChain) ∧
        builder.record = builder'.record ∧
        builder.record.compile = builder'.record.compile ∧
        ∃ compiled, builder.record.compile = .ok compiled ∧
          compiled.text =
            "FOR u IN users\nFILTER u.active\nCOLLECT age = u.age\n  INTO g\n" ++
            "PRUNE v\nFILTER age\nSORT age DESC\nLIMIT 5" := by
  have hfamilies (family : Family) :
      family.restrict groupedChain = family.restrict shuffledChain := by
    cases family <;> rfl
  obtain ⟨builder, hgrouped⟩ : ∃ builder,
      Builder.runChain (fun _ => {}) {} groupedChain = some builder :=
    ⟨_, rfl⟩
  obtain ⟨builder', hshuffled⟩ : ∃ builder,
      Builder.runChain (fun _ => {}) {} shuffledChain = some builder :=
    ⟨_, rfl⟩
  obtain ⟨hrecord, hcompile⟩ :=
    Builder.build_independent_of_call_order _ _ hgrouped hshuffled hfamilies
  refine ⟨builder, builder', hgrouped, hshuffled, hfamilies, hrecord, hcompile,
    ?_⟩
  obtain rfl := Option.some.inj hgrouped
  exact ⟨_, rfl, by decide +kernel⟩

end Example

end ArangoQuery
