import ArangoQuery.Proofs.TypedArguments

/-!
# Arguments with records in the place of builders

A builder in an argument is converted to a subquery with the record that it has at
that moment.  `Operand.resolve` puts these records into the argument: what is left
does not depend on any builder.  A call looks up the builders in its arguments all
at one moment, so it is the call with the resolved arguments
(`Builder.perform_resolve`, `Stage.perform_resolve`).  That moment is the start of
the call, except for a search, which claims the source of the main loop before.
-/

namespace ArangoQuery

variable {ρ : Type}

namespace Operand

section Resolve

variable (look : ρ → Query)

mutual

/-- An operand with the record of every builder in its place. -/
def resolve : Operand ρ → Operand Query
  | .scalar value => .scalar value
  | .list items => .list (resolveList items)
  | .tuple items => .tuple (resolveList items)
  | .map entries => .map (resolveEntries entries)
  | .built expr => .built expr
  | .bare expr => .bare expr
  | .query handle => .query (look handle)
  | .other value => .other value

def resolveList : List (Operand ρ) → List (Operand Query)
  | [] => []
  | operand :: rest => resolve operand :: resolveList rest

def resolveEntries :
    List (Scalar × Operand ρ) → List (Scalar × Operand Query)
  | [] => []
  | (key, operand) :: rest => (key, resolve operand) :: resolveEntries rest

end

end Resolve

variable {look : ρ → Query}

/-! ## Data -/

mutual

@[simp] theorem raw_resolve :
    ∀ operand : Operand ρ, (operand.resolve look).raw = operand.raw
  | .scalar _ | .built _ | .bare _ | .query _ | .other _ => rfl
  | .list items => congrArg Value.list (rawList_resolveList items)
  | .tuple items => congrArg Value.tuple (rawList_resolveList items)
  | .map entries => congrArg Value.map (rawEntries_resolveEntries entries)

theorem rawList_resolveList :
    ∀ items : List (Operand ρ), rawList (resolveList look items) = rawList items
  | [] => rfl
  | operand :: rest => by
      rw [resolveList, rawList, rawList, raw_resolve operand,
        rawList_resolveList rest]

theorem rawEntries_resolveEntries :
    ∀ entries : List (Scalar × Operand ρ),
      rawEntries (resolveEntries look entries) = rawEntries entries
  | [] => rfl
  | (key, operand) :: rest => by
      rw [resolveEntries, rawEntries, rawEntries, raw_resolve operand,
        rawEntries_resolveEntries rest]

end

mutual

theorem isPlain_resolve :
    ∀ operand : Operand ρ, (operand.resolve look).isPlain = operand.isPlain
  | .scalar _ | .built _ | .bare _ | .query _ | .other _ => rfl
  | .list items => arePlain_resolveList items
  | .tuple items => arePlain_resolveList items
  | .map entries => arePlainEntries_resolveEntries entries

theorem arePlain_resolveList :
    ∀ items : List (Operand ρ),
      arePlain (resolveList look items) = arePlain items
  | [] => rfl
  | operand :: rest => by
      rw [resolveList, arePlain, arePlain, isPlain_resolve operand,
        arePlain_resolveList rest]

theorem arePlainEntries_resolveEntries :
    ∀ entries : List (Scalar × Operand ρ),
      arePlainEntries (resolveEntries look entries) = arePlainEntries entries
  | [] => rfl
  | (key, operand) :: rest => by
      rw [resolveEntries, arePlainEntries, arePlainEntries,
        isPlain_resolve operand, arePlainEntries_resolveEntries rest]

end

mutual

theorem plain_resolve :
    ∀ operand : Operand ρ, (operand.resolve look).plain = operand.plain
  | .scalar _ | .built _ | .bare _ | .query _ | .other _ => rfl
  | .list items => congrArg Value.list (plainList_resolveList items)
  | .tuple items => congrArg Value.list (plainList_resolveList items)
  | .map entries =>
      congrArg (fun entries => Value.map (entriesOf Scalar.same entries))
        (plainEntries_resolveEntries entries)

theorem plainList_resolveList :
    ∀ items : List (Operand ρ),
      plainList (resolveList look items) = plainList items
  | [] => rfl
  | operand :: rest => by
      rw [resolveList, plainList, plainList, plain_resolve operand,
        plainList_resolveList rest]

theorem plainEntries_resolveEntries :
    ∀ entries : List (Scalar × Operand ρ),
      plainEntries (resolveEntries look entries) = plainEntries entries
  | [] => rfl
  | (key, operand) :: rest => by
      rw [resolveEntries, plainEntries, plainEntries, plain_resolve operand,
        plainEntries_resolveEntries rest]

end

/-! ## Conversions -/

mutual

/-- Also as the member of a document, a resolved operand is converted to what the
operand is converted to. -/
theorem converted_resolve :
    ∀ operand : Operand ρ,
      (operand.resolve look).toExpr id = operand.toExpr look ∧
        toMember id (operand.resolve look) = toMember look operand
  | .scalar value => by cases value <;> exact ⟨rfl, rfl⟩
  | .built _ | .bare _ | .query _ | .other _ => ⟨rfl, rfl⟩
  | .list items => by
      have hexpr : (resolve look (.list items)).toExpr id =
          (list items).toExpr look := by
        rw [resolve, toExpr, toExpr, arePlain_resolveList,
          plainList_resolveList, toExprs_resolveList items]
      exact ⟨hexpr, hexpr⟩
  | .tuple items => by
      have hexpr : (resolve look (.tuple items)).toExpr id =
          (tuple items).toExpr look := by
        rw [resolve, toExpr, toExpr, arePlain_resolveList,
          plainList_resolveList, toExprs_resolveList items]
      exact ⟨hexpr, hexpr⟩
  | .map entries => by
      have hplain : plain (.map (resolveEntries look entries)) =
          plain (.map entries) := plain_resolve (.map entries)
      constructor
      · rw [resolve, toExpr, toExpr, arePlainEntries_resolveEntries, hplain,
          toMembers_resolveEntries entries]
      · rw [resolve, toMember, toMember, ofMapping, ofMapping,
          toMembers_resolveEntries entries]

theorem toExprs_resolveList :
    ∀ items : List (Operand ρ),
      toExprs id (resolveList look items) = toExprs look items
  | [] => rfl
  | operand :: rest => by
      rw [resolveList, toExprs, toExprs, (converted_resolve operand).1,
        toExprs_resolveList rest]

theorem toMembers_resolveEntries :
    ∀ entries : List (Scalar × Operand ρ),
      toMembers id (resolveEntries look entries) = toMembers look entries
  | [] => rfl
  | (key, operand) :: rest => by
      rw [resolveEntries, toMembers_cons, toMembers_cons,
        (converted_resolve operand).2, toMembers_resolveEntries rest]

end

@[simp] theorem toExpr_resolve (operand : Operand ρ) :
    (operand.resolve look).toExpr id = operand.toExpr look :=
  (converted_resolve operand).1

@[simp] theorem toValue_resolve (operand : Operand ρ) :
    (operand.resolve look).toValue id = operand.toValue look := by
  cases operand with
  | scalar value => cases value <;> rfl
  | map entries => exact (converted_resolve (.map entries)).2
  | list | tuple => exact toExpr_resolve _
  | _ => rfl

@[simp] theorem toDocument_resolve (operand : Operand ρ) :
    (operand.resolve look).toDocument id = operand.toDocument look :=
  toValue_resolve operand

@[simp] theorem toOptions_resolve (operand : Operand ρ) :
    (operand.resolve look).toOptions id = operand.toOptions look := by
  have hdocument : (operand.resolve look).toDocument id =
      operand.toDocument look := toDocument_resolve operand
  cases operand with
  | scalar value => cases value <;> rfl
  | list | tuple | map =>
      rw [resolve] at hdocument
      simp only [resolve, toOptions, hdocument]
  | _ => rfl

@[simp] theorem toVariable_resolve (operand : Operand ρ) :
    (operand.resolve look).toVariable = operand.toVariable := by
  cases operand with
  | built expr =>
      obtain ⟨node⟩ := expr
      cases node <;> rfl
  | _ => exact congrArg Except.ok (raw_resolve _)

end Operand

/-! ## Calls on builders -/

/-- A call with the record of every builder in the arguments in its place. -/
def Call.resolve (look : ρ → Query) : Call ρ → Call Query
  | .useCollections names => .useCollections (names.map (·.resolve look))
  | .loop variableName => .loop (variableName.resolve look)
  | .source given => .source (given.resolve look)
  | .join collection variableName =>
      .join (collection.resolve look) (variableName.resolve look)
  | .graph name direction startVertex minDepth maxDepth options =>
      .graph (name.resolve look) (direction.resolve look)
        (startVertex.resolve look) (minDepth.resolve look)
        (maxDepth.resolve look) (options.resolve look)
  | .loops vertex edge path =>
      .loops (vertex.resolve look) (edge.resolve look) (path.resolve look)
  | .filter condition => .filter (condition.resolve look)
  | .declare name value => .declare (name.resolve look) (value.resolve look)
  | .addCollect clause => .addCollect clause
  | .sort field direction =>
      .sort (field.resolve look) (direction.resolve look)
  | .insert document => .insert (document.resolve look)
  | .replace target document =>
      .replace (target.resolve look) (document.resolve look)
  | .remove target => .remove (target.resolve look)
  | .update target document =>
      .update (target.resolve look) (document.resolve look)
  | .into collection => .into (collection.resolve look)
  | .addUpsert upsert => .addUpsert upsert
  | .updateWith document updates collection oldReference =>
      .updateWith (document.resolve look) (updates.resolve look)
        (collection.resolve look) oldReference
  | .search view conditions options =>
      .search (view.resolve look) (Operand.resolveList look conditions)
        (options.resolve look)
  | .traverse variableName path maxDepth minDepth =>
      .traverse (variableName.resolve look) (path.resolve look)
        (maxDepth.resolve look) (minDepth.resolve look)
  | .prune condition => .prune (condition.resolve look)
  | .window preceding following aggregation name =>
      .window (preceding.resolve look) (following.resolve look)
        (aggregation.resolve look) (name.resolve look)
  | .result value distinct =>
      .result (value.resolve look) (distinct.resolve look)
  | .limit count skipped => .limit (count.resolve look) (skipped.resolve look)
  | .offset count => .offset (count.resolve look)
  | .paginate page size => .paginate (page.resolve look) (size.resolve look)

namespace Builder

variable {look : ρ → Query}

theorem openLoop_resolve (builder : Builder) (variableName : Operand ρ) :
    builder.openLoop (variableName.resolve look) =
      builder.openLoop variableName := by
  rw [openLoop, openLoop, Operand.toVariable_resolve]

theorem sourceValue_resolve (source : Operand ρ) :
    sourceValue (source.resolve look) = sourceValue source := by
  cases source with
  | scalar value => cases value <;> rfl
  | built expr =>
      obtain ⟨node⟩ := expr
      cases node <;> rfl
  | _ => exact congrArg Except.ok (Operand.raw_resolve _)

theorem iterate_resolve (builder : Builder) (source : Operand ρ) :
    builder.iterate (source.resolve look) = builder.iterate source := by
  rw [iterate, iterate, sourceValue_resolve]

theorem startVertex_resolve (vertex : Operand ρ) :
    startVertex (vertex.resolve look) = startVertex vertex := by
  cases vertex with
  | built expr =>
      obtain ⟨node⟩ := expr
      cases node <;> rfl
  | _ => exact congrArg Except.ok (Operand.raw_resolve _)

theorem direction_resolve (operand : Operand ρ) :
    direction (operand.resolve look) = direction operand := by
  rw [direction, direction, Operand.raw_resolve]

theorem someVariable_resolve (operand : Operand ρ) :
    someVariable (operand.resolve look) = someVariable operand := by
  cases operand with
  | scalar value => cases value <;> rfl
  | built expr =>
      obtain ⟨node⟩ := expr
      cases node <;> rfl
  | list | tuple | map | bare | query | other =>
      exact congrArg Except.ok (Operand.raw_resolve _)

theorem someDocument_resolve (operand : Operand ρ) :
    someDocument id (operand.resolve look) = someDocument look operand := by
  cases operand with
  | scalar value => cases value <;> rfl
  | _ => exact congrArg (some <$> ·) (Operand.toDocument_resolve _)

theorem setLimit_resolve (record : Query) (count offset : Operand ρ) :
    setLimit record (count.resolve look) (offset.resolve look) =
      setLimit record count offset := by
  have hlimit : Slot.count? (count.resolve look).raw = Slot.count? count.raw :=
    congrArg Slot.count? (Operand.raw_resolve count)
  have hoffset : (offset.resolve look).raw = offset.raw :=
    Operand.raw_resolve offset
  cases offset with
  | scalar value =>
      cases value <;>
        simp only [setLimit, Operand.resolve, Operand.raw, hlimit]
  | _ =>
      simp only [Operand.resolve] at hoffset ⊢
      simp only [setLimit, hlimit, hoffset]

theorem map_lockedCollection_resolve (names : List (Operand ρ)) :
    (names.map (·.resolve look)).map lockedCollection =
      names.map lockedCollection := by
  rw [List.map_map]
  refine List.map_congr_left fun name _ => ?_
  rw [Function.comp_apply, lockedCollection, lockedCollection,
    Operand.raw_resolve]

/-- A call converts the builders in its arguments to their records. -/
theorem perform_resolve (look : ρ → Query) (builder : Builder)
    (call : Call ρ) :
    builder.perform (fun _ => id) (call.resolve look) =
      builder.perform (fun _ => look) call := by
  cases call with
  | useCollections names =>
      simp only [Call.resolve, perform, map_lockedCollection_resolve,
        List.isEmpty_map]
  | loop variableName =>
      simp only [Call.resolve, perform, openLoop_resolve]
  | source given => simp only [Call.resolve, perform, iterate_resolve]
  | join collection variableName =>
      simp only [Call.resolve, perform, openLoop_resolve, iterate_resolve]
  | graph name direction vertex minDepth maxDepth options =>
      simp only [Call.resolve, perform, iterateGraph, direction_resolve,
        startVertex_resolve, Operand.toOptions_resolve, Operand.raw_resolve]
  | loops vertex edge path =>
      simp only [Call.resolve, perform, nameLoops, Operand.toVariable_resolve,
        someVariable_resolve]
  | addCollect | addUpsert => rfl
  | replace target document =>
      simp only [Call.resolve, perform, Operand.toVariable_resolve,
        someDocument_resolve]
  | limit count skipped => simp only [Call.resolve, perform, setLimit_resolve]
  | paginate page size =>
      have hlimit (offset : Scalar) :
          setLimit builder.record (size.resolve look)
              (.scalar offset : Operand Query) =
            setLimit builder.record size (.scalar offset : Operand ρ) :=
        setLimit_resolve builder.record size (.scalar offset)
      simp only [Call.resolve, perform, Operand.raw_resolve, hlimit]
  | search view conditions options =>
      simp only [Call.resolve, perform, search, Operand.toExprs_resolveList,
        Operand.toOptions_resolve, Operand.raw_resolve]
  | _ =>
      simp only [Call.resolve, perform, filter, declare, sort, into,
        updateWith, targetCollection, traverse, prune, window, setResult,
        Operand.toExpr_resolve, Operand.toValue_resolve,
        Operand.toDocument_resolve, Operand.toVariable_resolve,
        Operand.raw_resolve]

end Builder

/-- The record of a builder when a call on it converts its arguments. -/
def Call.recordSeen (record : Query) : Call ρ → Query
  | .search view _ _ =>
      (Builder.claimView record view.raw).toOption.getD record
  | _ => record

namespace Builder

/-- A call looks up all builders at one moment. -/
theorem perform_at_once (look : Query → ρ → Query) (builder : Builder)
    (call : Call ρ) :
    builder.perform look call =
      builder.perform (fun _ => look (call.recordSeen builder.record)) call := by
  cases call with
  | search view conditions options =>
      simp only [perform, Call.recordSeen]
      cases claimView builder.record view.raw <;> rfl
  | _ => rfl

theorem ofInitial_resolve (look : ρ → Query) (initial : Operand ρ) :
    ofInitial id (initial.resolve look) = ofInitial look initial := by
  cases initial with
  | scalar value => cases value <;> rfl
  | _ =>
      simp only [ofInitial, Operand.resolve,
        ← @Operand.toExpr_resolve ρ look]

end Builder

/-! ## Calls on stages -/

/-- The keys of a grouping with the record of every builder in its place. -/
def resolveKeys (look : ρ → Query) (keys : List (Value × Operand ρ)) :
    List (Value × Operand Query) :=
  keys.map fun (key, operand) => (key, operand.resolve look)

/-- A stage as it is when the builders in the keys of its grouping are looked up
now.  All other parts of a stage have been converted before. -/
def Stage.resolve (look : ρ → Query) : Stage ρ → Stage Query
  | .collect keys aggregates => .collect (resolveKeys look keys) aggregates
  | .collectKeep keys keep => .collectKeep (resolveKeys look keys) keep
  | .upsertInsert search => .upsertInsert search
  | .upsertUpdate search insert => .upsertUpdate search insert
  | .upsertInto search insert update => .upsertInto search insert update

def StageCall.resolve (look : ρ → Query) : StageCall ρ → StageCall Query
  | .aggregate function name expression =>
      .aggregate function (name.resolve look) (expression.resolve look)
  | .finish => .finish
  | .into name => .into (name.resolve look)
  | .aggregateAll aggregates =>
      .aggregateAll (aggregates.map fun (name, expression) =>
        (name, expression.resolve look))
  | .sort field direction =>
      .sort (field.resolve look) (direction.resolve look)
  | .insert document => .insert (document.resolve look)
  | .update document => .update (document.resolve look)

def StageResult.resolve (look : ρ → Query) :
    StageResult ρ → StageResult Query
  | .same stage => .same (stage.resolve look)
  | .next stage => .next (stage.resolve look)
  | .parent builder => .parent builder
  | .failed builder error => .failed builder error

namespace Stage

variable {look : ρ → Query}

theorem convertKeys_resolveKeys (keys : List (Value × Operand ρ)) :
    convertKeys id (resolveKeys look keys) = convertKeys look keys := by
  simp only [convertKeys, resolveKeys, List.mapM_map, Function.comp_def,
    Operand.toValue_resolve]

theorem collectClause_resolveKeys (keys : List (Value × Operand ρ))
    (aggregates : List (Value × Expr)) (into : Value) :
    collectClause id (resolveKeys look keys) aggregates into =
      collectClause look keys aggregates into := by
  rw [collectClause, collectClause, convertKeys_resolveKeys]

/-- A finished clause has no builders to be looked up. -/
theorem hand_resolve (builder : Builder) (clause : Except Error (Collect Expr)) :
    hand (fun _ => look) builder clause = hand (fun _ => id) builder clause := by
  cases clause <;> rfl

theorem ofOutcome_resolve (outcome : Outcome) :
    (ofOutcome outcome).resolve look = ofOutcome outcome := by
  obtain ⟨builder, error⟩ := outcome
  cases error <;> rfl

theorem orFail_resolve {α : Type} (builder : Builder)
    (step : Except Error α) (next : α → StageResult ρ) :
    (orFail builder step next).resolve look =
      orFail builder step fun value => (next value).resolve look := by
  cases step <;> rfl

theorem perform_resolve (look : ρ → Query) (builder : Builder)
    (stage : Stage ρ) (call : StageCall ρ) :
    (stage.resolve look).perform (fun _ => id) builder (call.resolve look) =
      (stage.perform (fun _ => look) builder call).resolve look := by
  have hsort (builder : Builder) (field direction : Operand ρ) :
      builder.perform (fun _ => id)
          (.sort (field.resolve look) (direction.resolve look)) =
        builder.perform (fun _ => look) (.sort field direction) :=
    Builder.perform_resolve look builder (.sort field direction)
  cases stage with
  | collect keys aggregates =>
      cases call with
      | aggregate function name expression =>
          simp only [resolve, StageCall.resolve, perform, aggregation,
            Operand.toValue_resolve, Operand.raw_resolve, orFail_resolve]
          rfl
      | finish | into =>
          simp only [resolve, StageCall.resolve, perform, ofOutcome_resolve,
            collectClause_resolveKeys, Operand.raw_resolve, hand_resolve]
      | sort field direction =>
          simp only [resolve, StageCall.resolve, perform, ofOutcome_resolve,
            collectClause_resolveKeys, hand_resolve, hsort]
      | _ => rfl
  | collectKeep keys keep =>
      cases call with
      | into name =>
          simp only [resolve, StageCall.resolve, perform, ofOutcome_resolve,
            convertKeys_resolveKeys, Operand.raw_resolve, hand_resolve]
      | aggregateAll aggregates =>
          simp only [resolve, StageCall.resolve, perform, ofOutcome_resolve,
            convertKeys_resolveKeys, Operand.toValue_resolve, hand_resolve,
            List.mapM_map, Function.comp_def]
      | sort field direction =>
          simp only [resolve, StageCall.resolve, perform, ofOutcome_resolve,
            hsort]
      | _ => rfl
  | upsertInsert search =>
      cases call with
      | insert document =>
          simp only [resolve, StageCall.resolve, perform,
            Operand.toDocument_resolve, orFail_resolve]
          rfl
      | _ => rfl
  | upsertUpdate search insert =>
      cases call with
      | update document =>
          simp only [resolve, StageCall.resolve, perform,
            Operand.toDocument_resolve, orFail_resolve]
          rfl
      | _ => rfl
  | upsertInto search insert update =>
      cases call with
      | into collection =>
          simp only [resolve, StageCall.resolve, perform, orFail_resolve,
            Operand.raw_resolve, ofOutcome_resolve]
          rfl
      | _ => rfl

/-- A call on a stage looks up all builders when it is made. -/
theorem perform_at_once (look : Query → ρ → Query) (builder : Builder)
    (stage : Stage ρ) (call : StageCall ρ) :
    stage.perform look builder call =
      stage.perform (fun _ => look builder.record) builder call := by
  cases stage <;> cases call <;> rfl

theorem ofUpsert_resolve (search : Operand ρ) :
    ofUpsert id (search.resolve look) =
      (ofUpsert look search).map (Stage.resolve look) := by
  rw [ofUpsert, ofUpsert, Operand.toDocument_resolve]
  cases search.toDocument look <;> rfl

end Stage

end ArangoQuery
