import ArangoQuery.Proofs.CallOrder

/-!
# Calls that succeed

A call converts its arguments one after the other and changes the builder last.
So a call that succeeds has converted all of them, and the builder afterwards is
the one that they lead to.
-/

namespace ArangoQuery

namespace Builder

variable {builder after : Builder}

theorem of_success?_attempt {change : Except Error Builder}
    (hafter : (builder.attempt change).success? = some after) :
    change = .ok after := by
  cases change with
  | error error => cases hafter
  | ok result => exact congrArg Except.ok (Option.some.inj hafter)

theorem of_success?_onRecord {change : Except Error Query}
    (hafter : (builder.onRecord change).success? = some after) :
    ∃ record, change = .ok record ∧ after = { builder with record } := by
  cases change with
  | error error => cases hafter
  | ok record => exact ⟨record, rfl, (Option.some.inj hafter).symm⟩

theorem of_success?_andThen {outcome : Outcome} {next : Builder → Outcome}
    (hafter : (outcome.andThen next).success? = some after) :
    ∃ between, outcome.success? = some between ∧
      (next between).success? = some after :=
  Option.bind_eq_some_iff.1 (Family.success?_andThen outcome next ▸ hafter)

/-- A search that succeeds has claimed its view before. -/
theorem exists_of_search {ρ : Type} {look : Query → ρ → Query}
    {view options : Operand ρ} {conditions : List (Operand ρ)}
    (hafter : (builder.perform look
      (.search view conditions options)).success? = some after) :
    ∃ claimed clause, claimView builder.record view.raw = .ok claimed ∧
      searchClause (look claimed) view.raw conditions options = .ok clause ∧
      after = { builder with record := claimed.add (.search clause) } := by
  obtain ⟨between, hclaimed, hsearched⟩ := of_success?_andThen hafter
  obtain ⟨claimed, hclaim, rfl⟩ := of_success?_onRecord hclaimed
  obtain ⟨record, hsearch, rfl⟩ := of_success?_onRecord hsearched
  rw [search_eq] at hsearch
  obtain ⟨addition, haddition, rfl⟩ := exists_of_map_eq_ok hsearch
  obtain ⟨clause, hclause, rfl⟩ := exists_of_map_eq_ok haddition
  exact ⟨claimed, clause, hclaim, hclause, rfl⟩

/-- A call that adds a clause has converted its arguments to it. -/
theorem exists_of_addition? {ρ : Type} {look : Query → ρ → Query}
    {call : Call ρ} {converted : Except Error Addition}
    (hcall : call.addition? (look builder.record) builder.record =
      some converted)
    (hafter : (builder.perform look call).success? = some after) :
    ∃ addition, converted = .ok addition ∧
      after = { builder with record := builder.record.add addition } := by
  rw [perform_of_addition? hcall] at hafter
  obtain ⟨record, hrecord, rfl⟩ := of_success?_onRecord hafter
  obtain ⟨addition, haddition, rfl⟩ := exists_of_map_eq_ok hrecord
  exact ⟨addition, haddition, rfl⟩

/-! ## Chains of steps that succeed -/

variable {look : Nat → Query} {step : ChainStep}

/-- What every step of a chain keeps is kept by the chain. -/
theorem runChain_keeps {motive : Builder → Prop} {steps : List ChainStep}
    (hkeeps : ∀ step ∈ steps, ∀ builder after, motive builder →
      step.perform look builder = some after → motive after)
    (hrun : runChain look builder steps = some after)
    (hbuilder : motive builder) : motive after := by
  induction steps generalizing builder with
  | nil => exact Option.some.inj hrun ▸ hbuilder
  | cons step rest hrest =>
      obtain ⟨hstep, hkeeps⟩ := List.forall_mem_cons.1 hkeeps
      obtain ⟨between, hbetween, hrun⟩ := Option.bind_eq_some_iff.1 hrun
      exact hrest hkeeps hrun (hstep builder between hbuilder hbetween)

theorem runChain_append (look : Nat → Query) (builder : Builder)
    (left right : List ChainStep) :
    runChain look builder (left ++ right) =
      (runChain look builder left).bind fun between =>
        runChain look between right := by
  induction left generalizing builder with
  | nil => rfl
  | cons step rest hrest =>
      rw [List.cons_append, runChain, runChain, Option.bind_assoc]
      exact congrArg _ (funext hrest)

/-- Every step leaves the part of some family alone. -/
theorem exists_not_mem_ofStep (step : ChainStep) :
    ∃ family : Family, (Family.ofStep step).contains family = false := by
  cases step with
  | call request =>
      cases request with
      | window => exact ⟨.pages, rfl⟩
      | _ => exact ⟨.windows, rfl⟩
  | pruneWith condition => exact ⟨.windows, rfl⟩
  | finish stage request =>
      refine ⟨.windows, ?_⟩
      cases stage <;> cases request <;> rfl

/-- No step makes a query raw. -/
theorem raw_of_step (hstep : step.perform look builder = some after) :
    after.record.raw = builder.record.raw := by
  obtain ⟨family, hfamily⟩ := exists_not_mem_ofStep step
  have hraw (builder : Builder) :
      (family.view builder).record.raw = builder.record.raw := by
    cases family <;> rfl
  calc after.record.raw
      = (family.view after).record.raw := (hraw after).symm
    _ = (family.view builder).record.raw := by
        rw [(Family.respects_step look step).of_not_mem hfamily hstep]
    _ = builder.record.raw := hraw builder

theorem loopNames_of_prune {condition : Operand Nat}
    (hprune : (builder.perform (fun _ => look) (.prune condition)).success? =
      some after) :
    after.record.loopNames = builder.record.loopNames := by
  obtain ⟨addition, hconverted, rfl⟩ := exists_of_addition? rfl hprune
  obtain ⟨condition, -, rfl⟩ := exists_of_map_eq_ok hconverted
  rfl

/-- The variables of a traversal are named by one call only. -/
theorem loopNames_of_step
    (hloops : ∀ vertex edge path, step ≠ .call (.loops vertex edge path))
    (hstep : step.perform look builder = some after) :
    after.record.loopNames = builder.record.loopNames := by
  have hother
      (hfamily : (Family.ofStep step).contains .traversalLoops = false) :
      after.record.loopNames = builder.record.loopNames :=
    congrArg (fun view => view.record.loopNames)
      ((Family.respects_step look step).of_not_mem hfamily hstep)
  cases step with
  | call request =>
      cases request with
      | loops vertex edge path => exact absurd rfl (hloops vertex edge path)
      | prune condition => exact loopNames_of_prune hstep
      | _ => exact hother rfl
  | pruneWith condition =>
      rw [ChainStep.perform] at hstep
      split at hstep
      · exact loopNames_of_prune hstep
      · cases hstep
  | finish stage request =>
      apply hother
      cases stage <;> cases request <;> rfl

end Builder

namespace Stage

variable {ρ : Type} {builder after : Builder}

theorem success?_of_parent? {outcome : Outcome}
    (hafter : (ofOutcome outcome : StageResult ρ).parent? = some after) :
    outcome.success? = some after :=
  (Family.parent?_ofOutcome outcome).symm.trans hafter

/-- A step of a stage that does not fail has converted its argument. -/
theorem exists_of_orFail {α β : Type} {seen : StageResult ρ → Option β}
    {step : Except Error α} {next : α → StageResult ρ} {result : β}
    (hresult : seen (orFail builder step next) = some result)
    (hfailed : ∀ error, seen (.failed builder error) = none) :
    ∃ value, step = .ok value ∧ seen (next value) = some result := by
  cases step with
  | error error =>
      rw [orFail, hfailed] at hresult
      cases hresult
  | ok value => exact ⟨value, rfl, hresult⟩

end Stage

end ArangoQuery
