import ArangoQuery.Proofs.DeclaredLoops
import ArangoQuery.Proofs.FailedCalls
import ArangoQuery.Proofs.StageReturns

/-!
# Conditions and variables around groupings

A condition or a variable that is declared before the first grouping is finished
is written before all groupings, any other after them.  A grouping may have been
started long before: only the call that finishes it counts
(`ChainStep.finishesGrouping`).  A builder keeps the two sides apart in its
`Placement`, which a step changes by the condition, the variable or the grouping
that it adds.  In the text of a compiled query the lines of the groupings stand
between the two sides (`Query.WritesAround`).
-/

namespace ArangoQuery

open Record (members)
open Template (FillsEach)

namespace ChainStep

/-- The condition that a step adds. -/
def condition? (look : Nat → Query) : ChainStep → Option Expr
  | .call (.filter condition) => (condition.toExpr look).toOption
  | _ => none

/-- The variable that a step declares. -/
def declaration? (look : Nat → Query) : ChainStep → Option (String × Expr)
  | .call (.declare name value) =>
      ((do
        let value ← value.toValue look
        (Prod.mk <$> Check.text name.raw <*> value.accept).orInvalid
          "LetClause") : Except Error (String × Expr)).toOption
  | _ => none

/-- Does a step, if it succeeds, hand a grouping to the builder?  Sorting finishes
only a grouping that keeps no variables. -/
def finishesGrouping : ChainStep → Bool
  | .call (.addCollect _) => true
  | .finish (.collect ..) _ => true
  | .finish (.collectKeep ..) (.sort ..) => false
  | .finish (.collectKeep ..) _ => true
  | _ => false

/-- The steps before the first grouping is finished. -/
def beforeGrouping (steps : List ChainStep) : List ChainStep :=
  steps.takeWhile fun step => !step.finishesGrouping

/-- That step, if there is one, and those after it. -/
def fromGrouping (steps : List ChainStep) : List ChainStep :=
  steps.dropWhile fun step => !step.finishesGrouping

end ChainStep

/-- A family without members is not declared. -/
def declared {α : Type} (clauses : List α) : Option (List α) :=
  if clauses.isEmpty then none else some clauses

theorem append_declared {α : Type} (clauses : List α) (clause : α) :
    Record.append (declared clauses) clause = declared (clauses ++ [clause]) := by
  cases clauses <;> simp [declared, Record.append, members]

/-! ## What is placed around the groupings -/

/-- Clauses before the first grouping, and clauses after it. -/
structure Placed (α : Type) where
  early : Option (List α)
  late : Option (List α)

namespace Placed

variable {α : Type}

def add (phase : Phase) (placed : Placed α) (clause : α) : Placed α :=
  match phase with
  | .beforeCollect =>
      { placed with early := Record.append placed.early clause }
  | .afterCollect => { placed with late := Record.append placed.late clause }

def ofLists (early late : List α) : Placed α where
  early := declared early
  late := declared late

theorem add_early (clause : Option α) (early : List α) :
    clause.elim (ofLists early []) ((ofLists early []).add .beforeCollect) =
      ofLists (early ++ clause.toList) [] := by
  cases clause with
  | none => simp
  | some clause => simp [add, ofLists, append_declared]

theorem add_late (clause : Option α) (early late : List α) :
    clause.elim (ofLists early late) ((ofLists early late).add .afterCollect) =
      ofLists early (late ++ clause.toList) := by
  cases clause with
  | none => simp
  | some clause => simp [add, ofLists, append_declared]

end Placed

structure Placement where
  conditions : Placed Expr
  declarations : Placed (String × Expr)
  phase : Phase

namespace Placement

variable (look : Nat → Query)

/-- What is placed after a step. -/
def after (placement : Placement) (step : ChainStep) : Placement where
  conditions := (step.condition? look).elim placement.conditions
    (placement.conditions.add placement.phase)
  declarations := (step.declaration? look).elim placement.declarations
    (placement.declarations.add placement.phase)
  phase := if step.finishesGrouping then .afterCollect else placement.phase

/-- What steps before the first grouping and steps from there on place. -/
def ofSteps (early late : List ChainStep) : Placement where
  conditions := .ofLists (early.filterMap (ChainStep.condition? look))
    (late.filterMap (ChainStep.condition? look))
  declarations := .ofLists (early.filterMap (ChainStep.declaration? look))
    (late.filterMap (ChainStep.declaration? look))
  phase := if late.isEmpty then .beforeCollect else .afterCollect

variable {look}

variable {early late : List ChainStep} {step : ChainStep}

theorem filterMap_concat {α : Type} (part : ChainStep → Option α)
    (steps : List ChainStep) (step : ChainStep) :
    (steps ++ [step]).filterMap part =
      steps.filterMap part ++ (part step).toList := by
  rw [List.filterMap_append]
  cases hpart : part step <;> simp [hpart]

theorem after_early (hstep : step.finishesGrouping = false)
    (early : List ChainStep) :
    (ofSteps look early []).after look step =
      ofSteps look (early ++ [step]) [] := by
  simp only [after, ofSteps, filterMap_concat, hstep, List.filterMap_nil,
    List.isEmpty_nil, if_true, Placed.add_early]
  rfl

/-- A step that finishes a grouping neither conditions nor declares anything. -/
theorem after_finished (hstep : step.finishesGrouping = true)
    (early : List ChainStep) :
    (ofSteps look early []).after look step = ofSteps look early [step] := by
  cases step with
  | pruneWith condition => cases hstep
  | finish stage request =>
      rw [after, hstep]
      rfl
  | call request =>
      cases request with
      | addCollect clause => rfl
      | _ => cases hstep

theorem after_late (hlate : late ≠ []) (early : List ChainStep)
    (step : ChainStep) :
    (ofSteps look early late).after look step =
      ofSteps look early (late ++ [step]) := by
  have hempty : late.isEmpty = false := by simpa using hlate
  have hconcat : (late ++ [step]).isEmpty = false := by simp
  simp only [after, ofSteps, filterMap_concat, hempty, hconcat,
    Bool.false_eq_true, if_false, ite_self, Placed.add_late]

theorem foldl_late (hlate : late ≠ []) (early steps : List ChainStep) :
    steps.foldl (after look) (ofSteps look early late) =
      ofSteps look early (late ++ steps) := by
  induction steps generalizing late with
  | nil => rw [List.append_nil]; rfl
  | cons step rest hrest =>
      rw [List.foldl_cons, after_late hlate, hrest (by simp), List.append_assoc]
      rfl

/-- Until a grouping is finished the steps go before it, from then on after it. -/
theorem foldl_early (early steps : List ChainStep) :
    steps.foldl (after look) (ofSteps look early []) =
      ofSteps look (early ++ ChainStep.beforeGrouping steps)
        (ChainStep.fromGrouping steps) := by
  induction steps generalizing early with
  | nil => rw [ChainStep.beforeGrouping, List.takeWhile_nil, List.append_nil]; rfl
  | cons step rest hrest =>
      rw [List.foldl_cons, ChainStep.beforeGrouping, ChainStep.fromGrouping,
        List.takeWhile_cons, List.dropWhile_cons]
      cases hstep : step.finishesGrouping with
      | false =>
          rw [after_early hstep, hrest, List.append_assoc]
          rfl
      | true =>
          rw [after_finished hstep, foldl_late (by simp)]
          simp

end Placement

/-! ## What a builder places -/

namespace Query

def placement (query : Query) : Placement where
  conditions :=
    { early := query.filters, late := query.filtersAfterCollect }
  declarations :=
    { early := query.letsBeforeCollect, late := query.letsAfterCollect }
  phase := query.phase

theorem placement_addFilter (query : Query) (condition : Expr) :
    (query.addFilter condition).placement =
      { query.placement with
        conditions := query.placement.conditions.add query.phase condition } := by
  unfold addFilter
  cases hphase : query.phase <;>
    simp only [placement, Placed.add] <;> rfl

theorem placement_addLet (query : Query) (clause : String × Expr) :
    (query.addLet clause).placement =
      { query.placement with
        declarations := query.placement.declarations.add query.phase clause } := by
  unfold addLet
  cases hphase : query.phase <;>
    simp only [placement, Placed.add] <;> rfl

theorem placement_addCollect (query : Query) (clause : Collect Expr) :
    placement
        { query with collects := Record.append query.collects clause } =
      { query.placement with phase := .afterCollect } := by
  simp [placement, Record.phase, Record.append, members]

end Query

namespace Builder

variable {look : Nat → Query} {builder after : Builder} {step : ChainStep}

theorem placement_of_gains {call : StageCall Nat} {clause : Collect Expr}
    (hgains : Stage.Gains builder after call (.grouping clause)) :
    after.record.placement =
      { builder.record.placement with phase := .afterCollect } := by
  obtain ⟨sorts, -, rfl⟩ := hgains
  exact builder.record.placement_addCollect clause

theorem exists_of_filter {condition : Operand Nat}
    (hstep : (ChainStep.call (.filter condition)).perform look builder =
      some after) :
    ∃ expr,
      (ChainStep.call (.filter condition)).condition? look = some expr ∧
        after = { builder with record := builder.record.addFilter expr } := by
  obtain ⟨addition, haddition, rfl⟩ := exists_of_addition? rfl hstep
  obtain ⟨expr, hexpr, rfl⟩ := exists_of_map_eq_ok haddition
  exact ⟨expr, congrArg Except.toOption hexpr, rfl⟩

theorem exists_of_declare {name value : Operand Nat}
    (hstep : (ChainStep.call (.declare name value)).perform look builder =
      some after) :
    ∃ clause,
      (ChainStep.call (.declare name value)).declaration? look = some clause ∧
        after = { builder with record := builder.record.addLet clause } := by
  obtain ⟨addition, haddition, rfl⟩ := exists_of_addition? rfl hstep
  obtain ⟨clause, hclause, rfl⟩ := exists_of_map_eq_ok haddition
  exact ⟨clause, congrArg Except.toOption hclause, rfl⟩

/-- Calls of other families place nothing. -/
theorem placement_of_not_mem
    (hconditions : (Family.ofStep step).contains .conditions = false)
    (hdeclarations : (Family.ofStep step).contains .declarations = false)
    (hstep : step.perform look builder = some after) :
    after.record.placement = builder.record.placement := by
  have hparts (builder : Builder) :
      builder.record.placement =
        { (Family.view .conditions builder).record.placement with
          declarations :=
            (Family.view .declarations
              builder).record.placement.declarations } := rfl
  have hrespects := Family.respects_step look step
  rw [hparts after, hrespects.of_not_mem hconditions hstep,
    hrespects.of_not_mem hdeclarations hstep, ← hparts]

theorem placement_of_step (hstep : step.perform look builder = some after) :
    after.record.placement = builder.record.placement.after look step := by
  cases step with
  | pruneWith condition => exact placement_of_not_mem rfl rfl hstep
  | call request =>
      cases request with
      | filter condition =>
          obtain ⟨expr, hexpr, rfl⟩ := exists_of_filter hstep
          rw [Query.placement_addFilter, Placement.after, hexpr]
          rfl
      | declare name value =>
          obtain ⟨clause, hclause, rfl⟩ := exists_of_declare hstep
          rw [Query.placement_addLet, Placement.after, hclause]
          rfl
      | addCollect clause =>
          obtain rfl := Option.some.inj hstep
          exact builder.record.placement_addCollect clause
      | _ => exact placement_of_not_mem rfl rfl hstep
  | finish stage request =>
      have hparent : (stage.perform (fun _ => look) builder request).parent? =
          some after := hstep
      cases stage with
      | collect keys aggregates =>
          obtain ⟨clause, -, hgains⟩ := Stage.exists_of_parent_collect hparent
          exact placement_of_gains hgains
      | collectKeep keys keep =>
          cases request with
          | sort => exact placement_of_not_mem rfl rfl hstep
          | _ =>
              obtain ⟨_, _, clause, -, -, -, hgains⟩ :=
                Stage.exists_of_parent_collectKeep (by simp) hparent
              exact placement_of_gains hgains
      | _ => cases request <;> exact placement_of_not_mem rfl rfl hstep

theorem placement_of_runChain {steps : List ChainStep}
    (hrun : runChain look builder steps = some after) :
    after.record.placement =
      steps.foldl (Placement.after look) builder.record.placement := by
  induction steps generalizing builder with
  | nil =>
      obtain rfl := Option.some.inj hrun
      rfl
  | cons step rest hrest =>
      obtain ⟨between, hstep, hrun⟩ := Option.bind_eq_some_iff.1 hrun
      rw [List.foldl_cons, ← placement_of_step hstep]
      exact hrest hrun

theorem placement_of_ofInitial {initial : Operand Nat}
    (hinitial : ofInitial look initial = .ok builder) :
    builder.record.placement = .ofSteps look [] [] := by
  obtain ⟨collection, rfl⟩ | ⟨result, -, rfl⟩ := exists_of_ofInitial hinitial
  · rfl
  · rfl

/-- A builder keeps what the steps place. -/
theorem placement_of_chain {initial : Operand Nat} {start : Builder}
    {steps : List ChainStep} (hstart : ofInitial look initial = .ok start)
    (hrun : runChain look start steps = some builder) :
    builder.record.placement =
      .ofSteps look (ChainStep.beforeGrouping steps)
        (ChainStep.fromGrouping steps) := by
  rw [placement_of_runChain hrun, placement_of_ofInitial hstart,
    Placement.foldl_early, List.nil_append]

/-! ## The phase -/

theorem phase_of_step (hstep : step.perform look builder = some after)
    (hphase : builder.record.phase = .afterCollect) :
    after.record.phase = .afterCollect := by
  have hafter : after.record.phase =
      if step.finishesGrouping then .afterCollect else builder.record.phase :=
    congrArg Placement.phase (placement_of_step hstep)
  rw [hafter, hphase, ite_self]

theorem phase_of_trace? {left : Builder} {request : Call Nat}
    (htrace : builder.trace? request = some left) :
    left.record.phase = builder.record.phase := by
  cases request with
  | search view conditions options =>
      rw [trace?] at htrace
      split at htrace
      · obtain rfl := Option.some.inj htrace
        rfl
      · cases htrace
  | join collection variableName =>
      have hopen : (builder.attempt (builder.openLoop variableName)).success? =
          some left := by
        cases hloop : builder.openLoop variableName with
        | error error => rw [trace?, hloop] at htrace; cases htrace
        | ok opened => rw [trace?, hloop] at htrace; exact htrace
      have hview : Family.view .conditions left =
          Family.view .conditions builder :=
        (Family.respects_openLoop variableName).of_not_mem rfl hopen
      exact congrArg (fun view => view.record.phase) hview
  | _ => cases htrace

/-- No call leads back in front of the groupings, whether or not it fails. -/
theorem phase_of_perform (look : Nat → Query) (request : Call Nat)
    (hphase : builder.record.phase = .afterCollect) :
    (builder.perform (fun _ => look) request).builder.record.phase =
      .afterCollect := by
  cases herror : (builder.perform (fun _ => look) request).error with
  | none =>
      have hstep : (ChainStep.call request).perform look builder =
          some (builder.perform (fun _ => look) request).builder := by
        rw [ChainStep.perform, Outcome.success?, herror]
      exact phase_of_step hstep hphase
  | some error =>
      rw [perform_failed _ _ herror]
      cases htrace : builder.trace? request with
      | none => exact hphase
      | some left => exact (phase_of_trace? htrace).trans hphase

theorem phase_of_stageCall {look : Nat → Query} {stage : Stage Nat}
    {request : StageCall Nat} {left : Builder}
    (hleft : stage.perform (fun _ => look) builder request = .parent left ∨
      ∃ error, stage.perform (fun _ => look) builder request =
        .failed left error)
    (hphase : builder.record.phase = .afterCollect) :
    left.record.phase = .afterCollect := by
  obtain hparent | ⟨error, hfailed⟩ := hleft
  · have hstep : (ChainStep.finish stage request).perform look builder =
        some left := by
      rw [ChainStep.perform, hparent]
      rfl
    exact phase_of_step hstep hphase
  · rw [Stage.perform_failed hfailed]
    cases htrace : stage.trace? (fun _ => look) builder request with
    | none => exact hphase
    | some added =>
        unfold Stage.trace? at htrace
        split at htrace
        · obtain ⟨clause, -, rfl⟩ := Option.map_eq_some_iff.1 htrace
          exact phase_of_perform look (.addCollect clause) hphase
        · cases htrace

end Builder

/-! ## The lines around the groupings -/

namespace ClauseKind

/-- The kinds that are written before the groupings. -/
def early : List ClauseKind :=
  all.take 6

/-- The kinds that are written after them. -/
def late : List ClauseKind :=
  all.drop 7

theorem all_eq : all = early ++ .grouping :: late :=
  rfl

end ClauseKind

def filterTemplate (condition : Expr) : Template :=
  Piece.text "FILTER " :: condition.template

def letTemplate (clause : String × Expr) : Template :=
  Piece.text ("LET " ++ clause.1 ++ " = ") :: clause.2.template

/-- The lines of a family, in its order and each with its values. -/
def FilledBy {α : Type} (template : α → Template) (clauses : Option (List α))
    (lines : List String) : Prop :=
  ∃ store last, FillsEach ((members clauses).map template) store lines last

namespace Query

variable {query : Query} {compiled : CompiledQuery} {placement : Placement}
variable {linesOf : ClauseKind → List String}

/-- The text is made of lines before the groupings, the lines of these, and lines
after them; conditions and variables are written where they are placed. -/
structure WritesAround (query : Query) (compiled : CompiledQuery)
    (placement : Placement) (linesOf : ClauseKind → List String) : Prop
    extends query.Writes compiled linesOf where
  around : compiled.text = "\n".intercalate
    (ClauseKind.early.flatMap linesOf ++ linesOf .grouping ++
      ClauseKind.late.flatMap linesOf)
  earlyFilters : FilledBy filterTemplate placement.conditions.early
    ((ClauseKind.early.flatMap linesOf).filter (beginsWith "FILTER "))
  lateFilters : FilledBy filterTemplate placement.conditions.late
    ((ClauseKind.late.flatMap linesOf).filter (beginsWith "FILTER "))
  earlyLets : FilledBy letTemplate placement.declarations.early
    ((ClauseKind.early.flatMap linesOf).filter (beginsWith "LET "))
  lateLets : FilledBy letTemplate placement.declarations.late
    ((ClauseKind.late.flatMap linesOf).filter (beginsWith "LET "))
  groupings : ∀ line ∈ linesOf .grouping,
    beginsWith "FILTER " line = false ∧ beginsWith "LET " line = false
  others : ∀ line ∈
    ClauseKind.early.flatMap linesOf ++ ClauseKind.late.flatMap linesOf,
    beginsWith "COLLECT" line = false

theorem map_filterLines (conditions : Option (List Expr)) :
    filterLines (conditions.map (List.map Expr.template)) =
      (members conditions).map filterTemplate := by
  rw [filterLines, Record.members_map, List.map_map]
  rfl

theorem map_letLines (clauses : Option (List (String × Expr))) :
    letLines (clauses.map (Document.map Expr.template)) =
      (members clauses).map letTemplate := by
  have hmembers : members (clauses.map (Document.map Expr.template)) =
      Document.map Expr.template (members clauses) := by
    cases clauses <;> rfl
  rw [letLines, hmembers, Document.map, List.map_map]
  rfl

/-- The only kind of a list that a mark belongs to. -/
theorem Writes.filledBy (hwrites : query.Writes compiled linesOf)
    (kind : ClauseKind) {kinds : List ClauseKind} {mark : String}
    (hmark : ∀ other ∈ kinds, ∀ word ∈ other.words,
      Settles mark word ∧ beginsWith mark word = (other == kind))
    (hkinds : kinds.filter (· == kind) = [kind])
    {α : Type} {template : α → Template} {clauses : Option (List α)}
    (hlines : query.lineTemplates.linesOf kind =
      (members clauses).map template) :
    FilledBy template clauses
      ((kinds.flatMap linesOf).filter (beginsWith mark)) := by
  obtain ⟨store, last, hfills⟩ := hwrites.fillsEach_kind kind
  rw [hwrites.filter_beginsWith hmark, hkinds, List.flatMap_singleton]
  exact ⟨store, last, hlines ▸ hfills⟩

theorem Writes.writesAround (hwrites : query.Writes compiled linesOf) :
    query.WritesAround compiled query.placement linesOf where
  toWrites := hwrites
  around := by
    rw [hwrites.text, ClauseKind.all_eq, List.flatMap_append, List.flatMap_cons,
      List.append_assoc]
  earlyFilters :=
    hwrites.filledBy .earlyFilter (by decide) (by decide)
      (map_filterLines query.filters)
  lateFilters :=
    hwrites.filledBy .lateFilter (by decide) (by decide)
      (map_filterLines query.filtersAfterCollect)
  earlyLets :=
    hwrites.filledBy .earlyLet (by decide) (by decide)
      (map_letLines query.letsBeforeCollect)
  lateLets :=
    hwrites.filledBy .lateLet (by decide) (by decide)
      (map_letLines query.letsAfterCollect)
  groupings line hline :=
    ⟨hwrites.beginsWith_of_mem (by decide) hline,
      hwrites.beginsWith_of_mem (by decide) hline⟩
  others := by
    intro line hline
    rw [← List.flatMap_append] at hline
    obtain ⟨kind, hkind, hline⟩ := List.mem_flatMap.1 hline
    refine hwrites.beginsWith_of_mem ?_ hline
    revert hkind
    cases kind <;> decide

end Query

namespace Query

variable {look : Nat → Query} {query : Query} {early late : List ChainStep}

/-- The parts of a record on the two sides of its groupings, by the steps before
the first grouping and those from there on. -/
structure IsSplitBy (query : Query) (look : Nat → Query)
    (early late : List ChainStep) : Prop where
  filters : query.filters =
    declared (early.filterMap (ChainStep.condition? look))
  filtersAfterCollect : query.filtersAfterCollect =
    declared (late.filterMap (ChainStep.condition? look))
  letsBeforeCollect : query.letsBeforeCollect =
    declared (early.filterMap (ChainStep.declaration? look))
  letsAfterCollect : query.letsAfterCollect =
    declared (late.filterMap (ChainStep.declaration? look))
  /-- Only after a grouping is there anything after it. -/
  grouped : query.filtersAfterCollect.isSome ∨ query.letsAfterCollect.isSome →
    query.collects.isSome
  phase : query.phase = .afterCollect ↔ late ≠ []

theorem isSplitBy_of_placement
    (hplacement : query.placement = .ofSteps look early late) :
    query.IsSplitBy look early late := by
  have hphase : query.phase = .afterCollect ↔ late ≠ [] := by
    have hparts : query.phase = _ := congrArg Placement.phase hplacement
    rw [hparts]
    cases late <;> simp [Placement.ofSteps]
  have hconditions := congrArg Placement.conditions hplacement
  have hdeclarations := congrArg Placement.declarations hplacement
  have hfilters := congrArg Placed.late hconditions
  have hlets := congrArg Placed.late hdeclarations
  refine ⟨congrArg Placed.early hconditions, hfilters,
    congrArg Placed.early hdeclarations, hlets, fun hlate => ?_, hphase⟩
  have hsteps : late ≠ [] := by
    rintro rfl
    obtain hlate | hlate := hlate
    · rw [show query.filtersAfterCollect = none from hfilters] at hlate
      cases hlate
    · rw [show query.letsAfterCollect = none from hlets] at hlate
      cases hlate
  have hgrouped := hphase.2 hsteps
  cases hcollects : query.collects with
  | none => rw [Record.phase, hcollects] at hgrouped; cases hgrouped
  | some collects => rfl

end Query

namespace Builder

variable {look : Nat → Query} {builder : Builder}

theorem exists_perform_of_mem {start : Builder} {steps : List ChainStep}
    (hrun : runChain look start steps = some builder) {step : ChainStep}
    (hstep : step ∈ steps) :
    ∃ before after, step.perform look before = some after := by
  induction steps generalizing start with
  | nil => cases hstep
  | cons first rest hrest =>
      obtain ⟨between, hfirst, hrun⟩ := Option.bind_eq_some_iff.1 hrun
      cases hstep with
      | head => exact ⟨start, between, hfirst⟩
      | tail _ hstep => exact hrest hrun hstep

/-- Whatever the order of the calls, the first finished grouping splits the
conditions and the variables of a query into those called before it and those
called after it, in the order of their calls.  No call leads back in front of a
grouping, and the text of the query has the two sides on the two sides of the
groupings. -/
theorem groupings_split_query (look : Nat → Query) {initial : Operand Nat}
    {start builder : Builder} {steps : List ChainStep}
    (hstart : ofInitial look initial = .ok start)
    (hrun : runChain look start steps = some builder) :
    (∀ condition, ChainStep.call (.filter condition) ∈ steps →
      ((ChainStep.call (.filter condition)).condition? look).isSome) ∧
    (∀ name value, ChainStep.call (.declare name value) ∈ steps →
      ((ChainStep.call (.declare name value)).declaration? look).isSome) ∧
    builder.record.IsSplitBy look (ChainStep.beforeGrouping steps)
      (ChainStep.fromGrouping steps) ∧
    (builder.record.phase = .afterCollect →
      (∀ request, (builder.perform (fun _ => look) request).builder.record.phase =
        .afterCollect) ∧
      ∀ (stage : Stage Nat) request left,
        (stage.perform (fun _ => look) builder request = .parent left ∨
          ∃ error, stage.perform (fun _ => look) builder request =
            .failed left error) →
        left.record.phase = .afterCollect) ∧
    ∀ compiled, builder.record.compile = .ok compiled →
      ∃ linesOf, builder.record.WritesAround compiled
        (.ofSteps look (ChainStep.beforeGrouping steps)
          (ChainStep.fromGrouping steps)) linesOf := by
  have hplacement := placement_of_chain hstart hrun
  refine ⟨fun condition hstep => ?_, fun name value hstep => ?_,
    Query.isSplitBy_of_placement hplacement, fun hphase =>
      ⟨fun request => phase_of_perform look request hphase,
        fun stage request left hleft => phase_of_stageCall hleft hphase⟩,
    fun compiled hcompile => ?_⟩
  · obtain ⟨before, after, hstep⟩ := exists_perform_of_mem hrun hstep
    obtain ⟨expr, hexpr, -⟩ := exists_of_filter hstep
    rw [hexpr]
    rfl
  · obtain ⟨before, after, hstep⟩ := exists_perform_of_mem hrun hstep
    obtain ⟨clause, hclause, -⟩ := exists_of_declare hstep
    rw [hclause]
    rfl
  · have hraw := raw_of_runChain hrun (of_ofInitial hstart).2.1
    obtain ⟨linesOf, hwrites⟩ := Query.exists_writes hraw hcompile
    exact ⟨linesOf, hplacement ▸ hwrites.writesAround⟩

end Builder

section Example

/-- Conditions and variables around two groupings. -/
def splitChain : List ChainStep :=
  [.call (.filter (.built (.reference "u.active"))),
    .call (.loop (.text "u")), .call (.source (.text "users")),
    .call (.declare (.text "age") (.text "u.age")),
    .finish (.collect [(.text "age", .text "age")] []) (.into (.text "g")),
    .call (.filter (.built (.reference "age"))),
    .finish (.collectKeep [(.text "a", .text "age")] [.text "age"])
      (.into (.text "h")),
    .call (.declare (.text "b") (.text "a")),
    .call (.result (.built (.reference "b")) (.scalar (.bool false)))]

theorem splitChain_split :
    ∃ builder compiled, Builder.runChain (fun _ => {}) {} splitChain =
        some builder ∧
      builder.record.compile = .ok compiled ∧
      compiled.text =
        "FOR u IN users\nLET age = u.age\nFILTER u.active\n" ++
        "COLLECT age = age\n  INTO g\nCOLLECT a = age\n  INTO h\n  KEEP age\n" ++
        "LET b = a\nFILTER age\nRETURN b" ∧
      builder.record.IsSplitBy (fun _ => {}) (splitChain.take 4)
        (splitChain.drop 4) ∧
      ∃ linesOf, builder.record.WritesAround compiled
        (.ofSteps (fun _ => {}) (splitChain.take 4) (splitChain.drop 4))
        linesOf := by
  have hstart : Builder.ofInitial (fun _ => {}) (.null : Operand Nat) =
      .ok {} := rfl
  obtain ⟨builder, hrun⟩ : ∃ builder,
      Builder.runChain (fun _ => {}) {} splitChain = some builder := ⟨_, rfl⟩
  obtain rfl := Option.some.inj hrun
  obtain ⟨-, -, hsplit, -, htext⟩ :=
    Builder.groupings_split_query (fun _ => {}) hstart hrun
  exact ⟨_, _, hrun, rfl, by decide +kernel, hsplit, htext _ rfl⟩

end Example

end ArangoQuery
