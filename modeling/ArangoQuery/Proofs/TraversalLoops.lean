import ArangoQuery.Proofs.DeclaredLoops

/-!
# Loops nested in a traversal

A traversal is declared by the names of its variables and the graph that it goes
through.  The names are kept apart from the name of the main loop, while the graph
is kept as the source of the main loop.  So the first loop that is opened after the
traversal takes the main loop's place, and the source that it is given replaces
the graph (`Builder.traversal_kept_iff`).
-/

namespace ArangoQuery

open Record (members)

namespace Builder

/-- The variables of a traversal. -/
def traversalNames (vertex edge path : Operand Nat) : Except Error LoopNames := do
  let vertex ← vertex.toVariable
  let edge ← someVariable edge
  let path ← someVariable path
  ((fun vertex edge path => { vertex, edge, path : LoopNames }) <$>
    Check.text vertex <*> Check.nullable Check.text edge <*>
    Check.nullable Check.text path).orInvalid "MultipleLoopVars"

theorem nameLoops_eq (record : Query) (vertex edge path : Operand Nat) :
    nameLoops record vertex edge path =
      (traversalNames vertex edge path).map fun names =>
        { record with loopNames := some names } := by
  rw [nameLoops, traversalNames]
  cases vertex.toVariable with
  | error error => rfl
  | ok vertex =>
      cases someVariable edge with
      | error error => rfl
      | ok edge => cases someVariable path <;> rfl

end Builder

namespace ChainStep

/-- Steps that may open a loop or decide what it iterates. -/
def declaresLoops : ChainStep → Bool
  | .call (.loop _) | .call (.source _) | .call (.join ..) | .call (.graph ..)
  | .call (.loops ..) | .call (.search ..) => true
  | _ => false

variable {step : ChainStep}

theorem plain_of_not_declares (hplain : step.declaresLoops = false) :
    step.namesLoop = true ∧ step.isTraversal = false ∧
      step.isSearch = false := by
  cases step with
  | call request =>
      cases request with
      | loop | source | join | graph | loops | search => cases hplain
      | _ => exact ⟨rfl, rfl, rfl⟩
  | _ => exact ⟨rfl, rfl, rfl⟩

theorem given?_of_not_declares (look : Nat → Query)
    (hplain : step.declaresLoops = false) : step.given? look = none := by
  cases step with
  | call request =>
      cases request with
      | loop | source | join | graph | loops | search => cases hplain
      | _ => rfl
  | _ => rfl

theorem opened?_of_not_declares (hplain : step.declaresLoops = false) :
    step.opened? = none := by
  cases step with
  | call request =>
      cases request with
      | loop | source | join | graph | loops | search => cases hplain
      | _ => rfl
  | _ => rfl

end ChainStep

theorem LoopState.after_of_not_declares {step : ChainStep}
    (look : Nat → Query) (hplain : step.declaresLoops = false)
    (state : LoopState) : state.after look step = state := by
  rw [after_of_none (step.opened?_of_not_declares hplain),
    step.given?_of_not_declares look hplain]
  rfl

theorem LoopState.foldl_filter (look : Nat → Query) (steps : List ChainStep)
    (state : LoopState) :
    (steps.filter ChainStep.declaresLoops).foldl (after look) state =
      steps.foldl (after look) state := by
  rw [List.foldl_filter]
  apply congrArg (fun change => steps.foldl change state)
  funext state step
  cases hdeclares : step.declaresLoops with
  | false => exact (after_of_not_declares look hdeclares state).symm
  | true => rfl

section Lines

variable {look : Nat → Query}

/-- What is given last does not depend on what is given before. -/
theorem lastGiven_append {before own : List ChainStep}
    (hown : (lastGiven look own).isSome = true) :
    lastGiven look (before ++ own) = lastGiven look own := by
  cases hlast : (own.filterMap (ChainStep.given? look)).getLast? with
  | none => simp [lastGiven, hlast] at hown
  | some last => simp [lastGiven, List.getLast?_append, hlast]

/-- Loops with sources of their own do not depend on what is given before. -/
theorem loopsAfter_eq_openedLoops (before : List ChainStep)
    {steps : List ChainStep}
    (hsources : ∀ loop ∈ openedLoops look steps, loop.source.isSome = true) :
    loopsAfter look before steps = openedLoops look steps := by
  induction steps generalizing before with
  | nil => rfl
  | cons step rest hrest =>
      rw [loopsAfter]
      rw [openedLoops] at hsources ⊢
      cases hopened : step.opened? with
      | none =>
          rw [hopened] at hsources
          exact hrest _ hsources
      | some name =>
          rw [hopened] at hsources
          simp only [lastGiven_append (hsources _ List.mem_cons_self)]

theorem lastGiven_of_none {before steps : List ChainStep}
    (hgiven : ∀ step ∈ steps, step.given? look = none) :
    lastGiven look (before ++ steps) = lastGiven look before := by
  rw [lastGiven, List.filterMap_append, List.filterMap_eq_nil_iff.2 hgiven,
    List.append_nil, lastGiven]

theorem ownSteps_of_openedLoops {steps : List ChainStep}
    (hopened : openedLoops look steps = []) : ownSteps steps = steps := by
  induction steps with
  | nil => rfl
  | cons step rest hrest =>
      rw [openedLoops] at hopened
      cases hstep : step.opened? with
      | none =>
          rw [hstep] at hopened
          rw [ownSteps_cons_of_none hstep, hrest hopened]
      | some name => rw [hstep] at hopened; cases hopened

/-- The lines of a traversal and of the loops nested in it, as they are declared. -/
def traversalLines (names : LoopNames)
    (traversal : Option (Slot (Source Expr))) (nested : List DeclaredLoop) :
    List Template :=
  Query.loopTemplate (", ".intercalate names.names) traversal ::
    nested.map fun loop => Query.loopTemplate loop.loop loop.source

/-- The lines that are written: the first of the nested loops has lost its name,
and the traversal its graph. -/
def overwrittenLines (names : LoopNames)
    (traversal : Option (Slot (Source Expr))) :
    List DeclaredLoop → List Template
  | [] => traversalLines names traversal []
  | first :: nested => traversalLines names first.source nested

end Lines

namespace Builder

variable {look : Nat → Query} {builder after : Builder}

/-- Steps that have nothing to do with loops. -/
theorem loops_of_plain_chain {steps : List ChainStep}
    (hplain : ∀ step ∈ steps, ¬ step.declaresLoops = true)
    (hrun : runChain look builder steps = some after) :
    after.loopState = builder.loopState ∧
      after.record.loopNames = builder.record.loopNames := by
  apply runChain_keeps (motive := fun between =>
    between.loopState = builder.loopState ∧
      between.record.loopNames = builder.record.loopNames) _ hrun ⟨rfl, rfl⟩
  rintro step hstep between next ⟨hloops, hloopNames⟩ hnext
  have hother := Bool.eq_false_of_not_eq_true (hplain step hstep)
  obtain ⟨hnames, htraversal, hsearch⟩ := step.plain_of_not_declares hother
  constructor
  · rw [loopState_of_step hnames (.inl hsearch) hnext,
      LoopState.after_of_not_declares look hother, hloops]
  · refine (loopNames_of_step ?_ hnext).trans hloopNames
    rintro vertex edge path rfl
    cases htraversal

theorem exists_of_loops {vertex edge path : Operand Nat}
    (hloops : (ChainStep.call (.loops vertex edge path)).perform look builder =
      some after) :
    ∃ names, traversalNames vertex edge path = .ok names ∧
      after.record.loopNames = some names ∧
      after.loopState = builder.loopState := by
  obtain ⟨record, hrecord, rfl⟩ := of_success?_onRecord hloops
  rw [nameLoops_eq] at hrecord
  cases hnames : traversalNames vertex edge path with
  | error error => rw [hnames] at hrecord; cases hrecord
  | ok names =>
      rw [hnames] at hrecord
      obtain rfl := Except.ok.inj hrecord
      exact ⟨names, rfl, rfl, rfl⟩

section Traversal

variable {start : Builder} {steps rest : List ChainStep}
variable {vertex edge path : Operand Nat}
variable {graph direction origin minDepth maxDepth options : Operand Nat}

/-- A traversal is kept as names and as a source, and the loops after it are opened
and given their sources as if no loop had been opened before. -/
theorem loops_of_traversal_chain
    (hrun : runChain look start steps = some builder)
    (hloops : steps.filter ChainStep.declaresLoops =
      .call (.loops vertex edge path) ::
        .call (.graph graph direction origin minDepth maxDepth options) :: rest)
    (hstart : start.loopState = { main := none, source := none })
    (hnames : ∀ step ∈ rest, step.namesLoop = true)
    (htraversal : ∀ step ∈ rest, step.isTraversal = false)
    (hgiven : ∀ step ∈ rest, (step.given? look).all Option.isSome = true) :
    ∃ names traversal, traversalNames vertex edge path = .ok names ∧
      graphSource look graph direction origin minDepth maxDepth options =
        .ok traversal ∧
      builder.record.loopNames = some names ∧
      builder.loopState = rest.foldl (LoopState.after look)
        { main := none, source := some (.proper (.graph traversal)) } := by
  obtain ⟨before, tail, rfl, hbefore, -, htail⟩ :=
    List.filter_eq_cons_iff.1 hloops
  obtain ⟨between, final, rfl, hbetween, -, rfl⟩ :=
    List.filter_eq_cons_iff.1 htail
  have hfinal {holds : ChainStep → Prop}
      (hother : ∀ step : ChainStep, step.declaresLoops = false → holds step)
      (hrest : ∀ step ∈ final.filter ChainStep.declaresLoops, holds step) :
      ∀ step ∈ final, holds step := by
    intro step hstep
    cases hdeclares : step.declaresLoops with
    | false => exact hother step hdeclares
    | true => exact hrest step (List.mem_filter.2 ⟨hstep, hdeclares⟩)
  rw [runChain_append] at hrun
  obtain ⟨first, hfirst, hrun⟩ := Option.bind_eq_some_iff.1 hrun
  obtain ⟨named, hnamed, hrun⟩ := Option.bind_eq_some_iff.1 hrun
  rw [runChain_append] at hrun
  obtain ⟨second, hsecond, hrun⟩ := Option.bind_eq_some_iff.1 hrun
  obtain ⟨traversed, htraversed, hrun⟩ := Option.bind_eq_some_iff.1 hrun
  obtain ⟨names, hloopNames, hnamedNames, hnamedLoops⟩ := exists_of_loops hnamed
  obtain ⟨hfirstLoops, -⟩ := loops_of_plain_chain hbefore hfirst
  obtain ⟨hsecondLoops, hsecondNames⟩ := loops_of_plain_chain hbetween hsecond
  obtain ⟨traversal, hsource, rfl⟩ := exists_of_graph htraversed
  refine ⟨names, traversal, hloopNames, hsource, ?_, ?_⟩
  · have hfinalTraversal := hfinal
      (fun step hother => (step.plain_of_not_declares hother).2.1) htraversal
    calc builder.record.loopNames
        = (second.setSource
            (some (.proper (.graph traversal)))).record.loopNames :=
          loopNames_of_runChain hfinalTraversal hrun
      _ = second.record.loopNames :=
          loopNames_of_step (by rintro _ _ _ ⟨⟩) htraversed
      _ = some names := hsecondNames.trans hnamedNames
  · have hsecondState : second.loopState = { main := none, source := none } := by
      rw [hsecondLoops, hnamedLoops, hfirstLoops, hstart]
    have htraversedState :
        (second.setSource (some (.proper (.graph traversal)))).loopState =
          { main := none, source := some (.proper (.graph traversal)) } := by
      rw [loopState_setSource, hsecondState]
      rfl
    have htraversedSource : (second.setSource
        (some (.proper (.graph traversal)))).record.source.isSome = true :=
      congrArg (fun state => state.source.isSome) htraversedState
    have hfinalNames := hfinal
      (fun step hother => (step.plain_of_not_declares hother).1) hnames
    have hfinalGiven :
        ∀ step ∈ final, (step.given? look).all Option.isSome = true := by
      refine hfinal (fun step hother => ?_) hgiven
      rw [step.given?_of_not_declares look hother]
      rfl
    rw [loopState_of_runChain hfinalNames
      (.inr ⟨htraversedSource, hfinalGiven⟩) hrun, htraversedState,
      LoopState.foldl_filter]

/-- What is written of a traversal and of the loops nested in it. -/
theorem linesOf_traversal {names : LoopNames} {traversal : GraphSource Expr}
    (hsource : graphSource look graph direction origin minDepth maxDepth
      options = .ok traversal)
    (hloopNames : builder.record.loopNames = some names)
    (hfold : builder.loopState = rest.foldl (LoopState.after look)
      { main := none, source := some (.proper (.graph traversal)) })
    (hnames : ∀ step ∈ rest, step.namesLoop = true)
    (hown : ∀ step ∈ ownSteps rest, step.given? look = none)
    (hsources : ∀ loop ∈ openedLoops look rest, loop.source.isSome = true)
    (hfaults : builder.record.faults = []) :
    builder.record.lineTemplates.linesOf .loop ++
        builder.record.lineTemplates.linesOf .nestedLoop =
      overwrittenLines names (some (.proper (.graph traversal)))
        (openedLoops look rest) := by
  let graphStep : ChainStep :=
    .call (.graph graph direction origin minDepth maxDepth options)
  have hgraph : lastGiven look [graphStep] =
      some (.proper (.graph traversal)) := by
    simp [graphStep, lastGiven, ChainStep.given?, hsource, Except.toOption]
  obtain ⟨hmain, hnested⟩ := Query.sources_of_faults hfaults
  rw [Query.linesOf_nestedLoop hnested,
    Query.linesOf_loop (hmain (.inl (hloopNames ▸ rfl))), hloopNames]
  rw [← hgraph] at hfold
  have habsent : Slot.isPresentText none = false := rfl
  obtain ⟨hopened, hstate⟩ |
      ⟨first, nested, openJoin, hopened, -, hstate⟩ :=
    LoopState.foldl_of_no_main habsent [graphStep] rest hnames
  · rw [loopsAfter_eq_openedLoops [graphStep] hsources] at hopened
    rw [ownSteps_of_openedLoops hopened] at hown
    rw [hstate, lastGiven_of_none hown, hgraph] at hfold
    have hjoins : members builder.record.joins = [] :=
      congrArg LoopState.nested hfold
    have hmainSource :
        builder.record.source = some (.proper (.graph traversal)) :=
      congrArg LoopState.source hfold
    rw [hopened, hjoins, hmainSource]
    rfl
  · rw [loopsAfter_eq_openedLoops [graphStep] hsources] at hopened
    rw [hstate] at hfold
    have hjoins : members builder.record.joins = nested :=
      congrArg LoopState.nested hfold
    have hmainSource : builder.record.source = first.source :=
      congrArg LoopState.source hfold
    rw [hopened, hjoins, hmainSource]
    rfl

/-- The lines of a query with a traversal and loops nested in it.  They are the
declared ones if and only if there is no nested loop.  All other calls may stand
anywhere in the chain. -/
theorem traversal_kept_iff {initial : Operand Nat} {compiled : CompiledQuery}
    (hstart : ofInitial look initial = .ok start)
    (hrun : runChain look start steps = some builder)
    (hloops : steps.filter ChainStep.declaresLoops =
      .call (.loops vertex edge path) ::
        .call (.graph graph direction origin minDepth maxDepth options) :: rest)
    (hnames : ∀ step ∈ rest, step.namesLoop = true)
    (htraversal : ∀ step ∈ rest, step.isTraversal = false)
    (hgiven : ∀ step ∈ rest, (step.given? look).all Option.isSome = true)
    (hown : ∀ step ∈ ownSteps rest, step.given? look = none)
    (hsources : ∀ loop ∈ openedLoops look rest, loop.source.isSome = true)
    (hcompile : builder.record.compile = .ok compiled) :
    ∃ names traversal, traversalNames vertex edge path = .ok names ∧
      graphSource look graph direction origin minDepth maxDepth options =
        .ok traversal ∧
      (∃ linesOf, builder.record.WritesLoops compiled
        (overwrittenLines names (some (.proper (.graph traversal)))
          (openedLoops look rest)) linesOf) ∧
      ((∃ linesOf, builder.record.WritesLoops compiled
          (traversalLines names (some (.proper (.graph traversal)))
            (openedLoops look rest)) linesOf) ↔
        openedLoops look rest = []) := by
  obtain ⟨hstate, hraw, -⟩ := of_ofInitial hstart
  have hraw := raw_of_runChain hrun hraw
  obtain ⟨names, traversal, hnamed, hsource, hloopNames, hfold⟩ :=
    loops_of_traversal_chain hrun hloops hstate hnames htraversal hgiven
  have hlines := linesOf_traversal hsource hloopNames hfold hnames hown
    hsources (Query.faults_of_compile hraw hcompile)
  have hwritten := Query.exists_writesLoops hraw hcompile
  rw [hlines] at hwritten
  refine ⟨names, traversal, hnamed, hsource, hwritten, ?_⟩
  constructor
  · rintro ⟨linesOf, hwrites⟩
    have hlength := hwrites.length_loops
    rw [← List.length_append, hlines] at hlength
    cases hopened : openedLoops look rest with
    | nil => rfl
    | cons first nested =>
        rw [hopened] at hlength
        simp [traversalLines, overwrittenLines] at hlength
  · intro hopened
    rw [hopened] at hwritten ⊢
    exact hwritten

end Traversal

section Example

/-- A loop over `posts` nested in a traversal. -/
def postsLoop : List ChainStep :=
  [.call (.loop (.text "x")), .call (.source (.text "posts"))]

def postsTraversal : List ChainStep :=
  .call (.useCollections [.text "users"]) ::
    .call (.loops (.text "v") (.text "e") (.text "p")) ::
    .call (.graph (.text "social") (.text "OUTBOUND") (.text "users/1")
      (.scalar (.int 1)) .null .null) ::
    .call (.result (.built (.reference "x")) (.scalar (.bool false))) ::
    postsLoop

theorem postsTraversal_written :
    ∃ builder compiled names traversal,
      runChain (fun _ => {}) {} postsTraversal = some builder ∧
        builder.record.compile = .ok compiled ∧
        compiled.text = "WITH users\nFOR v, e, p IN posts\nRETURN x" ∧
        (∃ linesOf, builder.record.WritesLoops compiled
          (overwrittenLines names (some (.proper (.graph traversal)))
            (openedLoops (fun _ => {}) postsLoop)) linesOf) ∧
        ¬ ∃ linesOf, builder.record.WritesLoops compiled
          (traversalLines names (some (.proper (.graph traversal)))
            (openedLoops (fun _ => {}) postsLoop)) linesOf := by
  have hstart : ofInitial (fun _ => {}) (.null : Operand Nat) = .ok {} := rfl
  obtain ⟨builder, hrun⟩ : ∃ builder,
      runChain (fun _ => {}) {} postsTraversal = some builder := ⟨_, rfl⟩
  obtain rfl := Option.some.inj hrun
  have hloops : postsTraversal.filter ChainStep.declaresLoops =
      .call (.loops (.text "v") (.text "e") (.text "p")) ::
        .call (.graph (.text "social") (.text "OUTBOUND") (.text "users/1")
          (.scalar (.int 1)) .null .null) :: postsLoop := rfl
  obtain ⟨names, traversal, -, -, hwritten, hkept⟩ :=
    traversal_kept_iff hstart hrun hloops (by decide) (by decide) (by decide)
      (by decide) (by decide) rfl
  refine ⟨_, _, names, traversal, hrun, rfl, rfl, hwritten, fun hdeclared => ?_⟩
  exact absurd (hkept.1 hdeclared) (List.cons_ne_nil _ _)

/-- A query does not always have a line for each of the declared loops. -/
theorem traversal_not_always_kept :
    ¬ ∀ (builder : Builder) (compiled : CompiledQuery)
      (steps rest : List ChainStep)
      (vertex edge path : Operand Nat)
      (graph direction origin minDepth maxDepth options : Operand Nat)
      (names : LoopNames) (traversal : GraphSource Expr),
      runChain (fun _ => {}) {} steps = some builder →
      steps.filter ChainStep.declaresLoops =
        .call (.loops vertex edge path) ::
          .call (.graph graph direction origin minDepth maxDepth options) ::
            rest →
      (∀ step ∈ rest, step.namesLoop = true ∧ step.isTraversal = false ∧
        (step.given? fun _ => {}).all Option.isSome = true) →
      (∀ step ∈ ownSteps rest, (step.given? fun _ => {}) = none) →
      (∀ loop ∈ openedLoops (fun _ => {}) rest, loop.source.isSome = true) →
      traversalNames vertex edge path = .ok names →
      graphSource (fun _ => {}) graph direction origin minDepth maxDepth
        options = .ok traversal →
      builder.record.compile = .ok compiled →
      ∃ linesOf, builder.record.WritesLoops compiled
        (traversalLines names (some (.proper (.graph traversal)))
          (openedLoops (fun _ => {}) rest)) linesOf := by
  intro hkept
  obtain ⟨linesOf, hwrites⟩ := hkept _ _ postsTraversal postsLoop (.text "v")
    (.text "e") (.text "p") (.text "social") (.text "OUTBOUND")
    (.text "users/1") (.scalar (.int 1)) .null .null _ _ rfl rfl (by decide)
    (by decide) (by decide) rfl rfl rfl
  cases hwrites.length_loops

end Example

end Builder

end ArangoQuery
