import ArangoQuery.Proofs.LoopLines
import ArangoQuery.Proofs.Successes

/-!
# Loops and their sources

The loops of a query are declared in calls that may stand anywhere in a chain.  A
loop iterates the last source that is given before the next loop is opened, and
the first loop also one that is given before it (`declaredLoops`).  A builder
keeps track of that in four of its fields, its `LoopState`.  A step changes them
by the loop that it opens and the source that it gives, and every other call
leaves them alone; so the lines of the loops are the declared ones, in order
(`Builder.loops_written_in_order`).
-/

namespace ArangoQuery

open Record (members)
open Template (FillsEach)

/-- A loop and what it iterates, as the loops nested in the main one are
recorded. -/
abbrev DeclaredLoop := Join Expr

namespace Builder

/-- The traversal that a call asks for. -/
def graphSource (look : Nat → Query)
    (graph directionWord vertex minDepth maxDepth options : Operand Nat) :
    Except Error (GraphSource Expr) := do
  let direction ← direction directionWord
  let vertex ← startVertex vertex
  let options ← options.toOptions look
  ((fun graph startVertex minDepth maxDepth =>
      { graph, direction, startVertex, minDepth, maxDepth, options }) <$>
    Check.text graph.raw <*> Check.text vertex <*> Check.int minDepth.raw <*>
    Check.nullable Check.int maxDepth.raw).orInvalid "GraphSource"

theorem iterateGraph_eq (look : Nat → Query) (builder : Builder)
    (graph directionWord vertex minDepth maxDepth options : Operand Nat) :
    iterateGraph look builder graph directionWord vertex minDepth maxDepth
        options =
      (graphSource look graph directionWord vertex minDepth maxDepth
        options).map fun traversal =>
          builder.setSource (some (.proper (.graph traversal))) := by
  rw [iterateGraph, graphSource]
  cases direction directionWord with
  | error error => rfl
  | ok direction =>
      cases startVertex vertex with
      | error error => rfl
      | ok vertex => cases options.toOptions look <;> rfl

end Builder

namespace ChainStep

/-- The name of a variable, if an operand is one. -/
def nameOf? (operand : Operand Nat) : Option String :=
  match operand.toVariable with
  | .ok (.text name) => some name
  | _ => none

/-- The name of the loop that a step opens. -/
def opened? : ChainStep → Option String
  | .call (.loop variableName) => nameOf? variableName
  | .call (.join _ variableName) => nameOf? variableName
  | _ => none

/-- The source that a step gives to a loop. -/
def given? (look : Nat → Query) :
    ChainStep → Option (Option (Slot (Source Expr)))
  | .call (.source source) =>
      (Builder.sourceValue source).toOption.map Slot.source?
  | .call (.join collection _) =>
      (Builder.sourceValue collection).toOption.map Slot.source?
  | .call (.graph graph direction vertex minDepth maxDepth options) =>
      (Builder.graphSource look graph direction vertex minDepth maxDepth
        options).toOption.map fun traversal =>
          some (.proper (.graph traversal))
  | _ => none

/-- Has the loop that a step opens, if it opens one, a name? -/
def namesLoop : ChainStep → Bool
  | .call (.loop variableName) => (nameOf? variableName).any (· != "")
  | .call (.join _ variableName) => (nameOf? variableName).any (· != "")
  | _ => true

def isTraversal : ChainStep → Bool
  | .call (.loops ..) => true
  | _ => false

def isSearch : ChainStep → Bool
  | .call (.search ..) => true
  | _ => false

end ChainStep

theorem ChainStep.isPresentText_of_namesLoop {step : ChainStep} {name : String}
    (hnames : step.namesLoop = true) (hopened : step.opened? = some name) :
    Slot.isPresentText (some (.proper name)) = true := by
  unfold ChainStep.opened? at hopened
  split at hopened
  · rwa [ChainStep.namesLoop, hopened] at hnames
  · rwa [ChainStep.namesLoop, hopened] at hnames
  · cases hopened

theorem ChainStep.toVariable_of_nameOf? {operand : Operand Nat} {name : String}
    (hname : nameOf? operand = some name) :
    operand.toVariable = .ok (.text name) := by
  unfold nameOf? at hname
  split at hname
  · rename_i given hgiven
    rw [hgiven, Option.some.inj hname]
  · cases hname

/-! ## Loops by the calls that declare them -/

section Declared

variable (look : Nat → Query)

/-- The steps before the next loop is opened. -/
def ownSteps (steps : List ChainStep) : List ChainStep :=
  steps.takeWhile (·.opened?.isNone)

/-- The source that is given last. -/
def lastGiven (steps : List ChainStep) : Option (Slot (Source Expr)) :=
  (steps.filterMap (ChainStep.given? look)).getLast?.join

/-- The loops that are opened, each with the last source that is given before the
next one is. -/
def openedLoops : List ChainStep → List DeclaredLoop
  | [] => []
  | step :: rest =>
      match step.opened? with
      | some name =>
          { loop := name, source := lastGiven look (step :: ownSteps rest) } ::
            openedLoops rest
      | none => openedLoops rest

/-- The loops of a query: for the first of them, what is given before it counts
as well. -/
def loopsAfter (before : List ChainStep) : List ChainStep → List DeclaredLoop
  | [] => []
  | step :: rest =>
      match step.opened? with
      | some name =>
          { loop := name,
            source := lastGiven look (before ++ step :: ownSteps rest) } ::
            openedLoops look rest
      | none => loopsAfter (before ++ [step]) rest

variable {look}

theorem lastGiven_append_singleton (before : List ChainStep)
    (step : ChainStep) :
    lastGiven look (before ++ [step]) =
      (step.given? look).getD (lastGiven look before) := by
  rw [lastGiven, List.filterMap_append]
  cases hgiven : step.given? look with
  | none => simp [hgiven, lastGiven]
  | some source => simp [hgiven]

theorem ownSteps_cons_of_some {step : ChainStep} {name : String}
    (hopened : step.opened? = some name) (rest : List ChainStep) :
    ownSteps (step :: rest) = [] := by
  simp [ownSteps, hopened]

theorem ownSteps_cons_of_none {step : ChainStep}
    (hopened : step.opened? = none) (rest : List ChainStep) :
    ownSteps (step :: rest) = step :: ownSteps rest := by
  simp [ownSteps, hopened]

end Declared

/-! ## What a builder keeps of its loops -/

/-- The main loop, what it iterates, the nested loops and the one of them that
the next source belongs to. -/
structure LoopState where
  main : Option (Slot String)
  source : Option (Slot (Source Expr))
  nested : List DeclaredLoop := []
  openJoin : Option Nat := none

namespace LoopState

variable {look : Nat → Query} {main : Option (Slot String)}
variable {source : Option (Slot (Source Expr))}

def entered (state : LoopState) (name : String) : LoopState :=
  if Slot.isPresentText state.main then
    { state with
      nested := state.nested ++ [{ loop := name, source := none }],
      openJoin := some state.nested.length }
  else { state with main := some (.proper name) }

def given (state : LoopState) (source : Option (Slot (Source Expr))) :
    LoopState :=
  match state.openJoin with
  | some position =>
      { state with
        nested := state.nested.modify position fun loop =>
          { loop with source } }
  | none => { state with source }

/-- The loops after a step. -/
def after (look : Nat → Query) (state : LoopState) (step : ChainStep) :
    LoopState :=
  let state := step.opened?.elim state state.entered
  (step.given? look).elim state state.given

/-- The last of the nested loops is open. -/
def ofNested (main : Option (Slot String))
    (source : Option (Slot (Source Expr))) (nested : List DeclaredLoop)
    (loop : DeclaredLoop) : LoopState where
  main := main
  source := source
  nested := nested ++ [loop]
  openJoin := some nested.length

theorem given_ofNested (nested : List DeclaredLoop) (loop : DeclaredLoop)
    (last : Option (Slot (Source Expr))) :
    (ofNested main source nested loop).given last =
      ofNested main source nested { loop with source := last } := by
  simp [given, ofNested, List.modify_eq_take_cons_drop]

/-- A loop is nested as soon as there is a main loop. -/
theorem entered_ofNested (hmain : Slot.isPresentText main = true)
    (nested : List DeclaredLoop) (loop : DeclaredLoop) (name : String) :
    (ofNested main source nested loop).entered name =
      ofNested main source (nested ++ [loop])
        { loop := name, source := none } := by
  simp [entered, ofNested, hmain]

theorem entered_main (hmain : Slot.isPresentText main = true) (name : String) :
    entered { main, source } name =
      ofNested main source [] { loop := name, source := none } := by
  simp [entered, ofNested, hmain]

theorem after_of_none {step : ChainStep} (hopened : step.opened? = none)
    (state : LoopState) :
    state.after look step = (step.given? look).elim state state.given := by
  rw [after, hopened]
  rfl

theorem after_of_some {step : ChainStep} {name : String}
    (hopened : step.opened? = some name) (state : LoopState) :
    state.after look step =
      (step.given? look).elim (state.entered name)
        (state.entered name).given := by
  rw [after, hopened]
  rfl

/-- Once the main loop iterates something, it does so until it is given nothing. -/
theorem isSome_source_after {step : ChainStep}
    (hgiven : (step.given? look).all Option.isSome = true) {state : LoopState}
    (hsource : state.source.isSome = true) :
    (state.after look step).source.isSome = true := by
  have hentered (name : String) : (state.entered name).source = state.source := by
    rw [entered]
    split <;> rfl
  have hopened :
      (step.opened?.elim state state.entered).source.isSome = true := by
    cases step.opened? with
    | none => exact hsource
    | some name => exact (hentered name).symm ▸ hsource
  rw [after]
  cases hlast : step.given? look with
  | none => exact hopened
  | some last =>
      rw [hlast] at hgiven
      rw [Option.elim_some, given]
      split
      · exact hopened
      · exact hgiven

/-- What is given to the last nested loop. -/
theorem elim_given_ofNested (nested : List DeclaredLoop) (name : String)
    (before : List ChainStep) (step : ChainStep) :
    (step.given? look).elim
        (ofNested main source nested
          { loop := name, source := lastGiven look before })
        (ofNested main source nested
          { loop := name, source := lastGiven look before }).given =
      ofNested main source nested
        { loop := name, source := lastGiven look (before ++ [step]) } := by
  rw [lastGiven_append_singleton]
  cases step.given? look with
  | none => rfl
  | some last => exact given_ofNested nested _ last

/-- What is given to the main loop. -/
theorem elim_given_main (main : Option (Slot String))
    (before : List ChainStep) (step : ChainStep) :
    (step.given? look).elim { main, source := lastGiven look before }
        (given { main, source := lastGiven look before }) =
      { main, source := lastGiven look (before ++ [step]) } := by
  rw [lastGiven_append_singleton]
  cases step.given? look <;> rfl

/-- With a nested loop open, the steps give it its source and open the loops that
follow. -/
theorem foldl_ofNested (hmain : Slot.isPresentText main = true)
    (nested : List DeclaredLoop) (name : String)
    (before steps : List ChainStep) :
    ∃ openJoin, steps.foldl (after look)
        (ofNested main source nested
          { loop := name, source := lastGiven look before }) =
      { main, source, openJoin,
        nested := nested ++
          { loop := name,
            source := lastGiven look (before ++ ownSteps steps) } ::
          openedLoops look steps } := by
  induction steps generalizing nested name before with
  | nil =>
      refine ⟨some nested.length, ?_⟩
      simp [ofNested, ownSteps, openedLoops]
  | cons step rest hrest =>
      rw [List.foldl_cons]
      cases hopened : step.opened? with
      | none =>
          rw [after_of_none hopened, elim_given_ofNested,
            ownSteps_cons_of_none hopened, openedLoops, hopened]
          simpa using hrest nested name (before ++ [step])
      | some next =>
          have hnext : lastGiven look [] = none := rfl
          rw [after_of_some hopened, entered_ofNested hmain, ← hnext,
            elim_given_ofNested, ownSteps_cons_of_some hopened, openedLoops,
            hopened]
          obtain ⟨openJoin, hfold⟩ := hrest (nested ++
            [{ loop := name, source := lastGiven look before }]) next [step]
          exact ⟨openJoin, hfold.trans (by simp)⟩

/-- With the main loop open and none nested in it yet. -/
theorem foldl_main (hmain : Slot.isPresentText main = true)
    (before steps : List ChainStep) :
    ∃ openJoin, steps.foldl (after look)
        { main, source := lastGiven look before } =
      { main, openJoin,
        source := lastGiven look (before ++ ownSteps steps),
        nested := openedLoops look steps } := by
  induction steps generalizing before with
  | nil => exact ⟨none, by simp [ownSteps, openedLoops]⟩
  | cons step rest hrest =>
      rw [List.foldl_cons]
      cases hopened : step.opened? with
      | none =>
          rw [after_of_none hopened, elim_given_main,
            ownSteps_cons_of_none hopened, openedLoops, hopened]
          simpa using hrest (before ++ [step])
      | some next =>
          have hnext : lastGiven look [] = none := rfl
          rw [after_of_some hopened, entered_main hmain, ← hnext,
            elim_given_ofNested, ownSteps_cons_of_some hopened, openedLoops,
            hopened]
          simpa using foldl_ofNested hmain [] next [step] rest

/-- Before any loop is opened. -/
theorem foldl_of_no_main (hmain : Slot.isPresentText main = false)
    (before steps : List ChainStep)
    (hnames : ∀ step ∈ steps, step.namesLoop = true) :
    (loopsAfter look before steps = [] ∧
        steps.foldl (after look) { main, source := lastGiven look before } =
          { main, source := lastGiven look (before ++ steps) }) ∨
      ∃ first nested openJoin, loopsAfter look before steps = first :: nested ∧
        Slot.isPresentText (some (.proper first.loop)) = true ∧
        steps.foldl (after look) { main, source := lastGiven look before } =
          { main := some (.proper first.loop), source := first.source, nested,
            openJoin } := by
  induction steps generalizing before with
  | nil => exact .inl ⟨rfl, by simp⟩
  | cons step rest hrest =>
      obtain ⟨hname, hnames⟩ := List.forall_mem_cons.1 hnames
      rw [List.foldl_cons, loopsAfter]
      cases hopened : step.opened? with
      | none =>
          rw [after_of_none hopened, elim_given_main]
          simpa using hrest (before ++ [step]) hnames
      | some name =>
          have hpresent : Slot.isPresentText (some (.proper name)) = true :=
            step.isPresentText_of_namesLoop hname hopened
          have hentered : entered { main, source := lastGiven look before } name =
              { main := some (.proper name),
                source := lastGiven look before } := by
            simp [entered, hmain]
          obtain ⟨openJoin, hfold⟩ :=
            foldl_main hpresent (before ++ [step]) rest
          refine .inr ⟨_, _, openJoin, rfl, hpresent, ?_⟩
          rw [after_of_some hopened, hentered, elim_given_main]
          simpa using hfold

end LoopState

/-! ## The loops after a chain -/

namespace Builder

def loopState (builder : Builder) : LoopState where
  main := builder.record.loop
  source := builder.record.source
  nested := members builder.record.joins
  openJoin := builder.openJoin

variable {look : Nat → Query} {builder after : Builder}

theorem loopState_setSource (builder : Builder)
    (source : Option (Slot (Source Expr))) :
    (builder.setSource source).loopState = builder.loopState.given source := by
  obtain ⟨record, openJoin⟩ := builder
  cases openJoin with
  | none => rfl
  | some position =>
      have hjoins (family : Option (List (Join Expr)))
          (change : Join Expr → Join Expr) :
          members (family.map fun joins => joins.modify position change) =
            (members family).modify position change := by
        cases family with
        | none => simp [members]
        | some joins => rfl
      simp [setSource, loopState, LoopState.given, hjoins]

theorem loopState_of_openLoop {variableName : Operand Nat} {name : String}
    (hname : ChainStep.nameOf? variableName = some name)
    (hopen : builder.openLoop variableName = .ok after) :
    after.loopState = builder.loopState.entered name := by
  have hvariable := ChainStep.toVariable_of_nameOf? hname
  obtain ⟨given, hgiven, hopen⟩ := exists_of_openLoop hopen
  obtain rfl := Except.ok.inj (hvariable.symm.trans hgiven)
  obtain ⟨hloop, loop, htext, rfl⟩ | ⟨hloop, rfl⟩ := hopen
  · obtain rfl : name = loop := by simpa using htext
    simp [loopState, LoopState.entered, hloop, Record.append, members]
  · simp [loopState, LoopState.entered, hloop]
    rfl

theorem loopState_of_iterate {source : Operand Nat}
    (hiterate : builder.iterate source = .ok after) :
    ∃ value, sourceValue source = .ok value ∧
      after.loopState = builder.loopState.given (Slot.source? value) := by
  obtain ⟨value, collection, hvalue, rfl⟩ := exists_of_iterate hiterate
  exact ⟨value, hvalue, loopState_setSource _ _⟩

theorem exists_of_graph
    {graph direction vertex minDepth maxDepth options : Operand Nat}
    (hgraph : (ChainStep.call (.graph graph direction vertex minDepth maxDepth
      options)).perform look builder = some after) :
    ∃ traversal, graphSource look graph direction vertex minDepth maxDepth
        options = .ok traversal ∧
      after = builder.setSource (some (.proper (.graph traversal))) := by
  have hiterate := of_success?_attempt hgraph
  rw [iterateGraph_eq] at hiterate
  cases hsource : graphSource look graph direction vertex minDepth maxDepth
      options with
  | error error => rw [hsource] at hiterate; cases hiterate
  | ok traversal =>
      rw [hsource] at hiterate
      exact ⟨traversal, rfl, (Except.ok.inj hiterate).symm⟩

theorem loopState_of_updateWith {document updates collection : Operand Nat}
    {oldReference : Bool} {record : Query}
    (hupdate : updateWith look builder.record document updates collection
      oldReference = .ok record) :
    loopState { builder with record } = builder.loopState := by
  rw [updateWith_eq] at hupdate
  obtain ⟨addition, haddition, rfl⟩ := exists_of_map_eq_ok hupdate
  obtain ⟨update, -, rfl⟩ := exists_of_map_eq_ok haddition
  rfl

/-- A search changes at most the source of the main loop, and only if that has
none. -/
theorem loopState_of_search {view : Operand Nat}
    {conditions : List (Operand Nat)} {options : Operand Nat}
    (hafter : (builder.perform (fun _ => look)
      (.search view conditions options)).success? = some after) :
    after.loopState =
        { builder.loopState with source := after.record.source } ∧
      (builder.record.source.isSome = true →
        after.record.source = builder.record.source) := by
  obtain ⟨claimed, clause, hclaim, -, rfl⟩ := exists_of_search hafter
  obtain ⟨habsent, rfl⟩ | ⟨-, rfl⟩ := of_claimView hclaim
  · refine ⟨rfl, fun hsource => ?_⟩
    rw [habsent] at hsource
    cases hsource
  · exact ⟨rfl, fun _ => rfl⟩

/-- Calls of other families leave the loops alone. -/
theorem loopState_of_not_mem {step : ChainStep}
    (hloops : (Family.ofStep step).contains .loops = false)
    (hstep : step.perform look builder = some after) :
    after.loopState = builder.loopState := by
  have hview : Family.view .loops after = Family.view .loops builder :=
    (Family.respects_step look step).of_not_mem hloops hstep
  calc after.loopState
      = (Family.view .loops after).loopState := rfl
    _ = (Family.view .loops builder).loopState := congrArg loopState hview
    _ = builder.loopState := rfl

/-- What a step that succeeds makes of the loops.  A search could still claim the
source of the main loop if that has none. -/
theorem loopState_of_step {step : ChainStep} (hnames : step.namesLoop = true)
    (hsearch : step.isSearch = false ∨ builder.record.source.isSome = true)
    (hstep : step.perform look builder = some after) :
    after.loopState = builder.loopState.after look step := by
  cases step with
  | pruneWith condition => exact loopState_of_not_mem rfl hstep
  | finish stage request =>
      apply loopState_of_not_mem _ hstep
      cases stage <;> cases request <;> rfl
  | call request =>
      cases request with
      | loop variableName =>
          obtain ⟨name, hname, -⟩ := (Option.any_eq_true _ _).1 hnames
          have hopened : (ChainStep.call (.loop variableName)).opened? =
              some name := hname
          have hopen := of_success?_attempt hstep
          rw [LoopState.after_of_some hopened]
          exact loopState_of_openLoop hname hopen
      | source source =>
          obtain ⟨value, hvalue, hloops⟩ :=
            loopState_of_iterate (of_success?_attempt hstep)
          have hgiven : (ChainStep.call (.source source)).given? look =
              some (Slot.source? value) := by
            rw [ChainStep.given?, hvalue]
            rfl
          rw [LoopState.after_of_none rfl, hgiven]
          exact hloops
      | join collection variableName =>
          obtain ⟨name, hname, -⟩ := (Option.any_eq_true _ _).1 hnames
          have hopened :
              (ChainStep.call (.join collection variableName)).opened? =
                some name := hname
          obtain ⟨opened, hopen, hiterate⟩ := of_success?_andThen hstep
          obtain ⟨value, hvalue, hloops⟩ :=
            loopState_of_iterate (of_success?_attempt hiterate)
          have hgiven :
              (ChainStep.call (.join collection variableName)).given? look =
                some (Slot.source? value) := by
            rw [ChainStep.given?, hvalue]
            rfl
          rw [LoopState.after_of_some hopened, hgiven, hloops,
            loopState_of_openLoop hname (of_success?_attempt hopen)]
          rfl
      | graph graph direction vertex minDepth maxDepth options =>
          obtain ⟨traversal, hsource, rfl⟩ := exists_of_graph hstep
          rw [LoopState.after_of_none rfl, ChainStep.given?, hsource]
          exact loopState_setSource builder _
      | updateWith document updates collection oldReference =>
          obtain ⟨record, hupdate, rfl⟩ := of_success?_onRecord hstep
          exact loopState_of_updateWith hupdate
      | search view conditions options =>
          obtain hsearch | hsource := hsearch
          · cases hsearch
          · obtain ⟨hstate, hkept⟩ := loopState_of_search hstep
            rw [hstate, hkept hsource]
            rfl
      | _ => exact loopState_of_not_mem rfl hstep

/-- The loops after a chain.  It searches nothing, or the main loop has a source
all the time. -/
theorem loopState_of_runChain {steps : List ChainStep}
    (hnames : ∀ step ∈ steps, step.namesLoop = true)
    (hsearch : (∀ step ∈ steps, step.isSearch = false) ∨
      builder.record.source.isSome = true ∧
        ∀ step ∈ steps, (step.given? look).all Option.isSome = true)
    (hrun : runChain look builder steps = some after) :
    after.loopState = steps.foldl (LoopState.after look) builder.loopState := by
  induction steps generalizing builder with
  | nil =>
      obtain rfl := Option.some.inj hrun
      rfl
  | cons step rest hrest =>
      obtain ⟨hname, hnames⟩ := List.forall_mem_cons.1 hnames
      obtain ⟨between, hstep, hrun⟩ := Option.bind_eq_some_iff.1 hrun
      have hbetween : between.loopState = builder.loopState.after look step :=
        loopState_of_step hname
          (hsearch.imp (fun hplain => hplain step List.mem_cons_self)
            fun hsource => hsource.1) hstep
      rw [List.foldl_cons, ← hbetween]
      apply hrest hnames _ hrun
      refine hsearch.imp (fun hplain => (List.forall_mem_cons.1 hplain).2) ?_
      rintro ⟨hsource, hgiven⟩
      obtain ⟨hfirst, hgiven⟩ := List.forall_mem_cons.1 hgiven
      have hkept : (builder.loopState.after look step).source.isSome = true :=
        LoopState.isSome_source_after hfirst hsource
      rw [← hbetween] at hkept
      exact ⟨hkept, hgiven⟩

theorem of_ofInitial {initial : Operand Nat}
    (hinitial : ofInitial look initial = .ok builder) :
    builder.loopState = { main := none, source := none } ∧
      builder.record.raw = none ∧ builder.record.loopNames = none := by
  obtain ⟨collection, rfl⟩ | ⟨result, -, rfl⟩ := exists_of_ofInitial hinitial
  · exact ⟨rfl, rfl, rfl⟩
  · exact ⟨rfl, rfl, rfl⟩

theorem raw_of_runChain {start : Builder} {steps : List ChainStep}
    (hrun : runChain look start steps = some builder)
    (hraw : start.record.raw = none) : builder.record.raw = none :=
  runChain_keeps (motive := fun builder => builder.record.raw = none)
    (fun _ _ _ _ hraw hstep => (raw_of_step hstep).trans hraw) hrun hraw

theorem loopNames_of_runChain {start : Builder} {steps : List ChainStep}
    (htraversal : ∀ step ∈ steps, step.isTraversal = false)
    (hrun : runChain look start steps = some builder) :
    builder.record.loopNames = start.record.loopNames := by
  apply runChain_keeps (motive := fun builder =>
    builder.record.loopNames = start.record.loopNames) _ hrun rfl
  intro step hstep between after hbetween hafter
  refine (loopNames_of_step ?_ hafter).trans hbetween
  rintro vertex edge path rfl
  cases htraversal _ hstep

end Builder

section Example

end Example

end ArangoQuery
