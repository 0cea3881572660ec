import ArangoQuery.Proofs.DeclaredLoops
import ArangoQuery.Proofs.FailedCalls
import ArangoQuery.Proofs.TypedCalls

/-!
# Builders restored from snapshots

A snapshot shows the record of a builder, but not which of the nested loops waits
for its source.  A builder that is restored from it has the same record, and what
it is given as a source goes to the main loop.  So the two can be told apart by
giving them a source, if and only if there is a nested loop; and no longer once
another loop has been opened (`Builder.restored_continues_iff`).
-/

namespace ArangoQuery

open Record (members)

/-! ## What is seen of a builder -/

/-- What is seen of a builder after a call: how the call failed, the snapshot, and
what the query compiles to. -/
structure Sight where
  error : Option Error
  snapshot : Option Value
  build : Except Error CompiledQuery

/-- The builder after a call on a stage that belongs to it. -/
def StageResult.outcome {ρ : Type} (builder : Builder) :
    StageResult ρ → Outcome
  | .same _ | .next _ => builder.changed
  | .parent after => after.changed
  | .failed left error => { builder := left, error := some error }

/-- A builder after a step, which may fail. -/
def ChainStep.outcome (look : Nat → Query) (builder : Builder) :
    ChainStep → Outcome
  | .call request => builder.perform (fun _ => look) request
  | .pruneWith condition =>
      match condition (Script.loopReferences builder.record) with
      | .ok operand => builder.perform (fun _ => look) (.prune operand)
      | .error error => { builder, error := some error }
  | .finish stage request =>
      (stage.perform (fun _ => look) builder request).outcome builder

theorem ChainStep.outcome_of_perform {look : Nat → Query}
    {builder after : Builder} {step : ChainStep}
    (hstep : step.perform look builder = some after) :
    step.outcome look builder = after.changed := by
  have hchanged {outcome : Outcome} (hafter : outcome.success? = some after) :
      outcome = after.changed := by
    obtain ⟨builder, error⟩ := outcome
    cases error with
    | none => exact congrArg Builder.changed (Option.some.inj hafter)
    | some error => cases hafter
  cases step with
  | call request => exact hchanged hstep
  | pruneWith condition =>
      rw [perform] at hstep
      rw [outcome]
      cases hcondition : condition (Script.loopReferences builder.record) with
      | ok operand => rw [hcondition] at hstep; exact hchanged hstep
      | error error => rw [hcondition] at hstep; cases hstep
  | finish stage request =>
      rw [perform] at hstep
      rw [outcome]
      cases hresult : stage.perform (fun _ => look) builder request with
      | parent left =>
          rw [hresult] at hstep
          exact congrArg Builder.changed (Option.some.inj hstep)
      | _ => rw [hresult] at hstep; cases hstep

namespace Outcome

def sight (outcome : Outcome) : Sight where
  error := outcome.error
  snapshot := outcome.builder.record.snapshot?
  build := outcome.builder.record.compile

/-- What is seen before the first step and after each of them. -/
def sights (look : Nat → Query) : Outcome → List ChainStep → List Sight
  | outcome, [] => [outcome.sight]
  | outcome, step :: rest =>
      outcome.sight :: (step.outcome look outcome.builder).sights look rest

/-- The same with another loop open. -/
def withOpenJoin (outcome : Outcome) (openJoin : Option Nat) : Outcome :=
  { outcome with builder := { outcome.builder with openJoin } }

theorem andThen_withOpenJoin {next : Builder → Outcome} {openJoin : Option Nat}
    (hnext : ∀ builder : Builder,
      next { builder with openJoin } = (next builder).withOpenJoin openJoin)
    (outcome : Outcome) :
    (outcome.withOpenJoin openJoin).andThen next =
      (outcome.andThen next).withOpenJoin openJoin := by
  obtain ⟨builder, error⟩ := outcome
  cases error with
  | none => exact hnext builder
  | some error => rfl

end Outcome

/-! ## Calls that do not look at which loop is open -/

/-- Does a call open a loop, or give one its source? -/
def Call.usesLoops {ρ : Type} : Call ρ → Bool
  | .loop _ | .source _ | .join .. | .graph .. => true
  | _ => false

namespace Builder

variable {ρ : Type}

theorem onRecord_withOpenJoin (builder : Builder) (openJoin : Option Nat)
    (change : Except Error Query) :
    onRecord { builder with openJoin } change =
      (builder.onRecord change).withOpenJoin openJoin := by
  cases change <;> rfl

theorem perform_withOpenJoin (look : Query → ρ → Query) (builder : Builder)
    (openJoin : Option Nat) {call : Call ρ} (hcall : call.usesLoops = false) :
    perform look { builder with openJoin } call =
      (builder.perform look call).withOpenJoin openJoin := by
  cases call with
  | useCollections | addCollect | addUpsert | limit | offset => rfl
  | search view conditions options =>
      rw [perform, perform, onRecord_withOpenJoin]
      exact Outcome.andThen_withOpenJoin
        (fun between => onRecord_withOpenJoin between openJoin _) _
  | loop | source | join | graph => cases hcall
  | _ => exact onRecord_withOpenJoin builder openJoin _

end Builder

namespace Stage

variable {ρ : Type}

theorem outcome_ofOutcome (builder : Builder) (outcome : Outcome) :
    (ofOutcome outcome : StageResult ρ).outcome builder = outcome := by
  obtain ⟨after, error⟩ := outcome
  cases error <;> rfl

theorem outcome_orFail_withOpenJoin {α : Type} {builder : Builder}
    {openJoin : Option Nat} (step : Except Error α)
    {next next' : α → StageResult ρ}
    (hnext : ∀ value,
      (next' value).outcome { builder with openJoin } =
        ((next value).outcome builder).withOpenJoin openJoin) :
    (orFail { builder with openJoin } step next').outcome
        { builder with openJoin } =
      ((orFail builder step next).outcome builder).withOpenJoin openJoin := by
  cases step with
  | error error => rfl
  | ok value => exact hnext value

theorem hand_withOpenJoin (look : Query → ρ → Query) (builder : Builder)
    (openJoin : Option Nat) (given : Except Error (Collect Expr)) :
    hand look { builder with openJoin } given =
      (hand look builder given).withOpenJoin openJoin := by
  cases given <;> rfl

theorem outcome_perform_withOpenJoin (look : Query → ρ → Query)
    (builder : Builder) (openJoin : Option Nat) (stage : Stage ρ)
    (call : StageCall ρ) :
    (stage.perform look { builder with openJoin } call).outcome
        { builder with openJoin } =
      ((stage.perform look builder call).outcome builder).withOpenJoin
        openJoin := by
  cases stage with
  | collect keys aggregates =>
      cases call with
      | aggregate function name expression =>
          exact outcome_orFail_withOpenJoin _ fun _ => rfl
      | finish | into =>
          simp only [perform, outcome_ofOutcome]
          exact hand_withOpenJoin look builder openJoin _
      | sort field direction =>
          simp only [perform, outcome_ofOutcome, hand_withOpenJoin]
          exact Outcome.andThen_withOpenJoin
            (fun between => Builder.onRecord_withOpenJoin between openJoin _) _
      | _ => rfl
  | collectKeep keys keep =>
      cases call with
      | into | aggregateAll =>
          simp only [perform, outcome_ofOutcome]
          exact hand_withOpenJoin look builder openJoin _
      | sort field direction =>
          simp only [perform, outcome_ofOutcome]
          exact Builder.onRecord_withOpenJoin builder openJoin _
      | _ => rfl
  | upsertInsert search =>
      cases call with
      | insert document => exact outcome_orFail_withOpenJoin _ fun _ => rfl
      | _ => rfl
  | upsertUpdate search insert =>
      cases call with
      | update document => exact outcome_orFail_withOpenJoin _ fun _ => rfl
      | _ => rfl
  | upsertInto search insert update =>
      cases call with
      | into collection => exact outcome_orFail_withOpenJoin _ fun _ => rfl
      | _ => rfl

end Stage

/-! ## The main loop -/

namespace ChainStep

def usesLoops : ChainStep → Bool
  | .call request => request.usesLoops
  | _ => false

/-- Does a step only give a source? -/
def givesSource : ChainStep → Bool
  | .call (.source _) | .call (.graph ..) => true
  | _ => false

end ChainStep

namespace Builder

variable {look : Nat → Query} {builder after : Builder} {step : ChainStep}

/-- The calls that have nothing to do with loops keep them. -/
theorem loopState_of_other (hother : step.usesLoops = false)
    (hstep : step.perform look builder = some after) :
    after.loopState =
      { builder.loopState with source := after.record.source } := by
  have hkept {kept : LoopState} (hstate : after.loopState = kept) :
      after.loopState = { kept with source := after.record.source } := by
    rw [← hstate]
    rfl
  cases step with
  | pruneWith condition => exact hkept (loopState_of_not_mem rfl hstep)
  | finish stage request =>
      apply hkept
      apply loopState_of_not_mem _ hstep
      cases stage <;> cases request <;> rfl
  | call request =>
      cases request with
      | loop | source | join | graph => cases hother
      | updateWith document updates collection oldReference =>
          obtain ⟨record, hupdate, rfl⟩ := of_success?_onRecord hstep
          exact hkept (loopState_of_updateWith hupdate)
      | search view conditions options => exact (loopState_of_search hstep).1
      | _ => exact hkept (loopState_of_not_mem rfl hstep)

theorem loop_of_trace? {ρ : Type} {builder left : Builder} {call : Call ρ}
    (hcall : call.usesLoops = false)
    (hleft : builder.trace? call = some left) :
    left.record.loop = builder.record.loop := by
  unfold trace? at hleft
  split at hleft
  · split at hleft
    · obtain rfl := Option.some.inj hleft
      rfl
    · cases hleft
  · cases hcall
  · cases hleft

theorem loop_of_stage_trace? {ρ : Type} {look : Query → ρ → Query}
    {builder left : Builder} {stage : Stage ρ} {call : StageCall ρ}
    (hleft : stage.trace? look builder call = some left) :
    left.record.loop = builder.record.loop := by
  unfold Stage.trace? at hleft
  split at hleft
  · obtain ⟨collect, -, rfl⟩ := Option.map_eq_some_iff.1 hleft
    rfl
  · cases hleft

theorem loop_of_getD {left : Option Builder}
    (hleft : ∀ kept, left = some kept →
      kept.record.loop = builder.record.loop) :
    (left.getD builder).record.loop = builder.record.loop := by
  cases left with
  | none => rfl
  | some kept => exact hleft kept rfl

/-- Neither do they change the name of the main loop when they fail. -/
theorem loop_of_call {call : Call Nat} (hcall : call.usesLoops = false) :
    (builder.perform (fun _ => look) call).builder.record.loop =
      builder.record.loop := by
  cases herror : (builder.perform (fun _ => look) call).error with
  | some error =>
      rw [perform_failed (fun _ => look) call herror]
      exact loop_of_getD fun kept => loop_of_trace? hcall
  | none =>
      have hother : (ChainStep.call call).usesLoops = false := hcall
      have hstep : (ChainStep.call call).perform look builder =
          some (builder.perform (fun _ => look) call).builder := by
        rw [ChainStep.perform, Outcome.success?, herror]
      exact congrArg LoopState.main (loopState_of_other hother hstep)

theorem loop_of_outcome (hother : step.usesLoops = false) :
    (step.outcome look builder).builder.record.loop = builder.record.loop := by
  cases step with
  | call request => exact loop_of_call hother
  | pruneWith condition =>
      rw [ChainStep.outcome]
      split
      · exact loop_of_call rfl
      · rfl
  | finish stage request =>
      rw [ChainStep.outcome]
      cases hresult : stage.perform (fun _ => look) builder request with
      | same | next => rfl
      | parent after =>
          have hstep : (ChainStep.finish stage request).perform look builder =
              some after := by
            rw [ChainStep.perform, hresult]
            rfl
          exact congrArg LoopState.main (loopState_of_other hother hstep)
      | failed left error =>
          change left.record.loop = builder.record.loop
          rw [Stage.perform_failed hresult]
          exact loop_of_getD fun kept => loop_of_stage_trace?

/-! ## Steps with different loops open -/

variable {name : String} {openJoin : Option Nat}

/-- With a main loop, it does not matter which loop was open before. -/
theorem attempt_openLoop_of_some {variableName : Operand Nat}
    (hloop : Slot.isPresentText builder.record.loop = true)
    (hname : ChainStep.nameOf? variableName = some name) :
    attempt { builder with openJoin }
        (openLoop { builder with openJoin } variableName) =
      builder.attempt (builder.openLoop variableName) := by
  have hvariable := ChainStep.toVariable_of_nameOf? hname
  simp only [openLoop, hvariable, hloop, if_true]
  rfl

theorem attempt_openLoop_of_none {variableName : Operand Nat}
    (hloop : Slot.isPresentText builder.record.loop = true)
    (hname : ChainStep.nameOf? variableName = none) :
    ∃ error, ∀ openJoin, attempt { builder with openJoin }
        (openLoop { builder with openJoin } variableName) =
      { builder := { builder with openJoin }, error := some error } := by
  simp only [openLoop, hloop, if_true]
  unfold ChainStep.nameOf? at hname
  split at hname
  · cases hname
  · rename_i hother
    cases hvariable : variableName.toVariable with
    | error error => exact ⟨error, fun _ => rfl⟩
    | ok value =>
        have htext : Check.text value = .rejected 1 := by
          unfold Check.text
          split
          · exact absurd hvariable (hother _)
          · rfl
        simp only [bind, Except.bind, htext]
        exact ⟨_, fun _ => rfl⟩

/-- A step that opens a loop. -/
theorem outcome_of_opened (hloop : Slot.isPresentText builder.record.loop = true)
    (hopened : step.opened? = some name) :
    step.outcome look { builder with openJoin } =
      step.outcome look builder := by
  unfold ChainStep.opened? at hopened
  split at hopened
  · exact attempt_openLoop_of_some hloop hopened
  · simp only [ChainStep.outcome, perform,
      attempt_openLoop_of_some hloop hopened]
  · cases hopened

/-- A step that neither opens a loop nor gives one its source. -/
theorem outcome_of_not_opened
    (hloop : Slot.isPresentText builder.record.loop = true)
    (hopened : step.opened? = none) (hgives : step.givesSource = false) :
    step.outcome look { builder with openJoin } =
        (step.outcome look builder).withOpenJoin openJoin ∧
      (step.outcome look builder).builder.record.loop =
        builder.record.loop := by
  cases hother : step.usesLoops with
  | false =>
      refine ⟨?_, loop_of_outcome hother⟩
      cases step with
      | call request =>
          exact perform_withOpenJoin (fun _ => look) builder openJoin hother
      | pruneWith condition =>
          simp only [ChainStep.outcome]
          split
          · exact perform_withOpenJoin (fun _ => look) builder openJoin rfl
          · rfl
      | finish stage request =>
          exact Stage.outcome_perform_withOpenJoin (fun _ => look) builder
            openJoin stage request
  | true =>
      cases step with
      | call request =>
          cases request with
          | loop variableName =>
              obtain ⟨error, hfails⟩ := attempt_openLoop_of_none hloop hopened
              simp only [ChainStep.outcome, perform, hfails openJoin,
                hfails builder.openJoin]
              exact ⟨rfl, trivial⟩
          | join collection variableName =>
              obtain ⟨error, hfails⟩ := attempt_openLoop_of_none hloop hopened
              simp only [ChainStep.outcome, perform, hfails openJoin,
                hfails builder.openJoin]
              exact ⟨rfl, rfl⟩
          | source | graph => cases hgives
          | _ => cases hother
      | _ => cases hother

/-- Two builders that differ in which loop is open show the same until one of them
is given a source, and are the same once another loop has been opened. -/
theorem sights_withOpenJoin {further : List ChainStep}
    (hloop : Slot.isPresentText builder.record.loop = true)
    (hown : ∀ step ∈ ownSteps further, step.givesSource = false)
    (error : Option Error) :
    Outcome.sights look { builder := { builder with openJoin }, error }
        further =
      Outcome.sights look { builder, error } further := by
  induction further generalizing builder error with
  | nil => rfl
  | cons step rest hrest =>
      rw [Outcome.sights, Outcome.sights]
      apply congrArg (List.cons (Outcome.sight { builder, error }))
      cases hopened : step.opened? with
      | some name =>
          exact congrArg (Outcome.sights look · rest)
            (outcome_of_opened hloop hopened)
      | none =>
          rw [ownSteps_cons_of_none hopened, List.forall_mem_cons] at hown
          have hstep : step.outcome look { builder with openJoin } =
                (step.outcome look builder).withOpenJoin openJoin ∧
              (step.outcome look builder).builder.record.loop =
                builder.record.loop :=
            outcome_of_not_opened hloop hopened hown.1
          have hkept : Slot.isPresentText
              (step.outcome look builder).builder.record.loop = true :=
            hstep.2 ▸ hloop
          exact (congrArg (Outcome.sights look · rest) hstep.1).trans
            (hrest hkept hown.2 _)

end Builder

/-! ## Which builders have a loop open -/

/-- A nested loop is open as soon as there is one, and there is a main loop then. -/
structure LoopState.Tracks (state : LoopState) : Prop where
  nested_eq_nil_iff : state.nested = [] ↔ state.openJoin = none
  isPresent_main :
    state.openJoin ≠ none → Slot.isPresentText state.main = true

namespace LoopState.Tracks

variable {state : LoopState}

theorem entered (hstate : state.Tracks) (name : String) :
    (state.entered name).Tracks := by
  unfold LoopState.entered
  split
  · rename_i hmain
    exact ⟨by simp, fun _ => hmain⟩
  · rename_i hmain
    exact ⟨hstate.nested_eq_nil_iff, fun hopen =>
      absurd (hstate.isPresent_main hopen) hmain⟩

theorem given (hstate : state.Tracks) (source : Option (Slot (Source Expr))) :
    (state.given source).Tracks := by
  unfold LoopState.given
  split
  · rename_i position hopen
    have hnested : state.nested ≠ [] := fun hnil =>
      Option.some_ne_none position
        (hopen.symm.trans (hstate.nested_eq_nil_iff.1 hnil))
    refine ⟨?_, hstate.isPresent_main⟩
    simp [hopen, List.modify_eq_nil_iff, hnested]
  · exact ⟨hstate.nested_eq_nil_iff, hstate.isPresent_main⟩

end LoopState.Tracks

namespace Builder

variable {look : Nat → Query} {start builder after : Builder}
variable {steps : List ChainStep}

theorem nameOf?_of_isName {variableName : Operand Nat}
    (hname : variableName.isName = true) :
    ∃ name, ChainStep.nameOf? variableName = some name := by
  obtain ⟨name, hvariable⟩ := Operand.exists_of_isName hname
  exact ⟨name, by rw [ChainStep.nameOf?, hvariable]⟩

theorem tracks_of_openLoop {variableName : Operand Nat}
    (hname : variableName.isName = true) (hbuilder : builder.loopState.Tracks)
    (hafter : builder.openLoop variableName = .ok after) :
    after.loopState.Tracks := by
  obtain ⟨name, hname⟩ := nameOf?_of_isName hname
  rw [loopState_of_openLoop hname hafter]
  exact hbuilder.entered name

theorem tracks_of_iterate {source : Operand Nat}
    (hbuilder : builder.loopState.Tracks)
    (hafter : builder.iterate source = .ok after) : after.loopState.Tracks := by
  obtain ⟨value, -, hstate⟩ := loopState_of_iterate hafter
  rw [hstate]
  exact hbuilder.given _

theorem tracks_of_step {step : ChainStep} (htyped : step.IsTyped)
    (hbuilder : builder.loopState.Tracks)
    (hstep : step.perform look builder = some after) :
    after.loopState.Tracks := by
  cases hother : step.usesLoops with
  | false =>
      rw [loopState_of_other hother hstep]
      exact ⟨hbuilder.nested_eq_nil_iff, hbuilder.isPresent_main⟩
  | true =>
      cases step with
      | call request =>
          cases request with
          | loop variableName =>
              exact tracks_of_openLoop htyped hbuilder
                (of_success?_attempt hstep)
          | source source =>
              exact tracks_of_iterate hbuilder (of_success?_attempt hstep)
          | join collection variableName =>
              obtain ⟨hname, -⟩ := Bool.and_eq_true_iff.1 htyped
              obtain ⟨opened, hopen, hiterate⟩ := of_success?_andThen hstep
              exact tracks_of_iterate
                (tracks_of_openLoop hname hbuilder (of_success?_attempt hopen))
                (of_success?_attempt hiterate)
          | graph graph direction startVertex minDepth maxDepth options =>
              obtain ⟨traversal, -, rfl⟩ := exists_of_graph hstep
              rw [loopState_setSource]
              exact hbuilder.given _
          | _ => cases hother
      | _ => cases hother

theorem tracks_of_runChain {initial : Operand Nat}
    (hstart : ofInitial look initial = .ok start)
    (htyped : ∀ step ∈ steps, step.IsTyped)
    (hrun : runChain look start steps = some builder) :
    builder.loopState.Tracks := by
  apply runChain_keeps (motive := fun builder => builder.loopState.Tracks)
    (fun step hstep _ _ => tracks_of_step (htyped step hstep)) hrun
  rw [(of_ofInitial hstart).1]
  exact ⟨⟨fun _ => rfl, fun _ => rfl⟩, fun hopen => absurd rfl hopen⟩

/-! ## Restored builders -/

/-- Queries with the same snapshot are the same. -/
theorem eq_of_snapshot? {left right : Query} (hleft : left.IsRestorable)
    (hright : right.IsRestorable)
    (hsnapshot : left.snapshot? = right.snapshot?) : left = right := by
  obtain ⟨snapshot, hdump, hread⟩ := hleft.exists_snapshot
  obtain ⟨snapshot', hdump', hread'⟩ := hright.exists_snapshot
  rw [hdump, hdump'] at hsnapshot
  obtain rfl := Option.some.inj hsnapshot
  exact Checked.ok.inj (hread.symm.trans hread')

/-- Some collection is not what the main loop iterates. -/
theorem exists_other_collection (source : Option (Slot (Source Expr))) :
    ∃ name, source ≠ some (.proper (.text name)) ∧
      sourceValue (.text name : Operand Nat) = .ok (.text name) := by
  by_cases husers : source = some (.proper (.text "users"))
  · refine ⟨"orders", ?_, rfl⟩
    simp [husers]
  · exact ⟨"users", husers, rfl⟩

theorem exists_given (look : Nat → Query) {name : String}
    (hname : sourceValue (.text name : Operand Nat) = .ok (.text name))
    (hbuilder : builder.record.IsRestorable) :
    ∃ after : Builder, (ChainStep.call (.source (.text name))).perform look
        builder = some after ∧
      after.loopState =
        builder.loopState.given (some (.proper (.text name))) ∧
      after.record.IsRestorable := by
  have hsource : (Operand.text name : Operand Nat).isSource = true := by
    rw [Operand.isSource, hname]
    rfl
  cases hafter : builder.iterate (.text name : Operand Nat) with
  | error error => rw [iterate, hname] at hafter; cases hafter
  | ok after =>
      obtain ⟨value, hvalue, hstate⟩ := loopState_of_iterate hafter
      obtain rfl := Except.ok.inj (hvalue.symm.trans hname)
      refine ⟨after, ?_, hstate, isRestorable_iterate hbuilder hsource hafter⟩
      simp only [ChainStep.perform, perform, hafter]
      rfl

/-- What is given as a source next tells a builder with a loop open from the one
that is restored from its snapshot. -/
theorem exists_sights_ne {position : Nat} (hbuilder : builder.record.IsRestorable)
    (hopen : builder.openJoin = some position) :
    ∃ further,
      Outcome.sights look (changed { record := builder.record }) further ≠
        Outcome.sights look builder.changed further := by
  obtain ⟨name, hother, hname⟩ :=
    exists_other_collection builder.record.source
  let alone : Builder := { record := builder.record }
  have halone : alone.record.IsRestorable := hbuilder
  obtain ⟨live, hlive, hliveState, hliveRecord⟩ :=
    exists_given look hname hbuilder
  obtain ⟨restored, hrestored, hrestoredState, hrestoredRecord⟩ :=
    exists_given look hname halone
  refine ⟨[.call (.source (.text name))], fun hsights => ?_⟩
  have hlast (start after : Builder)
      (hafter : (ChainStep.call (.source (.text name))).perform look start =
        some after) :
      Outcome.sights look start.changed [.call (.source (.text name))] =
        [start.changed.sight, after.changed.sight] := by
    rw [Outcome.sights, changed, ChainStep.outcome_of_perform hafter]
    rfl
  rw [hlast _ _ hlive, hlast _ _ hrestored] at hsights
  have hsnapshot : restored.record.snapshot? = live.record.snapshot? :=
    congrArg Sight.snapshot (List.cons.inj (List.cons.inj hsights).2).1
  have hrecords : restored.record = live.record :=
    eq_of_snapshot? hrestoredRecord hliveRecord hsnapshot
  -- The main loop goes on iterating what it did, or iterates the new source.
  have hliveSource : live.record.source = builder.record.source := by
    have hliveOpen : builder.loopState.openJoin = some position := hopen
    rw [LoopState.given, hliveOpen] at hliveState
    exact congrArg LoopState.source hliveState
  have hrestoredSource :
      restored.record.source = some (.proper (.text name)) :=
    congrArg LoopState.source hrestoredState
  apply hother
  rw [← hliveSource, ← hrecords, hrestoredSource]

/-- A builder that typed calls have led to is read back from its snapshot, with
the same record.  Whatever calls follow, the builder that has been read back shows
the same as the first one, if and only if no loop is nested in the main one.  With
nested loops it does so as well if another loop is opened before a source is
given. -/
theorem restored_continues_iff (look : Nat → Query)
    (hlook : ∀ handle, (Expr.subquery (look handle)).isRestorable = true)
    {initial : Operand Nat} {start builder : Builder} {steps : List ChainStep}
    (hinitial : initial.isTyped = true)
    (hstart : ofInitial look initial = .ok start)
    (htyped : ∀ step ∈ steps, step.IsTyped)
    (hrun : runChain look start steps = some builder) :
    ∃ snapshot restored, builder.record.snapshot? = some snapshot ∧
      Query.check snapshot = .ok restored ∧
      ((∀ further, Outcome.sights look (changed { record := restored }) further =
          Outcome.sights look builder.changed further) ↔
        members builder.record.joins = []) ∧
      ∀ further, (∀ step ∈ ownSteps further, step.givesSource = false) →
        Outcome.sights look (changed { record := restored }) further =
          Outcome.sights look builder.changed further := by
  have hrestorable := isRestorable_of_runChain hlook hinitial hstart htyped hrun
  have htracks := tracks_of_runChain hstart htyped hrun
  obtain ⟨snapshot, hsnapshot, hcheck⟩ := hrestorable.exists_snapshot
  refine ⟨snapshot, builder.record, hsnapshot, hcheck, ?_⟩
  cases hopen : builder.openJoin with
  | none =>
      have hbuilder : ({ record := builder.record } : Builder) = builder := by
        rw [← hopen]
      rw [hbuilder]
      exact ⟨⟨fun _ => htracks.nested_eq_nil_iff.2 hopen, fun _ _ => rfl⟩,
        fun _ _ => rfl⟩
  | some position =>
      have hnested : builder.openJoin ≠ none := by simp [hopen]
      refine ⟨⟨fun hsame => ?_, fun hnil => ?_⟩, fun further hown => ?_⟩
      · obtain ⟨further, hother⟩ := exists_sights_ne hrestorable hopen
        exact absurd (hsame further) hother
      · exact absurd (htracks.nested_eq_nil_iff.1 hnil) hnested
      · exact sights_withOpenJoin (htracks.isPresent_main hnested) hown none

section Example

/-- A loop over `users` in which another one is opened. -/
def openedOrders : List ChainStep :=
  [.call (.loop (.text "u")), .call (.source (.text "users")),
    .call (.loop (.text "o"))]

theorem openedOrders_isTyped : ∀ step ∈ openedOrders, step.IsTyped := by
  simp only [openedOrders, List.forall_mem_cons]
  exact ⟨rfl, rfl, rfl, by simp⟩

/-- The source of the nested loop, and what the query returns. -/
def ordersGiven : List ChainStep :=
  [.call (.source (.text "orders")),
    .call (.result (.built (.reference "o")) (.scalar (.bool false)))]

/-- A third loop instead. -/
def postsOpened : List ChainStep :=
  [.call (.filter (.built (.reference "u.active"))),
    .call (.loop (.text "p")), .call (.source (.text "posts"))]

theorem openedOrders_restored :
    ∃ builder snapshot restored,
      runChain (fun _ => {}) {} openedOrders = some builder ∧
        builder.record.snapshot? = some snapshot ∧
        Query.check snapshot = .ok restored ∧
        (¬ ∀ further,
          Outcome.sights (fun _ => {}) (changed { record := restored })
              further =
            Outcome.sights (fun _ => {}) builder.changed further) ∧
        Outcome.sights (fun _ => {}) (changed { record := restored })
            postsOpened =
          Outcome.sights (fun _ => {}) builder.changed postsOpened := by
  have hstart : ofInitial (fun _ => {}) (.null : Operand Nat) = .ok {} := rfl
  obtain ⟨builder, hrun⟩ : ∃ builder,
      runChain (fun _ => {}) {} openedOrders = some builder := ⟨_, rfl⟩
  obtain rfl := Option.some.inj hrun
  obtain ⟨snapshot, restored, hsnapshot, hcheck, hiff, hown⟩ :=
    restored_continues_iff (fun _ => {})
      (fun _ => Query.isRestorable_empty.subquery) rfl hstart
      openedOrders_isTyped hrun
  refine ⟨_, snapshot, restored, hrun, hsnapshot, hcheck, fun hsame => ?_,
    hown postsOpened (by decide)⟩
  cases hiff.1 hsame

/-- A restored builder does not always continue like the one that was saved. -/
theorem restored_not_always_continues :
    ¬ ∀ (steps further : List ChainStep) (builder : Builder)
      (snapshot : Value) (restored : Query),
      (∀ step ∈ steps, step.IsTyped) →
      runChain (fun _ => {}) {} steps = some builder →
      builder.record.snapshot? = some snapshot →
      Query.check snapshot = .ok restored →
      Outcome.sights (fun _ => {}) (changed { record := restored }) further =
        Outcome.sights (fun _ => {}) builder.changed further := by
  intro hsame
  have hstart : ofInitial (fun _ => {}) (.null : Operand Nat) = .ok {} := rfl
  obtain ⟨builder, hrun⟩ : ∃ builder,
      runChain (fun _ => {}) {} openedOrders = some builder := ⟨_, rfl⟩
  obtain rfl := Option.some.inj hrun
  have hrestorable := isRestorable_of_runChain
    (fun _ => Query.isRestorable_empty.subquery) rfl hstart
    openedOrders_isTyped hrun
  obtain ⟨snapshot, hsnapshot, hcheck⟩ := hrestorable.exists_snapshot
  have hsights := hsame openedOrders ordersGiven _ _ _ openedOrders_isTyped
    hrun hsnapshot hcheck
  have hbuilds := congrArg
    (List.map fun sight => sight.build.toOption.isSome) hsights
  exact absurd hbuilds (by decide)

end Example

end Builder

end ArangoQuery
