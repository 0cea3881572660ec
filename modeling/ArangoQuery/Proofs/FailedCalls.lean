import ArangoQuery.Script.Run

/-!
# Calls that fail

A call converts and checks its arguments before it changes the builder, so a call
that fails leaves everything as it was.  There are three exceptions, which change
the builder between two checks: a search has claimed the source of the main loop,
a join has opened its loop, and a grouping that is finished by sorting has been
added.  What they leave behind is their `trace?`; `Script.session_after_failure`
says that there is nothing else.
-/

namespace ArangoQuery

namespace Builder

variable {ρ : Type}

/-- What a call that fails may have changed by then. -/
def trace? (builder : Builder) : Call ρ → Option Builder
  | .search view _ _ =>
      if builder.record.source.isNone then
        some
          { builder with
            record := { builder.record with source := Slot.source? view.raw } }
      else none
  | .join _ variableName => (builder.openLoop variableName).toOption
  | _ => none

variable {builder : Builder} {error : Error}

theorem attempt_failed {change : Except Error Builder}
    (hfailed : (builder.attempt change).error = some error) :
    (builder.attempt change).builder = builder := by
  cases change with
  | error error => rfl
  | ok after => cases hfailed

theorem onRecord_failed {change : Except Error Query}
    (hfailed : (builder.onRecord change).error = some error) :
    (builder.onRecord change).builder = builder :=
  attempt_failed hfailed

/-- Of two changes in a row, the first one is kept when the second one fails. -/
theorem attempt_andThen_failed {change : Except Error Builder}
    {next : Builder → Outcome}
    (hnext : ∀ between, (next between).error = some error →
      (next between).builder = between)
    (hfailed : ((builder.attempt change).andThen next).error = some error) :
    ((builder.attempt change).andThen next).builder =
      change.toOption.getD builder := by
  cases change with
  | error error => rfl
  | ok between => exact hnext between hfailed

theorem perform_failed (look : Query → ρ → Query) (call : Call ρ)
    (hfailed : (builder.perform look call).error = some error) :
    (builder.perform look call).builder =
      (builder.trace? call).getD builder := by
  cases call with
  | join collection variableName =>
      exact attempt_andThen_failed (fun between => attempt_failed) hfailed
  | search view conditions options =>
      have hclaim := attempt_andThen_failed
        (fun between => onRecord_failed) hfailed
      refine hclaim.trans ?_
      rw [trace?, claimView]
      cases builder.record.source with
      | none => rfl
      | some source =>
          simp only
          split <;> rfl
  | useCollections | addCollect | addUpsert | limit | offset => cases hfailed
  | _ => exact attempt_failed hfailed

end Builder

namespace Stage

variable {ρ : Type} {builder left : Builder} {error : Error}

/-- What a call on a stage that fails may have changed by then. -/
def trace? (look : Query → ρ → Query) (builder : Builder) :
    Stage ρ → StageCall ρ → Option Builder
  | .collect keys aggregates, .sort _ _ =>
      (collectClause (look builder.record) keys aggregates .null).toOption.map
        fun clause => (builder.perform look (.addCollect clause)).builder
  | _, _ => none

theorem ofOutcome_failed {outcome : Outcome}
    (hfailed : (ofOutcome outcome : StageResult ρ) = .failed left error) :
    outcome.error = some error ∧ left = outcome.builder := by
  unfold ofOutcome at hfailed
  split at hfailed
  · cases hfailed
  · rename_i given hgiven
    cases hfailed
    exact ⟨hgiven, rfl⟩

theorem orFail_failed {α : Type} {step : Except Error α}
    {next : α → StageResult ρ}
    (hnext : ∀ value, next value = .failed left error → left = builder)
    (hfailed : orFail builder step next = .failed left error) :
    left = builder := by
  cases step with
  | error given => cases hfailed; rfl
  | ok value => exact hnext value hfailed

theorem hand_failed {look : Query → ρ → Query}
    {clause : Except Error (Collect Expr)}
    (hfailed : (hand look builder clause).error = some error) :
    (hand look builder clause).builder = builder := by
  cases clause with
  | error given => rfl
  | ok clause => cases hfailed

theorem perform_failed {look : Query → ρ → Query} {stage : Stage ρ}
    {call : StageCall ρ}
    (hfailed : stage.perform look builder call = .failed left error) :
    left = (stage.trace? look builder call).getD builder := by
  have hhand {clause : Except Error (Collect Expr)}
      (hfailed : (ofOutcome (hand look builder clause) : StageResult ρ) =
        .failed left error) : left = builder := by
    obtain ⟨herror, rfl⟩ := ofOutcome_failed hfailed
    exact hand_failed herror
  cases stage with
  | collect keys aggregates =>
      cases call with
      | aggregate => exact orFail_failed (fun _ hnext => by cases hnext) hfailed
      | finish | into => exact hhand hfailed
      | sort field direction =>
          obtain ⟨herror, rfl⟩ := ofOutcome_failed hfailed
          rw [trace?]
          cases hclause : collectClause (look builder.record) keys aggregates
              .null with
          | error given => rfl
          | ok clause =>
              rw [hclause] at herror
              exact Builder.onRecord_failed herror
      | _ => cases hfailed; rfl
  | collectKeep keys keep =>
      cases call with
      | into | aggregateAll => exact hhand hfailed
      | sort field direction =>
          obtain ⟨herror, rfl⟩ := ofOutcome_failed hfailed
          exact Builder.onRecord_failed herror
      | _ => cases hfailed; rfl
  | upsertInsert search =>
      cases call with
      | insert => exact orFail_failed (fun _ hnext => by cases hnext) hfailed
      | _ => cases hfailed; rfl
  | upsertUpdate search insert =>
      cases call with
      | update => exact orFail_failed (fun _ hnext => by cases hnext) hfailed
      | _ => cases hfailed; rfl
  | upsertInto search insert update =>
      cases call with
      | into =>
          refine orFail_failed (fun upsert hnext => ?_) hfailed
          obtain ⟨herror, -⟩ := ofOutcome_failed hnext
          cases herror
      | _ => cases hfailed; rfl

end Stage

theorem List.set_getD {α : Type} (items : List α) (position : Nat)
    (default : α) : items.set position (items.getD position default) = items := by
  by_cases hposition : position < items.length
  · rw [List.getD_eq_getElem?_getD, List.getElem?_eq_getElem hposition,
      Option.getD_some, List.set_getElem_self]
  · exact List.set_eq_of_length_le (Nat.le_of_not_lt hposition)

namespace Session

variable {session : Session} {number : Nat} {error : Error}

/-- To put a builder back changes nothing. -/
theorem setBuilder_builder (session : Session) (number : Nat) :
    session.setBuilder number (session.builder number) = session := by
  have hrecords :
      session.records.set (session.cell number).record
        (session.builder number).record = session.records :=
    List.set_getD session.records _ {}
  have hbuilders :
      session.builders.set number
        { session.cell number with
          openJoin := (session.builder number).openJoin } = session.builders :=
    List.set_getD session.builders number default
  rw [setBuilder, hrecords, hbuilders]

theorem call_failed {call : Call Nat}
    (hfailed : (session.call number call).2 = some error) :
    (session.call number call).1 =
      ((session.builder number).trace? call).elim session
        (session.setBuilder number) := by
  have hleft : (session.call number call).1 =
      session.setBuilder number (((session.builder number).trace? call).getD
        (session.builder number)) :=
    congrArg (session.setBuilder number)
      (Builder.perform_failed (session.look number) call hfailed)
  rw [hleft]
  cases (session.builder number).trace? call with
  | none => exact setBuilder_builder session number
  | some left => rfl

theorem callStage_failed {cell : StageCell} {call : StageCall Nat}
    (hcell : session.stages[number]? = some cell)
    (hfailed : (session.callStage number call).2 = .error error) :
    (session.callStage number call).1 =
      (cell.stage.trace? (session.look cell.parent)
        (session.builder cell.parent) call).elim session
        (session.setBuilder cell.parent) := by
  rw [callStage, hcell] at hfailed ⊢
  simp only at hfailed ⊢
  split at hfailed
  · cases hfailed
  · cases hfailed
  · cases hfailed
  · rename_i left given hperform
    simp only
    rw [Stage.perform_failed hperform]
    cases cell.stage.trace? (session.look cell.parent)
        (session.builder cell.parent) call with
    | none => exact setBuilder_builder session cell.parent
    | some left => rfl

end Session

namespace Script

variable {α β : Type} {before after : Workspace} {error : Error}

/-! ## Actions and the session -/

theorem bind_failed {first : Action α} {next : α → Action β}
    (hfailed : (first >>= next) before = .error error after) :
    first before = .error error after ∨
      ∃ value between, first before = .ok value between ∧
        next value between = .error error after := by
  cases hfirst : first before with
  | error given between =>
      have hbind : (first >>= next) before = .error given between := by
        simp only [bind, EStateM.bind, hfirst]
      obtain ⟨rfl, rfl⟩ :=
        EStateM.Result.error.inj (hbind.symm.trans hfailed)
      exact .inl rfl
  | ok value between =>
      have hbind : (first >>= next) before = next value between := by
        simp only [bind, EStateM.bind, hfirst]
      exact .inr ⟨value, between, rfl, hbind.symm.trans hfailed⟩

/-- Leaves the session alone, whether or not it fails. -/
def KeepsSession (action : Action α) : Prop :=
  ∀ before : Workspace,
    match action before with
    | .ok _ after => after.session = before.session
    | .error _ after => after.session = before.session

/-- Leaves the session alone if it fails. -/
def FailsCleanly (action : Action α) : Prop :=
  ∀ (before after : Workspace) (error : Error),
    action before = .error error after → after.session = before.session

theorem KeepsSession.failsCleanly {action : Action α}
    (hkeeps : KeepsSession action) : FailsCleanly action := by
  intro before after error hfailed
  have hsession := hkeeps before
  rwa [hfailed] at hsession

theorem FailsCleanly.bind {first : Action α} {next : α → Action β}
    (hfirst : KeepsSession first) (hnext : ∀ value, FailsCleanly (next value)) :
    FailsCleanly (first >>= next) := by
  intro before after error hfailed
  obtain hfailed | ⟨value, between, hvalue, hfailed⟩ := bind_failed hfailed
  · exact hfirst.failsCleanly before after error hfailed
  · have hsession := hfirst before
    rw [hvalue] at hsession
    exact (hnext value between after error hfailed).trans hsession

theorem failsCleanly_of_succeeds {action : Action α}
    (hsucceeds : ∀ before, ∃ value after, action before = .ok value after) :
    FailsCleanly action := by
  intro before after error hfailed
  obtain ⟨value, result, hresult⟩ := hsucceeds before
  rw [hresult] at hfailed
  cases hfailed

theorem failsCleanly_pure (value : α) : FailsCleanly (pure value) :=
  failsCleanly_of_succeeds fun before => ⟨value, before, rfl⟩

theorem failsCleanly_throw (error : Error) :
    FailsCleanly (throw error : Action α) := by
  intro before after given hfailed
  cases hfailed
  rfl

theorem keepsSession_liftExcept (result : Except Error α) :
    KeepsSession (Script.liftExcept result) := by
  cases result <;> exact fun _ => rfl

theorem keepsSession_liftOption (error : Error) (result : Option α) :
    KeepsSession (Script.liftOption error result) := by
  cases result <;> exact fun _ => rfl

theorem keepsSession_records : KeepsSession records :=
  fun _ => rfl

theorem session_bind (next : Session → Action α) (before : Workspace) :
    (session >>= next) before = next before.session before :=
  rfl

theorem stageOf_bind (number : Nat) (next : StageCell → Action α)
    (before : Workspace) :
    (stageOf number >>= next) before =
      match before.session.stages[number]? with
      | some cell => next cell before
      | none => .error .attribute before := by
  have hstage : (stageOf number >>= next) before =
      (Script.liftOption .attribute before.session.stages[number]? >>= next)
        before := rfl
  rw [hstage]
  cases before.session.stages[number]? <;> rfl

theorem keepsSession_snapshotOf (number : Nat) :
    KeepsSession (snapshotOf number) :=
  fun before => keepsSession_liftOption .unserializable _ before

theorem keepsSession_liftLogged (result : Except Error α × List Event) :
    KeepsSession (liftLogged result) := by
  obtain ⟨result, events⟩ := result
  cases result <;> exact fun _ => rfl

theorem keepsSession_build (number : Nat) : KeepsSession (build number) :=
  fun before => keepsSession_liftLogged _ before

/-- What becomes current is described in the answer. -/
def answering (action : Action Handle) : Action (Handle × Answer) := do
  let handle ← action
  return (handle, ← describeHandle handle)

/-- A builder can always be described. -/
theorem failsCleanly_addBuilder (builder : Builder) :
    FailsCleanly (answering (addBuilder builder)) :=
  failsCleanly_of_succeeds fun _ => ⟨_, _, rfl⟩

/-- A stage can be described as soon as it is there. -/
theorem describeHandle_stage {number : Nat} {cell : StageCell}
    (hcell : before.session.stages[number]? = some cell) :
    describeHandle (.stage number) before =
      .ok (.stage (stageName cell.stage)) before := by
  have hdescribe : describeHandle (.stage number) before =
      (Script.liftOption .attribute before.session.stages[number]? >>=
        fun cell => pure (.stage (stageName cell.stage)) : Action Answer)
        before := rfl
  rw [hdescribe, hcell]
  rfl

theorem failsCleanly_addStage (number : Nat) (stage : Stage Nat) :
    FailsCleanly (answering (addStage number stage)) := by
  intro before after error hfailed
  obtain hfailed | ⟨handle, between, hadded, hfailed⟩ := bind_failed hfailed
  · cases hfailed
  · cases hadded
    obtain hfailed | ⟨answer, between, -, hfailed⟩ := bind_failed hfailed
    · rw [describeHandle_stage (List.getElem?_concat_length ..)] at hfailed
      cases hfailed
    · cases hfailed

theorem answering_bind (first : Action α) (next : α → Action Handle) :
    answering (first >>= next) = first >>= fun value => answering (next value) :=
  bind_assoc ..

theorem failsCleanly_restore (restored : Checked Query) :
    FailsCleanly (answering (restore restored)) := by
  rw [restore, answering_bind]
  exact .bind (keepsSession_liftLogged _) fun record =>
    failsCleanly_addBuilder { record }

theorem callBuilder_failed {number : Nat} {call : Call Nat}
    (hfailed : answering (callBuilder number call) before =
      .error error after) :
    after.session =
      ((before.session.builder number).trace? call).elim before.session
        (before.session.setBuilder number) := by
  have hcall : callBuilder number call before =
      ((before.session.call number call).2.elim (pure (.builder number))
          throw : Action Handle)
        { before with session := (before.session.call number call).1 } := by
    rw [callBuilder, session_bind]
    obtain ⟨left, result⟩ := before.session.call number call
    cases result <;> rfl
  obtain hfailed | ⟨handle, between, hhandle, hfailed⟩ := bind_failed hfailed
  · rw [hcall] at hfailed
    cases hresult : (before.session.call number call).2 with
    | none => rw [hresult] at hfailed; cases hfailed
    | some given =>
        rw [hresult] at hfailed
        cases hfailed
        exact Session.call_failed hresult
  · rw [hcall] at hhandle
    cases hresult : (before.session.call number call).2 with
    | none =>
        rw [hresult] at hhandle
        cases hhandle
        cases hfailed
    | some given => rw [hresult] at hhandle; cases hhandle

/-- A grouping that is handed over as such is checked before. -/
theorem failsCleanly_addCollect (number : Nat) (operand : Operand Nat) :
    FailsCleanly (answering (addCollect number operand)) := by
  unfold addCollect
  simp only
  split
  · intro before after error hfailed
    exact callBuilder_failed hfailed
  · intro before after error hfailed
    cases hfailed
    rfl

/-- What a call on a stage leads to is there. -/
theorem exists_of_callStage {session : Session} {number next : Nat}
    {cell : StageCell} {call : StageCall Nat}
    (hcell : session.stages[number]? = some cell)
    (hnext : (session.callStage number call).2 = .ok (.stage next)) :
    ∃ cell, (session.callStage number call).1.stages[next]? = some cell := by
  rw [Session.callStage, hcell] at hnext ⊢
  simp only at hnext ⊢
  split at hnext
  · cases hnext
    have hnumber := (List.getElem?_eq_some_iff.1 hcell).1
    exact ⟨_, List.getElem?_set_self hnumber⟩
  · cases hnext
    exact ⟨_, List.getElem?_concat_length ..⟩
  · cases hnext
  · cases hnext

theorem callStage_failed {number : Nat} {cell : StageCell}
    {call : StageCall Nat} (hcell : before.session.stages[number]? = some cell)
    (hfailed : answering (callStage number call) before =
      .error error after) :
    after.session =
      (cell.stage.trace? (before.session.look cell.parent)
        (before.session.builder cell.parent) call).elim before.session
        (before.session.setBuilder cell.parent) := by
  have hcall : callStage number call before =
      (liftExcept (before.session.callStage number call).2 : Action Handle)
        { before with session := (before.session.callStage number call).1 } :=
    rfl
  obtain hfailed | ⟨handle, between, hhandle, hfailed⟩ := bind_failed hfailed
  · rw [hcall] at hfailed
    cases hresult : (before.session.callStage number call).2 with
    | ok handle => rw [hresult] at hfailed; cases hfailed
    | error given =>
        rw [hresult] at hfailed
        cases hfailed
        exact Session.callStage_failed hcell hresult
  · rw [hcall] at hhandle
    cases hresult : (before.session.callStage number call).2 with
    | error given => rw [hresult] at hhandle; cases hhandle
    | ok handle =>
        rw [hresult] at hhandle
        cases hhandle
        obtain hfailed | ⟨answer, between, -, hfailed⟩ := bind_failed hfailed
        · cases handle with
          | builder number => cases hfailed
          | stage next =>
              obtain ⟨cell, hnext⟩ := exists_of_callStage hcell hresult
              rw [describeHandle_stage hnext] at hfailed
              cases hfailed
        · cases hfailed

/-! ## Methods -/

/-- The commands of a script that are no methods. -/
def isCommand (method : String) : Bool :=
  method.toList.head? = some '$'

/-- The call that a method makes, if it takes the arguments. -/
def madeCall? {κ : Type} (found : Option (Method κ))
    (arguments : Arguments (Operand Nat)) : Option κ :=
  found.bind fun found => (found.apply arguments).toOption

/-- What a method that fails may have changed by then: the builder, and what has
become of it. -/
def trace? (session : Session) (current : Handle) (method : String)
    (arguments : Arguments (Operand Nat)) : Option (Nat × Builder) :=
  match current with
  | .builder number =>
      (madeCall? (builderMethod? method) arguments).bind fun call =>
        ((session.builder number).trace? call).map fun left => (number, left)
  | .stage number =>
      session.stages[number]?.bind fun cell =>
        (madeCall? (stageMethod? cell.stage method) arguments).bind fun call =>
          (cell.stage.trace? (session.look cell.parent)
            (session.builder cell.parent) call).map fun left =>
              (cell.parent, left)

theorem runPlain_stage {method : String} (hmethod : isCommand method = false)
    (number : Nat) (arguments : Arguments (Operand Nat)) :
    runPlain (.stage number) method arguments = (do
      let cell ← stageOf number
      let found ← liftOption .attribute (stageMethod? cell.stage method)
      let call ← liftExcept (found.apply arguments)
      answering (callStage number call)) := by
  unfold runPlain
  simp only
  split
  case h_14 => rfl
  all_goals cases hmethod

theorem runPlain_builder {method : String} {found : Method (Call Nat)}
    (hmethod : isCommand method = false)
    (hfound : builderMethod? method = some found) (number : Nat)
    (arguments : Arguments (Operand Nat)) :
    runPlain (.builder number) method arguments = (do
      let call ← liftExcept (found.apply arguments)
      answering (callBuilder number call)) := by
  unfold runPlain
  simp only
  split
  case h_14 =>
    simp only [hfound]
    rfl
  all_goals cases hmethod

/-- The other methods of a builder make no call on it. -/
theorem failsCleanly_runPlain {method : String}
    (hmethod : isCommand method = false)
    (hfound : builderMethod? method = none) (number : Nat)
    (arguments : Arguments (Operand Nat)) :
    FailsCleanly (runPlain (.builder number) method arguments) := by
  unfold runPlain
  simp only
  split
  case h_14 =>
    simp only [hfound]
    split
    · refine .bind (keepsSession_liftExcept _) fun keys => ?_
      refine .bind (keepsSession_liftExcept _) fun stage => ?_
      exact failsCleanly_addStage number stage
    · refine .bind (keepsSession_liftExcept _) fun stage => ?_
      exact failsCleanly_addStage number stage
    · refine .bind keepsSession_records fun look => ?_
      refine .bind (keepsSession_liftExcept _) fun search => ?_
      refine .bind (keepsSession_liftExcept _) fun stage => ?_
      exact failsCleanly_addStage number stage
    · refine .bind (keepsSession_liftExcept _) fun clause => ?_
      exact failsCleanly_addCollect number clause
    · refine .bind (keepsSession_liftExcept _) fun _ => ?_
      exact failsCleanly_addBuilder {}
    · refine .bind (keepsSession_liftExcept _) fun builder => ?_
      exact failsCleanly_addBuilder builder
    · refine .bind (keepsSession_liftExcept _) fun snapshot => ?_
      exact failsCleanly_restore (readSnapshot snapshot)
    · refine .bind (keepsSession_liftExcept _) fun record => ?_
      refine .bind (keepsSession_liftExcept _) fun builder => ?_
      exact failsCleanly_addBuilder builder
    · refine .bind (keepsSession_liftExcept _) fun _ => ?_
      exact .bind (keepsSession_build number) fun compiled =>
        failsCleanly_pure _
    · refine .bind (keepsSession_liftExcept _) fun _ => ?_
      exact .bind (keepsSession_build number) fun compiled =>
        failsCleanly_pure _
    · refine .bind (keepsSession_liftExcept _) fun _ => ?_
      exact .bind (keepsSession_build number) fun compiled =>
        failsCleanly_pure _
    · refine .bind (keepsSession_liftExcept _) fun _ => ?_
      exact .bind (keepsSession_snapshotOf number) fun snapshot =>
        failsCleanly_pure _
    · exact failsCleanly_throw _
    · exact failsCleanly_throw _
  all_goals cases hmethod

/-- A method that fails has failed to read its arguments, or fails in its call. -/
theorem arguments_failed {result : Except Error β} {next : β → Action α}
    (hfailed : (liftExcept result >>= next) before = .error error after) :
    (result.toOption = none ∧ after = before) ∨
      ∃ value, result = .ok value ∧ next value before = .error error after := by
  cases result with
  | error given =>
      cases hfailed
      exact .inl ⟨rfl, rfl⟩
  | ok value => exact .inr ⟨value, rfl, hfailed⟩

section Methods

variable {method : String} {arguments : Arguments (Operand Nat)} {number : Nat}
variable (hmethod : isCommand method = false)

include hmethod

theorem session_after_builder
    (hfailed : runPlain (.builder number) method arguments before =
      .error error after) :
    after.session =
      (trace? before.session (.builder number) method arguments).elim
        before.session
        fun (number, left) => before.session.setBuilder number left := by
  rw [trace?]
  cases hfound : builderMethod? method with
  | none =>
      exact failsCleanly_runPlain hmethod hfound number arguments before after
        error hfailed
  | some found =>
      rw [runPlain_builder hmethod hfound] at hfailed
      obtain ⟨happly, rfl⟩ | ⟨call, happly, hfailed⟩ := arguments_failed hfailed
      · simp only [madeCall?, Option.bind_some, happly, Option.bind_none,
          Option.elim_none]
      · simp only [madeCall?, Option.bind_some, happly, Except.toOption,
          Option.elim_map]
        exact callBuilder_failed hfailed

theorem session_after_stage
    (hfailed : runPlain (.stage number) method arguments before =
      .error error after) :
    after.session =
      (trace? before.session (.stage number) method arguments).elim
        before.session
        fun (number, left) => before.session.setBuilder number left := by
  rw [trace?]
  rw [runPlain_stage hmethod, stageOf_bind] at hfailed
  cases hcell : before.session.stages[number]? with
  | none =>
      rw [hcell] at hfailed
      cases hfailed
      rfl
  | some cell =>
      rw [hcell] at hfailed
      cases hfound : stageMethod? cell.stage method with
      | none =>
          simp only [hfound] at hfailed
          cases hfailed
          simp only [Option.bind_some, hfound, madeCall?, Option.bind_none,
            Option.elim_none]
      | some found =>
          have hcalled : (liftExcept (found.apply arguments) >>= fun call =>
              answering (callStage number call)) before =
                .error error after := by
            simp only [hfound] at hfailed
            exact hfailed
          obtain ⟨happly, rfl⟩ | ⟨call, happly, hcalled⟩ :=
            arguments_failed hcalled
          · simp only [Option.bind_some, hfound, madeCall?, happly,
              Option.bind_none, Option.elim_none]
          · simp only [Option.bind_some, hfound, madeCall?, happly,
              Except.toOption, Option.elim_map]
            exact callStage_failed hcell hcalled

end Methods

/-- A method that fails leaves the session as it was, but for what the call that
it makes has changed by then. -/
theorem session_after_failure {current : Handle} {method : String}
    {arguments : Arguments (Operand Nat)} (hmethod : isCommand method = false)
    (hfailed : runPlain current method arguments before =
      .error error after) :
    after.session =
      (trace? before.session current method arguments).elim before.session
        fun (number, left) => before.session.setBuilder number left := by
  cases current with
  | builder number => exact session_after_builder hmethod hfailed
  | stage number => exact session_after_stage hmethod hfailed

section Example

/-- A builder whose only call so far has opened a loop. -/
def openedLoop : Workspace where
  session := (({} : Session).addBuilder
    { record := { loop := some (.proper "d") } }).2

/-- A search whose options are no mapping. -/
def searchWithoutMapping : Arguments (Operand Nat) where
  positional := [.text "articles"]
  named := [("options", .scalar (.int 5))]

theorem openedLoop_after_search :
    ∃ after, runPlain (.builder 0) "search" searchWithoutMapping openedLoop =
        .error (.value .optionsNotMapping) after ∧
      after.session =
        openedLoop.session.setBuilder 0
          { record :=
              { loop := some (.proper "d"),
                source := some (.proper (.text "articles")) } } := by
  obtain ⟨after, hfailed⟩ : ∃ after,
      runPlain (.builder 0) "search" searchWithoutMapping openedLoop =
        .error (.value .optionsNotMapping) after := ⟨_, rfl⟩
  exact ⟨after, hfailed, session_after_failure rfl hfailed⟩

/-- A search that fails has become the source of the loop. -/
theorem record_not_always_kept :
    ¬ ∀ (before after : Workspace) (error : Error) (number : Nat)
      (method : String) (arguments : Arguments (Operand Nat)),
      isCommand method = false →
      runPlain (.builder number) method arguments before =
        .error error after →
      after.session.query number = before.session.query number := by
  intro hkept
  have hquery := hkept openedLoop _ _ 0 "search" searchWithoutMapping rfl rfl
  cases congrArg (fun query => query.source.isSome) hquery

end Example

end Script

end ArangoQuery
