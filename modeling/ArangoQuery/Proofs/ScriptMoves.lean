import ArangoQuery.Proofs.Moves

/-!
# Scripts move sessions

A script works on builders and stages by moves only, in the steps themselves and
in the terms that give their arguments, whether or not a step fails.  So what holds
of every run of moves holds of every script (`Script.movesSession_perform`).
-/

namespace ArangoQuery

namespace Session

theorem run_append (session : Session) (first second : List Move) :
    session.run (first ++ second) = (session.run first).run second :=
  List.foldl_append

end Session

namespace Script

variable {α β : Type}

/-- The session after an action, whether or not it has failed. -/
def sessionAfter (action : Action α) (before : Workspace) : Session :=
  match action before with
  | .ok _ after => after.session
  | .error _ after => after.session

/-- Changes the session by moves only. -/
def MovesSession (action : Action α) : Prop :=
  ∀ before, ∃ moves, sessionAfter action before = before.session.run moves

theorem KeepsSession.movesSession {action : Action α}
    (hkeeps : KeepsSession action) : MovesSession action := by
  intro before
  refine ⟨[], ?_⟩
  have hsession := hkeeps before
  rw [sessionAfter]
  cases haction : action before with
  | ok value after => rwa [haction] at hsession
  | error error after => rwa [haction] at hsession

theorem MovesSession.bind {first : Action α} {next : α → Action β}
    (hfirst : MovesSession first) (hnext : ∀ value, MovesSession (next value)) :
    MovesSession (first >>= next) := by
  intro before
  obtain ⟨earlier, hearlier⟩ := hfirst before
  rw [sessionAfter] at hearlier
  cases haction : first before with
  | error error between =>
      rw [haction] at hearlier
      refine ⟨earlier, ?_⟩
      simp only [sessionAfter, Bind.bind, EStateM.bind, haction]
      exact hearlier
  | ok value between =>
      rw [haction] at hearlier
      obtain ⟨later, hlater⟩ := hnext value between
      refine ⟨earlier ++ later, ?_⟩
      rw [Session.run_append, ← hearlier]
      refine Eq.trans ?_ hlater
      simp only [sessionAfter, Bind.bind, EStateM.bind, haction]

theorem movesSession_pure (value : α) : MovesSession (pure value) :=
  fun _ => ⟨[], rfl⟩

theorem movesSession_throw (error : Error) :
    MovesSession (throw error : Action α) :=
  fun _ => ⟨[], rfl⟩

theorem movesSession_liftExcept (result : Except Error α) :
    MovesSession (Script.liftExcept result) :=
  (keepsSession_liftExcept result).movesSession

theorem movesSession_liftOption (error : Error) (result : Option α) :
    MovesSession (Script.liftOption error result) :=
  (keepsSession_liftOption error result).movesSession

theorem movesSession_mapM {step : α → Action β}
    (hstep : ∀ item, MovesSession (step item)) (items : List α) :
    MovesSession (items.mapM step) := by
  induction items with
  | nil => exact movesSession_pure []
  | cons item rest hrest =>
      rw [List.mapM_cons]
      exact (hstep item).bind fun _ => hrest.bind fun _ => movesSession_pure _

theorem movesSession_foldlM {step : β → α → Action β}
    (hstep : ∀ current item, MovesSession (step current item))
    (items : List α) (current : β) :
    MovesSession (items.foldlM step current) := by
  induction items generalizing current with
  | nil => exact movesSession_pure current
  | cons item rest hrest =>
      rw [List.foldlM_cons]
      exact (hstep current item).bind hrest

/-! ## Moves -/

theorem movesSession_addBuilder (builder : Builder) :
    MovesSession (addBuilder builder) :=
  fun _ => ⟨[.add builder], rfl⟩

theorem movesSession_addStage (parent : Nat) (stage : Stage Nat) :
    MovesSession (addStage parent stage) :=
  fun _ => ⟨[.addStage parent stage], rfl⟩

theorem movesSession_callBuilder (number : Nat) (call : Call Nat) :
    MovesSession (callBuilder number call) := by
  intro before
  refine ⟨[.call number call], ?_⟩
  have hcalled : before.session.run [.call number call] =
      (before.session.call number call).1 := rfl
  rw [hcalled, sessionAfter, callBuilder, session_bind]
  obtain ⟨left, result⟩ := before.session.call number call
  cases result <;> rfl

theorem movesSession_callStage (number : Nat) (call : StageCall Nat) :
    MovesSession (callStage number call) := by
  intro before
  refine ⟨[.callStage number call], ?_⟩
  have hcalled : before.session.run [.callStage number call] =
      (before.session.callStage number call).1 := rfl
  rw [hcalled, sessionAfter, callStage, session_bind]
  obtain ⟨left, result⟩ := before.session.callStage number call
  cases result <;> rfl

theorem movesSession_saveAs (name : Scalar) (handle : Handle) :
    MovesSession (saveAs name handle) :=
  fun _ => ⟨[.rename _], rfl⟩

theorem MovesSession.forgettingNames {action : Action α}
    (haction : MovesSession action) : MovesSession (forgettingNames action) := by
  intro before
  obtain ⟨moves, hmoves⟩ := haction before
  refine ⟨moves ++ [.rename before.session.saved], ?_⟩
  rw [Session.run_append, ← hmoves, sessionAfter, sessionAfter,
    Script.forgettingNames]
  cases action before <;> rfl

/-! ## Methods -/

theorem keepsSession_describeHandle (handle : Handle) :
    KeepsSession (describeHandle handle) := by
  cases handle with
  | builder number => exact fun _ => rfl
  | stage number =>
      intro before
      have hdescribe : describeHandle (.stage number) before =
          (Script.liftOption .attribute before.session.stages[number]? >>=
            fun cell => pure (.stage (stageName cell.stage)) : Action Answer)
            before := rfl
      rw [hdescribe]
      cases before.session.stages[number]? <;> rfl

theorem movesSession_becomes (handle : Handle) :
    MovesSession (do return (handle, ← describeHandle handle)) :=
  .bind (keepsSession_describeHandle handle).movesSession fun _ =>
    movesSession_pure _

theorem MovesSession.answering {action : Action Handle}
    (haction : MovesSession action) : MovesSession (answering action) :=
  haction.bind movesSession_becomes

theorem movesSession_restore (restored : Checked Query) :
    MovesSession (restore restored) :=
  (keepsSession_liftLogged _).movesSession.bind fun record =>
    movesSession_addBuilder { record }

theorem movesSession_addCollect (number : Nat) (operand : Operand Nat) :
    MovesSession (addCollect number operand) := by
  unfold addCollect
  simp only
  split
  · exact movesSession_callBuilder number _
  · exact movesSession_throw _

theorem keepsSession_currentBuilder (handle : Handle) :
    KeepsSession (currentBuilder handle) := by
  cases handle <;> exact fun _ => rfl

theorem movesSession_snapshotOf (number : Nat) :
    MovesSession (snapshotOf number) :=
  (keepsSession_snapshotOf number).movesSession

theorem movesSession_build (number : Nat) : MovesSession (build number) :=
  (keepsSession_build number).movesSession

theorem movesSession_share (number : Nat) {next : Session → Action β}
    (hnext : ∀ session, MovesSession (next session)) :
    MovesSession (session >>= fun session =>
      setSession (session.shareRecord number).2 >>= fun _ => next session) := by
  intro before
  obtain ⟨moves, hmoves⟩ := hnext before.session
    { before with session := (before.session.shareRecord number).2 }
  exact ⟨.share number :: moves, hmoves⟩

theorem movesSession_get {next : Workspace → Action β}
    (hnext : ∀ workspace, MovesSession (next workspace)) :
    MovesSession (get >>= next) :=
  fun before => hnext before before

theorem movesSession_session {next : Session → Action β}
    (hnext : ∀ session, MovesSession (next session)) :
    MovesSession (session >>= next) :=
  fun before => hnext before.session before

theorem movesSession_load (name : Scalar) : MovesSession (load name) :=
  movesSession_session fun _ => movesSession_liftOption _ _

theorem movesSession_parametersOf (handle : Handle) :
    MovesSession (parametersOf handle) :=
  .bind (keepsSession_currentBuilder handle).movesSession fun number =>
    .bind (movesSession_snapshotOf number) fun _ => movesSession_pure _

theorem keepsSession_stageOf (number : Nat) :
    KeepsSession (stageOf number) :=
  fun before => keepsSession_liftOption .attribute _ before

theorem movesSession_runPlain (current : Handle) (method : String)
    (arguments : Arguments (Operand Nat)) :
    MovesSession (runPlain current method arguments) := by
  unfold runPlain
  simp only
  split
  · refine .bind keepsSession_records.movesSession fun look => ?_
    refine .bind (movesSession_liftExcept _) fun builder => ?_
    exact (movesSession_addBuilder builder).answering
  · refine .bind (movesSession_liftExcept _) fun builder => ?_
    exact (movesSession_addBuilder builder).answering
  · refine .bind (movesSession_liftExcept _) fun loop => ?_
    refine .bind (movesSession_liftExcept _) fun builder => ?_
    exact (movesSession_addBuilder builder).answering
  · refine .bind (movesSession_liftExcept _) fun _ => ?_
    exact (movesSession_addBuilder {}).answering
  · refine .bind (movesSession_liftExcept _) fun snapshot => ?_
    exact (movesSession_restore _).answering
  · refine .bind (movesSession_liftExcept _) fun snapshot => ?_
    split
    · exact (movesSession_restore _).answering
    · exact movesSession_throw _
  · refine .bind (keepsSession_currentBuilder current).movesSession
      fun number => ?_
    refine .bind (movesSession_snapshotOf number) fun snapshot => ?_
    exact (movesSession_restore _).answering
  · refine .bind (keepsSession_currentBuilder current).movesSession
      fun number => ?_
    exact movesSession_share number fun session => movesSession_becomes _
  · refine .bind (movesSession_liftExcept _) fun name => ?_
    split
    · exact .bind (movesSession_saveAs _ current) fun _ =>
        movesSession_becomes current
    · exact movesSession_throw _
  · refine .bind (movesSession_liftExcept _) fun name => ?_
    split
    · exact (movesSession_load _).answering
    · exact movesSession_throw _
  · refine .bind (keepsSession_currentBuilder current).movesSession
      fun number => ?_
    refine movesSession_get fun workspace => ?_
    exact .bind (keepsSession_liftLogged _).movesSession fun _ =>
      movesSession_pure _
  · exact .bind (movesSession_parametersOf current) fun _ =>
      movesSession_pure _
  · refine .bind (keepsSession_currentBuilder current).movesSession
      fun number => ?_
    exact movesSession_session fun session => movesSession_pure _
  · cases current with
    | stage number =>
        refine .bind (keepsSession_stageOf number).movesSession fun cell => ?_
        refine .bind (movesSession_liftOption _ _) fun found => ?_
        refine .bind (movesSession_liftExcept _) fun call => ?_
        exact (movesSession_callStage number call).answering
    | builder number =>
        simp only
        split
        · refine .bind (movesSession_liftExcept _) fun call => ?_
          exact (movesSession_callBuilder number call).answering
        · split
          · refine .bind (movesSession_liftExcept _) fun keys => ?_
            refine .bind (movesSession_liftExcept _) fun stage => ?_
            exact (movesSession_addStage number stage).answering
          · refine .bind (movesSession_liftExcept _) fun stage => ?_
            exact (movesSession_addStage number stage).answering
          · refine .bind keepsSession_records.movesSession fun look => ?_
            refine .bind (movesSession_liftExcept _) fun search => ?_
            refine .bind (movesSession_liftExcept _) fun stage => ?_
            exact (movesSession_addStage number stage).answering
          · refine .bind (movesSession_liftExcept _) fun clause => ?_
            exact (movesSession_addCollect number clause).answering
          · refine .bind (movesSession_liftExcept _) fun _ => ?_
            exact (movesSession_addBuilder {}).answering
          · refine .bind (movesSession_liftExcept _) fun builder => ?_
            exact (movesSession_addBuilder builder).answering
          · refine .bind (movesSession_liftExcept _) fun snapshot => ?_
            exact (movesSession_restore _).answering
          · refine .bind (movesSession_liftExcept _) fun record => ?_
            refine .bind (movesSession_liftExcept _) fun builder => ?_
            exact (movesSession_addBuilder builder).answering
          · refine .bind (movesSession_liftExcept _) fun _ => ?_
            exact .bind (movesSession_build number) fun _ => movesSession_pure _
          · refine .bind (movesSession_liftExcept _) fun _ => ?_
            exact .bind (movesSession_build number) fun _ => movesSession_pure _
          · refine .bind (movesSession_liftExcept _) fun _ => ?_
            exact .bind (movesSession_build number) fun _ => movesSession_pure _
          · refine .bind (movesSession_liftExcept _) fun _ => ?_
            exact .bind (movesSession_snapshotOf number) fun _ =>
              movesSession_pure _
          · exact movesSession_throw _
          · exact movesSession_throw _

/-! ## Terms and steps -/

section Levels

variable {fuel : Nat}
variable (hevaluate : ∀ scope term, MovesSession (evaluate fuel scope term))

include hevaluate

theorem movesSession_operands (scope : List Object) (terms : List Term) :
    MovesSession (terms.mapM fun term => do
      return (← evaluate fuel scope term).toOperand) :=
  movesSession_mapM (fun term =>
    (hevaluate scope term).bind fun _ => movesSession_pure _) terms

theorem movesSession_evaluateAll (scope : List Object)
    (positional : List Term) (named : List (String × Term)) :
    MovesSession (evaluateAll (fuel + 1) scope positional named) := by
  rw [evaluateAll]
  refine .bind (movesSession_mapM (hevaluate scope) positional)
    fun values => ?_
  refine .bind (movesSession_mapM (fun entry => ?_) named)
    fun _ => movesSession_pure _
  exact (hevaluate scope entry.2).bind fun _ => movesSession_pure _

variable (hevaluateAll : ∀ scope positional named,
  MovesSession (evaluateAll fuel scope positional named))

include hevaluateAll

theorem movesSession_evaluate
    (hrunAll : ∀ scope current steps,
      MovesSession (runAll fuel scope current steps))
    (scope : List Object) (term : Term) :
    MovesSession (evaluate (fuel + 1) scope term) := by
  rw [evaluate.eq_def]
  have hoperands := movesSession_operands hevaluate scope
  cases term with
  | scalar value => exact movesSession_pure _
  | list items | tuple items =>
      exact (hoperands items).bind fun _ => movesSession_pure _
  | map entries => exact (hoperands _).bind fun _ => movesSession_pure _
  | apply function positional named =>
      refine (hevaluateAll scope positional named).bind fun arguments => ?_
      exact movesSession_liftExcept _
  | helper group name positional named =>
      refine (hevaluateAll scope positional named).bind fun arguments => ?_
      refine .bind keepsSession_records.movesSession fun look => ?_
      exact (movesSession_liftExcept _).bind fun _ => movesSession_pure _
  | model name contents =>
      refine (hevaluate scope contents).bind fun contents => ?_
      exact movesSession_liftExcept _
  | script steps =>
      refine (movesSession_addBuilder {}).bind fun start => ?_
      refine .bind (hrunAll scope start steps).forgettingNames fun handle => ?_
      cases handle <;> exact movesSession_pure _
  | closure body => exact movesSession_pure _
  | argument position => exact movesSession_liftOption _ _
  | saved name =>
      refine (movesSession_load name).bind fun handle => ?_
      cases handle <;> exact movesSession_pure _
  | chain subject step =>
      obtain ⟨method, positional, named⟩ := step
      refine (hevaluate scope subject).bind fun object => ?_
      refine (hevaluateAll scope positional named).bind fun arguments => ?_
      refine .bind keepsSession_records.movesSession fun look => ?_
      exact movesSession_liftExcept _

theorem movesSession_runStep (scope : List Object) (current : Handle)
    (step : Step) : MovesSession (runStep (fuel + 1) scope current step) := by
  obtain ⟨method, positional, named⟩ := step
  rw [runStep]
  refine (hevaluateAll scope positional named).bind fun arguments => ?_
  simp only
  split
  · split
    · refine .bind (movesSession_liftExcept _) fun _ => ?_
      refine movesSession_session fun session => ?_
      refine (hevaluate _ _).bind fun result => ?_
      exact movesSession_runPlain _ _ _
    · exact movesSession_runPlain _ _ _
  · split
    · refine .bind (movesSession_liftExcept _) fun _ => ?_
      refine (hevaluate _ _).bind fun result => ?_
      exact movesSession_runPlain _ _ _
    · exact movesSession_throw _
  · exact movesSession_runPlain _ _ _

end Levels

theorem movesSession_runAll {fuel : Nat}
    (hrunStep : ∀ scope current step,
      MovesSession (runStep fuel scope current step))
    (scope : List Object) (current : Handle) (steps : List Step) :
    MovesSession (runAll (fuel + 1) scope current steps) := by
  rw [runAll]
  refine movesSession_foldlM (fun current step => ?_) steps current
  exact (hrunStep scope current step).bind fun _ => movesSession_pure _

/-- Terms, steps and nested scripts move the session, by induction on the fuel. -/
theorem movesSession_levels (fuel : Nat) :
    (∀ scope term, MovesSession (evaluate fuel scope term)) ∧
      (∀ scope positional named,
        MovesSession (evaluateAll fuel scope positional named)) ∧
      (∀ scope current step, MovesSession (runStep fuel scope current step)) ∧
      ∀ scope current steps,
        MovesSession (runAll fuel scope current steps) := by
  induction fuel with
  | zero =>
      refine ⟨fun scope term => ?_, fun scope positional named => ?_,
        fun scope current step => ?_, fun scope current steps => ?_⟩
      · rw [evaluate]
        exact movesSession_throw _
      · rw [evaluateAll]
        exact movesSession_throw _
      · rw [runStep]
        exact movesSession_throw _
      · rw [runAll]
        exact movesSession_throw _
  | succ fuel hfuel =>
      obtain ⟨hevaluate, hevaluateAll, hrunStep, hrunAll⟩ := hfuel
      exact ⟨movesSession_evaluate hevaluate hevaluateAll hrunAll,
        movesSession_evaluateAll hevaluate,
        movesSession_runStep hevaluate hevaluateAll,
        movesSession_runAll hrunStep⟩

/-- A step of a script changes the session by moves only. -/
theorem movesSession_perform (current : Handle) (step : Step) :
    MovesSession (perform current step) :=
  (movesSession_levels _).2.2.1 [] current step

end Script

end ArangoQuery
