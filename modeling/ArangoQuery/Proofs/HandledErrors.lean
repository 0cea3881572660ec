import ArangoQuery.Diagnostics.Build

/-!
# Handled errors

An error that leaves a guarded function is logged at its own level, or else at the
level of the guard, with the context of the error under names that do not collide.
That context is left with the error under way again if the guard raises it again,
and then it is reported as if it had come up in the meantime.  So one event is
logged exactly if the guard swallows the error (`Guard.logged_once_iff`).  Under
several guards each one that raises the error again adds two events
(`Guard.logged_under_guards`), and a build is such a function
(`Query.buildLogged_eq_run`).
-/

namespace ArangoQuery

/-! ## The context of an error -/

/-- No two things that are known about an error have one name. -/
theorem Incident.nodup_fields (incident : Incident) :
    (incident.fields.map Prod.fst).Nodup := by
  obtain ⟨kind, message, report⟩ := incident
  rcases report with _ | ⟨code, level, source, operation, breach⟩
  · simp [fields]
  · cases breach <;> simp [fields, ErrorDetails.fields]

namespace ErrorContext

/-- The context of an error about which nothing else is given. -/
def ofIncident (incident : Incident) : ErrorContext where
  incident := incident
  traceId := none
  circumstances := []

theorem ofCircumstances_nil (incident : Incident) :
    ofCircumstances incident [] = .ok (ofIncident incident) :=
  rfl

theorem fields_ofIncident (incident : Incident) :
    (ofIncident incident).fields = incident.fields := by
  simp [fields, ofIncident]

/-- What is logged as a context is left: an error that is under way then, also if
it is the one that the context is about. -/
def leave (_context : ErrorContext) : Option Incident → List Event
  | none => []
  | some underWay =>
      [.plain ("Exception during error context handling: " ++ underWay.kind ++
        ": " ++ underWay.message)]

/-- Only an end without any error goes unreported. -/
theorem leave_eq_nil_iff (context : ErrorContext) (underWay : Option Incident) :
    context.leave underWay = [] ↔ underWay = none := by
  cases underWay <;> simp [leave]

end ErrorContext

/-! ## What a guard logs -/

namespace Guard

variable {ε α : Type} (guard : Guard) (incidentOf : ε → Incident)

/-- The event that shows the error of a context: at its own level or else at that of
the guard, with everything that is known about it. -/
def report (context : ErrorContext) : Event :=
  .structured
    ("Error in " ++ guard.function ++ ": " ++ context.incident.message)
    ((context.incident.report.map (·.level)).getD guard.level)
    (("extra", .ofFields
        [("function", .text guard.function),
          ("error_context", .ofFields context.fields)]) ::
      if context.incident.report.isSome then []
      else [("exc_info", .bool true)])

/-- The error that is under way as the context is left. -/
def underWay (incident : Incident) : Option Incident :=
  if guard.reraise then some incident else none

theorem events_eq (incident : Incident) :
    guard.events incident =
      guard.report (.ofIncident incident) ::
        (ErrorContext.ofIncident incident).leave (guard.underWay incident) := by
  rw [events, report, ErrorContext.fields_ofIncident, underWay]
  congr 1
  · obtain ⟨kind, message, report⟩ := incident
    cases report <;> rfl
  · cases guard.reraise <;> rfl

theorem length_events (incident : Incident) :
    (guard.events incident).length = if guard.reraise then 2 else 1 := by
  rw [events_eq, underWay]
  cases guard.reraise <;> rfl

/-- A guard logs an error with its context, at the level of the error or else at
its own, and raises it again or swallows it.  As the context is left, any error that
is under way is reported.  An error that is raised again is under way then, so it is
logged once more, and there is one event exactly if the guard swallows the error. -/
theorem logged_once_iff (error : ε) (logged : List Event) :
    ∃ context after,
      ErrorContext.ofCircumstances (incidentOf error) [] = .ok context ∧
        (context.fields.map Prod.fst).Nodup ∧
        after = guard.report context ::
          context.leave (guard.underWay (incidentOf error)) ∧
        guard.run incidentOf
            ((.error error, logged) : Except ε (Option α) × List Event) =
          (if guard.reraise then .error error else .ok none, logged ++ after) ∧
        (after.length = 1 ↔ guard.reraise = false) ∧
        ∀ underWay, context.leave underWay = [] ↔ underWay = none := by
  refine ⟨_, _, ErrorContext.ofCircumstances_nil (incidentOf error), ?_, rfl,
    ?_, ?_, ErrorContext.leave_eq_nil_iff _⟩
  · rw [ErrorContext.fields_ofIncident]
    exact (incidentOf error).nodup_fields
  · rw [run, events_eq]
  · rw [← events_eq, length_events]
    cases guard.reraise <;> simp

/-- An error that a guard raises again is logged twice, a build that fails among
others. -/
theorem reraised_error_logged_twice :
    (∃ events,
      Guard.run { function := "guarded" } id
          ((.error { kind := "RuntimeError", message := "boom" }, []) :
            Except Incident (Option Unit) × List Event) =
        (.error { kind := "RuntimeError", message := "boom" }, events) ∧
      events =
        [.structured "Error in guarded: boom" .error
          [("extra", .ofFields
              [("function", .text "guarded"),
                ("error_context", .ofFields
                  [("error_type", .text "RuntimeError"),
                    ("error_message", .text "boom")])]),
            ("exc_info", .bool true)],
          .plain
            "Exception during error context handling: RuntimeError: boom"]) ∧
    ∃ reported,
      (Query.buildLogged {} { loop := some (.proper "u") }).2 =
        [reported, .plain ("Exception during error context handling: " ++
          "ConfigurationError: FOR u requires an IN clause")] := by
  exact ⟨⟨_, rfl, rfl⟩, _, rfl⟩

/-- Runs a function under several guards, the innermost first. -/
def runAll (guards : List Guard)
    (outcome : Except ε (Option α) × List Event) :
    Except ε (Option α) × List Event :=
  guards.foldl (fun outcome guard => guard.run incidentOf outcome) outcome

theorem runAll_ok (guards : List Guard) (result : Option α)
    (logged : List Event) :
    runAll incidentOf guards
        ((.ok result, logged) : Except ε (Option α) × List Event) =
      (.ok result, logged) := by
  induction guards with
  | nil => rfl
  | cons guard guards hguards => exact hguards

/-- Each guard that raises an error again adds two events, and the first one that
swallows it adds one. -/
theorem logged_under_guards (guards : List Guard) (error : ε)
    (logged : List Event) :
    ∃ after,
      runAll incidentOf guards
          ((.error error, logged) : Except ε (Option α) × List Event) =
        (if guards.all (·.reraise) then .error error else .ok none,
          logged ++ after) ∧
      after.length = 2 * (guards.takeWhile (·.reraise)).length +
        if guards.all (·.reraise) then 0 else 1 := by
  induction guards generalizing logged with
  | nil => exact ⟨[], by simp [runAll], rfl⟩
  | cons guard guards hguards =>
      have hlength := guard.length_events (incidentOf error)
      have hrun : runAll incidentOf (guard :: guards)
          ((.error error, logged) : Except ε (Option α) × List Event) =
          runAll incidentOf guards
            (if guard.reraise then .error error else .ok none,
              logged ++ guard.events (incidentOf error)) := rfl
      cases hreraise : guard.reraise with
      | false =>
          refine ⟨guard.events (incidentOf error), ?_, ?_⟩
          · simp [hrun, hreraise, runAll_ok]
          · simp [hlength, hreraise]
      | true =>
          obtain ⟨after, hafter, hcount⟩ :=
            hguards (logged ++ guard.events (incidentOf error))
          refine ⟨guard.events (incidentOf error) ++ after, ?_, ?_⟩
          · simp [hrun, hreraise, hafter]
          · simp [hlength, hreraise, hcount]
            omega

end Guard

/-- A build is a compilation under a guard. -/
theorem Query.buildLogged_eq_run (settings : Settings) (query : Query) :
    ((query.buildLogged settings).1.map some, (query.buildLogged settings).2) =
      buildGuard.run Error.incident
        ((query.compileLogged settings).1.map some,
          (query.compileLogged settings).2) := by
  rw [buildLogged]
  rcases query.compileLogged settings with ⟨error | compiled, events⟩ <;> rfl

end ArangoQuery
