import ArangoQuery.Diagnostics.Incident

/-!
# Logged events

An error that leaves a guarded function is logged with everything known about it,
and either raised again or swallowed.  Raising it again while it is being handled
is logged once more, as plain text.
-/

namespace ArangoQuery

inductive Event where
  | structured (event : String) (level : ErrorLevel)
      (fields : List (String × Value))
  /-- A line of plain text. -/
  | plain (text : String)

/-- Everything known about an error and about the circumstances it arose in. -/
structure ErrorContext where
  incident : Incident
  /-- The identifier given by the caller, if any. -/
  traceId : Option Value
  circumstances : List (String × Value)

namespace ErrorContext

def fields (context : ErrorContext) : List (String × Value) :=
  context.incident.fields ++
    (match context.traceId with
      | some identifier => [("trace_id", identifier)]
      | none => []) ++
    context.circumstances.map fun (name, value) => ("context." ++ name, value)

/-- Takes the identifier out of the circumstances; an empty one does not
count. -/
def ofCircumstances (incident : Incident)
    (circumstances : List (String × Value)) : Except Error ErrorContext :=
  if circumstances.any fun (name, _) => name == "error" || name == "self" then
    .error (.type .mismatch)
  else
    let given := lookupEntry (· == ·) "trace_id" circumstances
    let traceId := given.filter Value.isTrue
    if traceId.any (!Value.isHashable ·) then .error (.type .mismatch)
    else
      .ok
        { incident, traceId,
          circumstances := circumstances.filter (·.1 != "trace_id") }

end ErrorContext

/-- How the errors of a function are handled. -/
structure Guard where
  function : String
  /-- The level of errors that have none of their own. -/
  level : ErrorLevel := .error
  reraise : Bool := true

namespace Guard

/-- What is logged when an error leaves the function. -/
def events (guard : Guard) (incident : Incident) : List Event :=
  let context :=
    Value.ofFields
      [("function", .text guard.function),
        ("error_context", .ofFields incident.fields)]
  let message := "Error in " ++ guard.function ++ ": " ++ incident.message
  let handled : Event :=
    match incident.report with
    | some report =>
        .structured message report.level [("extra", context)]
    | none =>
        .structured message guard.level
          [("extra", context), ("exc_info", .bool true)]
  handled ::
    if guard.reraise then
      [.plain ("Exception during error context handling: " ++ incident.kind ++
        ": " ++ incident.message)]
    else []

/-- What a guarded function comes to, and what is logged by then.  A swallowed
error leaves no result. -/
def run {ε α : Type} (guard : Guard) (incidentOf : ε → Incident) :
    Except ε (Option α) × List Event → Except ε (Option α) × List Event
  | (.ok result, logged) => (.ok result, logged)
  | (.error error, logged) =>
      (if guard.reraise then .error error else .ok none,
        logged ++ guard.events (incidentOf error))

end Guard

end ArangoQuery
