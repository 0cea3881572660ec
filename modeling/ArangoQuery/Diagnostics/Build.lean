import ArangoQuery.Diagnostics.Event
import ArangoQuery.Diagnostics.Settings
import ArangoQuery.Rendering.Compiled

/-!
# Logged compilation

Compiling logs the number of clauses and of bound values, and the text if the
settings ask for it; the values themselves are never logged.
-/

namespace ArangoQuery

namespace Query

/-- What is logged about a query that has been compiled. -/
def compileEvents (settings : Settings) (query : Query)
    (compiled : CompiledQuery) : List Event :=
  if query.raw.isSome then []
  else
    let counts : List (String × Value) :=
      [("clauses", .int query.clauseCount),
        ("bind_vars", .int compiled.bindings.length)]
    if settings.logQueries then
      [.structured "Compiled AQL query" .debug
        (counts ++ [("query", .text compiled.text)])]
    else if settings.debug then
      [.structured "Compiled AQL query" .debug counts]
    else []

def compileLogged (settings : Settings) (query : Query) :
    Except Error CompiledQuery × List Event :=
  match query.compile with
  | .ok compiled => (.ok compiled, query.compileEvents settings compiled)
  | .error error => (.error error, [])

def buildGuard : Guard := { function := "build" }

/-- Compiles a query and logs the error if that fails. -/
def buildLogged (settings : Settings) (query : Query) :
    Except Error CompiledQuery × List Event :=
  match query.compileLogged settings with
  | (.error error, events) =>
      (.error error, events ++ buildGuard.events error.incident)
  | result => result

/-- Restores a query from a snapshot, and logs a rejected one. -/
def restoreLogged (restored : Checked Query) :
    Except Error Query × List Event :=
  match restored with
  | .ok query => (.ok query, [])
  | .rejected faults =>
      (.error (.snapshotRejected faults),
        [.structured "Rejected query snapshot" .warning
          [("errors", .int faults)]])

end Query

end ArangoQuery
