import ArangoQuery.Check.Node
import ArangoQuery.Fault.Details
import ArangoQuery.Query.Description

/-!
# Typed records by name

`Value.checkAs?` checks plain data against the typed record of a given name and
returns its description.  Records that are no part of a query, such as error
details and settings, ignore undeclared fields; all others refuse them.
-/

namespace ArangoQuery

open Check

namespace ErrorDetails

def checkBreach (members : Members) : Checked Breach :=
  (fun field actual expected constraint =>
      { field, actual, expected, constraint }) <$>
    members.optional (.same "field") text <*>
    members.withDefault (.same "actual_value") .null anything <*>
    members.optional (.same "expected_type") text <*>
    members.optional (.same "constraint") text

/-- Details without and with what failed a check. -/
def checkMembers (hasBreach : Bool) (members : Members) :
    Checked ErrorDetails :=
  (fun source operation breach => { source, operation, breach }) <$>
    members.required (.same "source") text <*>
    members.required (.same "operation") text <*>
    (if hasBreach then some <$> checkBreach members else .ok none)

def modelName (hasBreach : Bool) : String :=
  if hasBreach then "ValidationErrorDetails" else "ErrorDetails"

def describe (details : ErrorDetails) : Value :=
  .model (modelName details.breach.isSome)
    (details.fields.map fun (name, value) => (.same name, value))

end ErrorDetails

/-- What governs diagnostics. -/
structure Settings where
  debug : Bool := false
  logLevel : String := "INFO"
  logQueries : Bool := false
  forwarding : Bool := false
  deriving DecidableEq, Repr

namespace Settings

def check (members : Members) : Checked Settings :=
  (fun debug logLevel logQueries forwarding =>
      { debug, logLevel, logQueries, forwarding }) <$>
    members.withDefault (.same "debug") false bool <*>
    members.withDefault (.same "log_level") "INFO" text <*>
    members.withDefault (.same "log_queries") false bool <*>
    members.withDefault (.same "logfire_enabled") false bool

def describe (settings : Settings) : Value :=
  .model "Settings"
    [(.same "debug", .bool settings.debug),
      (.same "log_level", .text settings.logLevel),
      (.same "log_queries", .bool settings.logQueries),
      (.same "logfire_enabled", .bool settings.forwarding)]

end Settings

/-- A record without fields of its own. -/
def Check.blank (name : String) : Value → Checked Value :=
  model name [] fun _ => .ok (.model name [])

/-- A record that takes undeclared fields without looking at them. -/
def Check.lenient {α : Type} (name : String) (check : Members → Checked α)
    (value : Value) : Checked α :=
  match Members.ofValue? name value with
  | some members => check members
  | none => .rejected 1

namespace Value

/-- The check for the typed record with a given name, which yields the
description of what was read. -/
def checkFor? (sub : Value → Checked Expr) (name : String) :
    Option (Value → Checked Value) :=
  let describing {α : Type} (check : Value → Checked α)
      (describe : α → Value) : Option (Value → Checked Value) :=
    some fun value => (check value).map describe
  let named (check : Value → Checked (String × Expr))
      (describe : String × Value → Value) : Option (Value → Checked Value) :=
    describing check fun (part, expr) => describe (part, expr.describe)
  match name with
  | "RangeSource" => describing Source.checkRange Source.describeFully
  | "GraphSource" => describing (Source.checkGraph sub) Source.describeFully
  | "JoinClause" =>
      describing (Join.check sub) fun join =>
        (join.map Expr.describe).describe
  | "LetClause" => named (checkLet sub) describeLet
  | "CollectVariable" => named (checkVariable sub) describeVariable
  | "CollectAggregate" => named (checkAggregate sub) describeAggregate
  | "CollectClause" =>
      describing (Collect.check sub) fun collect =>
        (collect.map Expr.describe).describe
  | "SortClause" => describing SortKey.check SortKey.describe
  | "OperationClause" =>
      describing (Operation.check sub) fun operation =>
        (operation.map Expr.describe).describe
  | "UpsertClause" =>
      describing (Upsert.check sub) fun upsert =>
        (upsert.map Expr.describe).describe
  | "UpdateEnhancedClause" =>
      describing (Update.check sub) fun update =>
        (update.map Expr.describe).describe
  | "MultipleLoopVars" => describing LoopNames.check LoopNames.describe
  | "SearchClause" =>
      describing (Search.check sub) fun search =>
        (search.map Expr.describe).describe
  | "TraverseClause" => describing Traversal.check Traversal.describe
  | "PruneClause" =>
      describing (checkPrune sub) fun condition =>
        describePrune condition.describe
  | "WindowClause" =>
      describing (Window.check sub) fun window =>
        (window.map Expr.describe).describe
  | "QueryRecord" => describing (Record.check sub) Query.describe
  | "ErrorDetails" =>
      describing (Check.lenient name (ErrorDetails.checkMembers false))
        ErrorDetails.describe
  | "ValidationErrorDetails" =>
      describing (Check.lenient name (ErrorDetails.checkMembers true))
        ErrorDetails.describe
  | "Settings" =>
      describing (Check.lenient name Settings.check) Settings.describe
  | "ExpressionNode" => some (Check.blank name)
  | "ClauseModel" => some (Check.blank name)
  | "SourcePattern" => some (Check.blank name)
  | name =>
      match NodeKind.ofModelName? name with
      | some kind =>
          describing (Node.checkKind sub kind) fun node =>
            (Expr.of node).describe
      | none => none

/-- Checks a value against the typed record with a given name. -/
def checkAs? (name : String) (value : Value) : Option (Checked Value) :=
  (checkFor? (Expr.checkWithin value.depth) name).map fun check => check value

end Value

end ArangoQuery
