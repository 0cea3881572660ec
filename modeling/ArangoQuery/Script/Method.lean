import ArangoQuery.Builder.Function
import ArangoQuery.Check.Model
import ArangoQuery.Script.Term
import ArangoQuery.Snapshot.Dump

/-!
# Functions and methods by name

The functions that start an expression, the methods that extend one, and the
calls on builders and stages, each with its signature.
-/

namespace ArangoQuery

/-- A parameter that has to be given. -/
def Parameter.required (name : String) : Parameter :=
  { name }

/-- A parameter that is null unless it is given. -/
def Parameter.optional (name : String) : Parameter :=
  { name, default := some .null }

open Parameter

/-- A signature in which every parameter has to be given. -/
def Signature.ofNames (names : List String) : Signature :=
  { parameters := names.map required }

namespace Arguments

/-- Arguments by their parameters, or a type error. -/
def assign (arguments : Arguments (Operand Nat)) (signature : Signature) :
    Except Error (Assignment (Operand Nat)) :=
  match signature.bind .scalar arguments with
  | some assignment => .ok assignment
  | none => .error (.type .mismatch)

/-- The single argument of a function. -/
def only (arguments : Arguments (Operand Nat)) (name : String) :
    Except Error (Operand Nat) := do
  match (← arguments.assign (.ofNames [name])).values with
  | [value] => return value
  | _ => throw (.type .mismatch)

/-- The absence of arguments. -/
def none (arguments : Arguments (Operand Nat)) : Except Error Unit := do
  discard (arguments.assign {})

end Arguments

mutual

/-- Plain data as an operand. -/
def Operand.ofValue : Value → Operand Nat
  | .scalar value => .scalar value
  | .list items => .list (Operand.ofValues items)
  | .tuple items => .tuple (Operand.ofValues items)
  | .map entries => .map (Operand.ofEntries entries)
  | value => .other value

def Operand.ofValues : List Value → List (Operand Nat)
  | [] => []
  | value :: rest => Operand.ofValue value :: Operand.ofValues rest

def Operand.ofEntries :
    List (Scalar × Value) → List (Scalar × Operand Nat)
  | [] => []
  | (key, value) :: rest =>
      (key, Operand.ofValue value) :: Operand.ofEntries rest

end

namespace Script

variable (look : Nat → Query)

def literal (operand : Operand Nat) : Expr :=
  .literal operand.plain

/-- A typed record, or the expression that it is. -/
def modelObject (name : String) (contents : Operand Nat) :
    Except Error Object :=
  match contents.raw.checkAs? name with
  | none => .error .attribute
  | some (.rejected faults) => .error (.invalidModel name faults)
  | some (.ok value) =>
      match NodeKind.ofModelName? name, (Expr.check value).value? with
      | some _, some expr => .ok (.operand (.bare expr))
      | _, _ =>
          if name = "ExpressionNode" then
            .ok (.operand (.bare (.stray value)))
          else .ok (.operand (.other value))

/-- What a wrapped operand is an expression of. -/
def wrapped : Operand Nat → Expr
  | .bare expr => expr
  | operand => .stray operand.raw

def rangeObject (first last : Operand Nat) : Except Error Object := do
  let source : Source Expr ←
    ((fun first last => .range first last) <$> Check.int first.raw <*>
      Check.int last.raw).orInvalid "RangeSource"
  return .operand (.other source.describeFully)

/-- The functions that start an expression. -/
def applyFunction (function : String)
    (arguments : Arguments (Operand Nat)) : Except Error Object := do
  match function with
  | "ref" =>
      return .built (← Expr.ofPath (← arguments.only "name").raw)
  | "param" =>
      return .built
        (← Expr.ofParameter false (← arguments.only "name").raw)
  | "collection_param" =>
      return .built (← Expr.ofParameter true (← arguments.only "name").raw)
  | "literal" =>
      return .built (literal (← arguments.only "value"))
  | "current" =>
      arguments.none
      return .built (.reference "CURRENT")
  | "old" =>
      return .built (Expr.oldProperty (← arguments.only "name").raw)
  | "range" =>
      match (← arguments.assign (.ofNames ["start", "end"])).values with
      | [first, last] => rangeObject first last
      | _ => throw (.type .mismatch)
  | "wrap" => return .built (wrapped (← arguments.only "node"))
  | _ => throw .attribute

def binaryMethods : List (String × String × BinaryOperator) :=
  [("eq", "value", .equal), ("neq", "value", .notEqual),
    ("lt", "value", .less), ("lte", "value", .lessOrEqual),
    ("gt", "value", .greater), ("gte", "value", .greaterOrEqual),
    ("and_", "other", .and), ("or_", "other", .or), ("add", "value", .add),
    ("sub", "value", .subtract), ("times", "value", .multiply),
    ("div", "value", .divide), ("mod", "value", .modulo),
    ("in_", "values", .isIn), ("not_in", "values", .notIn)]

/-- The data of an expression, with unset fields as nulls. -/
def exprData (expr : Expr) : Except Error Value :=
  match expr with
  | .stray (.model name fields) =>
      match Value.dump? .everyField (.model name fields) with
      | some value => .ok value
      | none => .error .unserializable
  | .stray _ => .error .attribute
  | expr =>
      match expr.describe.dump? .everyField with
      | some value => .ok value
      | none => .error .unserializable

/-- The methods of an expression. -/
def callBuilt (expr : Expr) (method : String)
    (arguments : Arguments (Operand Nat)) : Except Error Object := do
  match binaryMethods.find? (·.1 == method) with
  | some (_, parameter, operator) =>
      let right ← (← arguments.only parameter).toExpr look
      return .built (← Expr.combine operator expr right)
  | none =>
      match method with
      | "get" | "[]" =>
          return .built (← expr.property (← arguments.only "name").raw)
      | "not_" =>
          arguments.none
          return .built (← expr.apply .not)
      | "negate" =>
          arguments.none
          return .built (← expr.apply .negate)
      | "like" =>
          let signature : Signature :=
            { parameters :=
                [required "pattern",
                  { name := "case_insensitive",
                    default := some (.bool false) }] }
          match (← arguments.assign signature).values with
          | [pattern, ignoreCase] =>
              return .built (← expr.like pattern.raw ignoreCase.raw)
          | _ => throw (.type .mismatch)
      | "regex" =>
          let signature : Signature :=
            { parameters := [required "pattern", optional "flags"] }
          match (← arguments.assign signature).values with
          | [pattern, flags] =>
              return .built (← expr.regex pattern.raw flags.raw)
          | _ => throw (.type .mismatch)
      | "all" =>
          let condition ← (← arguments.only "condition").toExpr look
          return .built (← expr.quantify .all condition)
      | "any" =>
          let condition ← (← arguments.only "condition").toExpr look
          return .built (← expr.quantify .any condition)
      | "then" =>
          return .pending expr (← (← arguments.only "value").toExpr look)
      | "to_json" =>
          arguments.none
          return .operand (.ofValue (← exprData expr))
      | "node" => throw (.type .mismatch)
      | _ => throw .attribute

/-- The methods of objects other than builders and stages. -/
def callObject (object : Object) (method : String)
    (arguments : Arguments (Operand Nat)) : Except Error Object := do
  match object, method with
  | .operand (.built expr), method => callBuilt look expr method arguments
  | .pending condition thenValue, "else_" =>
      let elseValue ← (← arguments.only "value").toExpr look
      return .built (← Expr.choose condition thenValue elseValue)
  | .previous, "field" | .previous, "[]" =>
      return .built (Expr.oldProperty (← arguments.only "name").raw)
  | _, _ => throw .attribute

/-- A method of a builder or of a stage: its signature, and the call that the
assigned arguments make. -/
structure Method (κ : Type) where
  signature : Signature
  call : Assignment (Operand Nat) → Option κ

def unaryMethod {κ : Type} (parameter : String)
    (call : Operand Nat → κ) : Method κ where
  signature := .ofNames [parameter]
  call
    | { values := [value], .. } => some (call value)
    | _ => none

def binaryMethod {κ : Type} (parameters : List Parameter)
    (call : Operand Nat → Operand Nat → κ) : Method κ where
  signature := { parameters }
  call
    | { values := [first, second], .. } => some (call first second)
    | _ => none

/-- The direction of a sort, ascending unless it is given. -/
def sortDirection : Parameter :=
  { name := "direction", default := some (.text "ASC") }

def builderMethod? (method : String) : Option (Method (Call Nat)) :=
  match method with
  | "with_" =>
      some
        { signature := { rest := true },
          call := fun assignment => some (.useCollections assignment.rest) }
  | "for_" => some (unaryMethod "variable" .loop)
  | "in_" => some (unaryMethod "source" .source)
  | "in_edge" => some (unaryMethod "collection" .source)
  | "join" =>
      some (binaryMethod [required "collection", required "variable"] .join)
  | "in_graph" =>
      some
        { signature :=
            { parameters :=
                [required "graph", required "direction",
                  required "start_vertex",
                  { name := "min_depth", default := some (.int 1) },
                  optional "max_depth", optional "options"] },
          call := fun
            | { values :=
                  [graph, direction, vertex, minDepth, maxDepth, options],
                .. } =>
                some (.graph graph direction vertex minDepth maxDepth options)
            | _ => none }
  | "for_multiple" =>
      some
        { signature :=
            { parameters :=
                [required "vertex", optional "edge", optional "path"] },
          call := fun
            | { values := [vertex, edge, path], .. } =>
                some (.loops vertex edge path)
            | _ => none }
  | "filter" => some (unaryMethod "condition" .filter)
  | "let" => some (binaryMethod [required "name", required "value"] .declare)
  | "sort" => some (binaryMethod [required "field", sortDirection] .sort)
  | "insert" => some (unaryMethod "document" .insert)
  | "replace" =>
      some (binaryMethod [required "variable", optional "document"] .replace)
  | "remove" => some (unaryMethod "variable" .remove)
  | "update" =>
      some (binaryMethod [required "variable", required "document"] .update)
  | "into" => some (unaryMethod "collection" .into)
  | "update_with" =>
      some
        { signature :=
            { parameters :=
                [required "document", required "updates",
                  optional "collection"] },
          call := fun
            | { values := [document, updates, collection], .. } =>
                some (.updateWith document updates collection false)
            | _ => none }
  | "update_with_old" =>
      some
        { signature :=
            { parameters :=
                [required "document", required "updates_fn",
                  optional "collection"] },
          call := fun
            | { values := [document, updates, collection], .. } =>
                some (.updateWith document updates collection true)
            | _ => none }
  | "search" =>
      some
        { signature :=
            { parameters := [required "view"], rest := true,
              named := [optional "options"] },
          call := fun
            | { values := [view], rest, named := [options], .. } =>
                some (.search view rest options)
            | _ => none }
  | "traverse" =>
      some
        { signature :=
            { parameters :=
                [required "variable", required "path", optional "max_depth",
                  optional "min_depth"] },
          call := fun
            | { values := [loop, path, maxDepth, minDepth], .. } =>
                some (.traverse loop path maxDepth minDepth)
            | _ => none }
  | "prune" => some (unaryMethod "condition" .prune)
  | "window" =>
      some
        { signature :=
            { parameters :=
                [required "preceding", required "following",
                  required "aggregation", optional "name"] },
          call := fun
            | { values := [preceding, following, aggregation, name], .. } =>
                some (.window preceding following aggregation name)
            | _ => none }
  | "return_" =>
      some
        (binaryMethod
          [required "value",
            { name := "distinct", default := some (.bool false) }]
          .result)
  | "limit" =>
      some (binaryMethod [required "count", optional "offset"] .limit)
  | "offset" => some (unaryMethod "count" .offset)
  | "paginate" =>
      some (binaryMethod [required "page", required "page_size"] .paginate)
  | _ => none

def aggregateMethod (function : String) : Method (StageCall Nat) :=
  binaryMethod [required "name", required "expression"] (.aggregate function)

/-- Rows are counted unless an expression is given. -/
def countMethod : Method (StageCall Nat) :=
  binaryMethod [required "name", optional "expression"]
    fun name expression =>
      .aggregate "COUNT" name
        (match expression with
          | .null => .bare (.reference "1")
          | expression => expression)

def sortMethod : Method (StageCall Nat) :=
  binaryMethod [required "field", sortDirection] .sort

/-- The methods that a stage has. -/
def stageMethod? (stage : Stage Nat) (method : String) :
    Option (Method (StageCall Nat)) :=
  match stage, method with
  | .collect .., "count" => some countMethod
  | .collect .., "sum" => some (aggregateMethod "SUM")
  | .collect .., "average" => some (aggregateMethod "AVERAGE")
  | .collect .., "min" => some (aggregateMethod "MIN")
  | .collect .., "max" => some (aggregateMethod "MAX")
  | .collect .., "build" =>
      some { signature := {}, call := fun _ => some .finish }
  | .collect .., "into" => some (unaryMethod "group_name" .into)
  | .collect .., "sort" => some sortMethod
  | .collectKeep .., "into" => some (unaryMethod "group_name" .into)
  | .collectKeep .., "aggregate" =>
      some
        { signature := { extra := true },
          call := fun assignment => some (.aggregateAll assignment.extra) }
  | .collectKeep .., "sort" => some sortMethod
  | .upsertInsert _, "insert" => some (unaryMethod "insert_doc" .insert)
  | .upsertUpdate .., "update" => some (unaryMethod "update_doc" .update)
  | .upsertInto .., "into" => some (unaryMethod "collection" .into)
  | _, _ => none

/-- What a stage is called. -/
def stageName : Stage Nat → String
  | .collect .. => "CollectBuilder"
  | .collectKeep .. => "CollectKeepBuilder"
  | .upsertInsert _ => "UpsertBuilder"
  | .upsertUpdate .. => "UpsertUpdateBuilder"
  | .upsertInto .. => "UpsertIntoBuilder"

/-- The call that arguments make. -/
def Method.apply {κ : Type} (method : Method κ)
    (arguments : Arguments (Operand Nat)) : Except Error κ := do
  match method.call (← arguments.assign method.signature) with
  | some call => return call
  | none => throw (.type .mismatch)

end Script

end ArangoQuery
