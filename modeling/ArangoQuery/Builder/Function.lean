import ArangoQuery.Builder.Combinator
import ArangoQuery.Builder.Signature

/-!
# The catalogue of query functions

Each helper stands for a call of one query function.  An entry of the catalogue
says how every parameter of the helper becomes an argument of the call.  Helpers
come in groups: general ones take operands, most of the others take the subject of
the call as a path and the rest as literals.
-/

namespace ArangoQuery

/-- How a parameter of a helper becomes arguments of the call. -/
inductive ParameterMode where
  /-- Any operand; texts are literals. -/
  | operand
  /-- Texts are paths. -/
  | subject
  /-- A literal, whatever is given. -/
  | literal
  /-- An operand, unless it is null. -/
  | operandIfGiven
  /-- A literal, unless it is null. -/
  | literalIfGiven
  /-- A literal, unless it counts as absent. -/
  | literalIfPresent
  /-- The literal `true`, if the parameter is true. -/
  | flag
  /-- What is counted: every row, if it is null. -/
  | counted
  /-- A word for the sides of a text, which the call writes as a number. -/
  | side
  /-- The end of a text, as a pattern. -/
  | suffixPattern
  deriving DecidableEq

/-- The groups that helpers belong to.  General helpers take operands. -/
inductive FunctionGroup where
  | general
  | date
  | text
  | array
  | math
  | search
  | utility
  deriving DecidableEq, Repr, Inhabited

structure FunctionParameter where
  name : String
  mode : ParameterMode
  default : Option Scalar := none

/-- One helper and the function that it calls. -/
structure FunctionEntry where
  helper : String
  function : String
  parameters : List FunctionParameter := []
  rest : Option ParameterMode := none
  named : List FunctionParameter := []

namespace FunctionParameter

def parameter (self : FunctionParameter) : Parameter :=
  { name := self.name, default := self.default }

end FunctionParameter

namespace ParameterMode

/-- The number that the language has for the side to be trimmed. -/
def sideNumber? (word : String) : Option Int :=
  match word with
  | "BOTH" => some 0
  | "LEFT" => some 1
  | "RIGHT" => some 2
  | _ => none

variable {ρ : Type} (look : ρ → Query)

/-- A side is looked up before any argument is converted. -/
def checkSide (mode : ParameterMode) (operand : Operand ρ) :
    Except Error Unit :=
  match mode, operand with
  | .side, .null => .ok ()
  | .side, .text word =>
      if (sideNumber? word).isSome then .ok () else .error .key
  | .side, operand =>
      if operand.raw.isHashable then .error .key
      else .error (.type .mismatch)
  | _, _ => .ok ()

/-- The arguments that a parameter contributes. -/
def arguments (mode : ParameterMode) (operand : Operand ρ) :
    Except Error (List Expr) :=
  match mode with
  | .operand => return [← operand.toExpr look]
  | .subject => return [← operand.toSubject look]
  | .literal => .ok [.literal operand.raw]
  | .operandIfGiven =>
      match operand with
      | .null => .ok []
      | operand => return [← operand.toExpr look]
  | .literalIfGiven =>
      match operand with
      | .null => .ok []
      | operand => .ok [.literal operand.raw]
  | .literalIfPresent =>
      .ok (if operand.raw.isTrue then [.literal operand.raw] else [])
  | .flag =>
      .ok (if operand.raw.isTrue then [.literal (.bool true)] else [])
  | .counted =>
      match operand with
      | .null => .ok [.reference "1"]
      | operand => return [← operand.toExpr look]
  | .side =>
      match operand with
      | .text word =>
          .ok ((sideNumber? word).toList.map fun number =>
            .literal (.int number))
      | _ => .ok []
  | .suffixPattern => .ok [.literal (.text ("%" ++ operand.raw.display))]

end ParameterMode

namespace FunctionEntry

variable {ρ : Type}

def signature (entry : FunctionEntry) : Signature where
  parameters := entry.parameters.map FunctionParameter.parameter
  rest := entry.rest.isSome
  named := entry.named.map FunctionParameter.parameter

/-- Pairs every argument with the mode of its parameter, in order. -/
def moded (entry : FunctionEntry) (assignment : Assignment (Operand ρ)) :
    List (ParameterMode × Operand ρ) :=
  (entry.parameters.map FunctionParameter.mode).zip assignment.values ++
    assignment.rest.map (fun operand =>
      (entry.rest.getD .operand, operand)) ++
    (entry.named.map FunctionParameter.mode).zip assignment.named

def call (entry : FunctionEntry) (look : ρ → Query)
    (arguments : Arguments (Operand ρ)) : Except Error Expr :=
  match entry.signature.bind .scalar arguments with
  | none => .error (.type .mismatch)
  | some assignment => do
      let moded := entry.moded assignment
      for (mode, operand) in moded do
        mode.checkSide operand
      let parts ← moded.mapM fun (mode, operand) =>
        mode.arguments look operand
      Expr.ofCall (.text entry.function) parts.flatten

end FunctionEntry

namespace Catalogue

open ParameterMode

/-- A helper with parameters of one mode, all of which have to be given. -/
def plain (mode : ParameterMode) (helper function : String)
    (names : List String) : FunctionEntry where
  helper := helper
  function := function
  parameters := names.map fun name => { name, mode }

/-- A helper of one operand for the function of the same name. -/
def unary (name : String) : FunctionEntry :=
  plain .operand name name ["expr"]

/-- A grouped helper whose first parameter is its subject and whose others are
literals. -/
def onSubject (helper function subject : String)
    (literals : List String := []) : FunctionEntry where
  helper := helper
  function := function
  parameters :=
    { name := subject, mode := .subject } ::
      literals.map fun name => { name, mode := .literal }

def variadic (mode : ParameterMode) (helper function : String) :
    FunctionEntry where
  helper := helper
  function := function
  rest := some mode

def aggregates : List FunctionEntry :=
  [{ helper := "COUNT", function := "COUNT",
      parameters :=
        [{ name := "expr", mode := .counted, default := some .null }] },
    unary "SUM", unary "AVERAGE", plain .operand "AVG" "AVERAGE" ["expr"],
    unary "MIN", unary "MAX"]

def numbers : List FunctionEntry :=
  [unary "FLOOR", unary "CEIL",
    { helper := "ROUND", function := "ROUND",
      parameters :=
        [{ name := "expr", mode := .operand },
          { name := "decimals", mode := .operandIfGiven,
            default := some .null }] },
    unary "ABS", unary "SQRT",
    plain .operand "POW" "POW" ["base", "exponent"], unary "LOG",
    plain .operand "RAND" "RAND" []]

def texts : List FunctionEntry :=
  [variadic .operand "CONCAT" "CONCAT", unary "TO_STRING", unary "LENGTH",
    unary "LOWER", unary "UPPER",
    { helper := "TRIM", function := "TRIM",
      parameters :=
        [{ name := "expr", mode := .operand },
          { name := "side", mode := .side, default := some .null }] },
    unary "REVERSE", plain .operand "SPLIT" "SPLIT" ["value", "delimiter"],
    { helper := "SUBSTRING", function := "SUBSTRING",
      parameters :=
        [{ name := "value", mode := .operand },
          { name := "start", mode := .operand },
          { name := "length", mode := .operandIfGiven,
            default := some .null }] },
    { helper := "REGEX_MATCH", function := "REGEX_MATCH",
      parameters :=
        [{ name := "text", mode := .subject },
          { name := "pattern", mode := .literal },
          { name := "case_insensitive", mode := .flag,
            default := some (.bool false) }] }]

def arrays : List FunctionEntry :=
  [unary "FIRST", unary "LAST", plain .operand "NTH" "NTH" ["expr", "index"],
    plain .operand "APPEND" "APPEND" ["array", "element"],
    { helper := "FLATTEN", function := "FLATTEN",
      parameters :=
        [{ name := "expr", mode := .operand },
          { name := "depth", mode := .operandIfGiven,
            default := some .null }] },
    unary "UNIQUE", plain .operand "SORT" "SORTED" ["expr"]]

def typeTests : List FunctionEntry :=
  [plain .operand "TYPE_OF" "TYPENAME" ["expr"], unary "IS_NULL",
    unary "IS_BOOL", unary "IS_NUMBER", unary "IS_STRING", unary "IS_ARRAY",
    unary "IS_OBJECT", plain .operand "HAS" "HAS" ["obj", "attribute"]]

def dateGroup : List FunctionEntry :=
  [plain .operand "now" "DATE_NOW" [],
    onSubject "format" "DATE_FORMAT" "date" ["fmt"],
    plain .literal "parse" "DATE_PARSE" ["date_string", "fmt"],
    onSubject "add" "DATE_ADD" "date" ["amount", "unit"],
    onSubject "subtract" "DATE_SUBTRACT" "date"
      ["amount", "unit"],
    { helper := "difference", function := "DATE_DIFF",
      parameters :=
        [{ name := "date1", mode := .subject },
          { name := "date2", mode := .subject },
          { name := "unit", mode := .literal }] },
    onSubject "year" "DATE_YEAR" "date",
    onSubject "month" "DATE_MONTH" "date",
    onSubject "day" "DATE_DAY" "date"]

def textGroup : List FunctionEntry :=
  [variadic .subject "concat" "CONCAT",
    { helper := "concat_separator",
      function := "CONCAT_SEPARATOR",
      parameters := [{ name := "separator", mode := .literal }],
      rest := some .subject },
    onSubject "lower" "LOWER" "value",
    onSubject "upper" "UPPER" "value",
    onSubject "trim" "TRIM" "value",
    onSubject "ltrim" "LTRIM" "value",
    onSubject "rtrim" "RTRIM" "value",
    { helper := "substring", function := "SUBSTRING",
      parameters :=
        [{ name := "value", mode := .subject },
          { name := "start", mode := .literal },
          { name := "length", mode := .literalIfGiven,
            default := some .null }] },
    onSubject "split" "SPLIT" "value" ["separator"],
    onSubject "replace" "SUBSTITUTE" "value"
      ["search", "replacement"],
    onSubject "starts_with" "STARTS_WITH" "value" ["prefix"],
    { helper := "ends_with", function := "LIKE",
      parameters :=
        [{ name := "value", mode := .subject },
          { name := "suffix", mode := .suffixPattern }] }]

def arrayGroup : List FunctionEntry :=
  [onSubject "unique" "UNIQUE" "array",
    onSubject "reverse" "REVERSE" "array",
    onSubject "first" "FIRST" "array",
    onSubject "last" "LAST" "array",
    { helper := "flatten", function := "FLATTEN",
      parameters :=
        [{ name := "array", mode := .subject },
          { name := "depth", mode := .literal, default := some (.int 1) }] },
    variadic .subject "union" "UNION",
    variadic .subject "intersection" "INTERSECTION",
    variadic .subject "minus" "MINUS",
    onSubject "nth" "NTH" "array" ["position"],
    { helper := "range", function := "RANGE",
      parameters :=
        [{ name := "start", mode := .literal },
          { name := "end", mode := .literal },
          { name := "step", mode := .literal, default := some (.int 1) }] }]

def mathGroup : List FunctionEntry :=
  { helper := "round", function := "ROUND",
    parameters :=
      [{ name := "value", mode := .operand },
        { name := "digits", mode := .operand, default := some (.int 0) }] } ::
  plain .operand "pow" "POW" ["base", "exponent"] ::
  [("floor", "FLOOR"), ("ceil", "CEIL"), ("abs", "ABS"), ("sqrt", "SQRT"),
    ("log", "LOG"), ("log10", "LOG10"), ("log2", "LOG2"), ("sin", "SIN"),
    ("cos", "COS"), ("tan", "TAN")].map fun (helper, function) =>
      plain .operand helper function ["value"]

def searchGroup : List FunctionEntry :=
  [onSubject "analyzer" "ANALYZER" "expr" ["analyzer"],
    onSubject "boost" "BOOST" "expr" ["boost"],
    { helper := "phrase", function := "PHRASE",
      parameters :=
        [{ name := "expr", mode := .subject },
          { name := "phrase", mode := .literal },
          { name := "analyzer", mode := .literalIfPresent,
            default := some .null }] },
    plain .literal "tokens" "TOKENS" ["text", "analyzer"],
    { helper := "min_match", function := "MIN_MATCH",
      rest := some .operand,
      named := [{ name := "min_match", mode := .literal }] }]

def utilityGroup : List FunctionEntry :=
  [variadic .subject "merge" "MERGE",
    plain .operand "uuid" "UUID" [],
    plain .operand "rand" "RAND" [],
    onSubject "typename" "TYPENAME" "value",
    onSubject "to_number" "TO_NUMBER" "value",
    onSubject "to_string" "TO_STRING" "value"]

/-- The helpers of a group, each with a name of its own within the group. -/
def entries : FunctionGroup → List FunctionEntry
  | .general => aggregates ++ numbers ++ texts ++ arrays ++ typeTests
  | .date => dateGroup
  | .text => textGroup
  | .array => arrayGroup
  | .math => mathGroup
  | .search => searchGroup
  | .utility => utilityGroup

variable {ρ : Type}

/-- A call of any function, by its name in the language. -/
def callByName (look : ρ → Query) (arguments : Arguments (Operand ρ)) :
    Except Error Expr :=
  let signature : Signature :=
    { parameters := [{ name := "name" }], rest := true }
  match signature.bind .scalar arguments with
  | some { values := [name], rest, .. } => do
      let parts ← rest.mapM (Operand.toExpr look)
      Expr.ofCall name.raw parts
  | _ => .error (.type .mismatch)

/-- A document without the fields of the given names. -/
def unset (look : ρ → Query) (arguments : Arguments (Operand ρ)) :
    Except Error Expr :=
  let signature : Signature :=
    { parameters := [{ name := "obj" }], rest := true }
  match signature.bind .scalar arguments with
  | some { values := [document], rest, .. } => do
      let document ← document.toSubject look
      Expr.unset document (rest.map Operand.raw)
  | _ => .error (.type .mismatch)

/-- The expression that a helper builds. -/
def apply (look : ρ → Query) (group : FunctionGroup) (helper : String)
    (arguments : Arguments (Operand ρ)) : Except Error Expr :=
  match group, helper with
  | .general, "call" => callByName look arguments
  | .utility, "unset" => unset look arguments
  | group, helper =>
      match (entries group).find? (·.helper == helper) with
      | some entry => entry.call look arguments
      | none => .error .attribute

end Catalogue

end ArangoQuery
