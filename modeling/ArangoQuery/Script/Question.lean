import ArangoQuery.Rendering.Clause
import ArangoQuery.Script.Method
import ArangoQuery.Snapshot.Parameters
import ArangoQuery.Value.Json

/-!
# Questions and binding calls

A question is a function from an operand to plain data: it looks at its argument
and changes nothing.  The store of bind variables has calls by name of its own.
-/

namespace ArangoQuery

mutual

/-- Is every part of a value data, without typed records and without values that
have no data form? -/
def Value.isData : Value → Bool
  | .scalar _ => true
  | .list items => areData items
  | .tuple items => areData items
  | .map entries => areDataEntries entries
  | .model .. => false
  | .foreign .. => false

def Value.areData : List Value → Bool
  | [] => true
  | value :: rest => value.isData && areData rest

def Value.areDataEntries : List (Scalar × Value) → Bool
  | [] => true
  | (_, value) :: rest => value.isData && areDataEntries rest

end

namespace Script

/-- What may be asked about an operand. -/
inductive Question where
  | isPlaceholder
  | isPlain
  | variableName
  | startVertex
  | objectKey
  | windowBound
  | rangeText
  | traversalHead
  | depthRange
  | loopNames
  | inspection
  deriving DecidableEq, Repr

def holdsPlaceholder : Operand Nat → Bool
  | .text content => (Placeholder.of? content).isSome
  | _ => false

/-- A start vertex as it is written into a query. -/
def vertexOf : Operand Nat → Except Error Value
  | .text vertex => .ok (.text (vertexText vertex))
  | _ => .error .attribute

/-- The JSON text of a key. -/
def keyText (operand : Operand Nat) : Except Error Value :=
  let value := operand.raw
  if value.isData then .ok (.text value.toJson)
  else .error (.type .mismatch)

/-- A word as the bound of a window is put in quotes, without escapes. -/
def boundText (operand : Operand Nat) : String :=
  match operand with
  | .text word => "\"" ++ word ++ "\""
  | operand => operand.raw.display

/-- The text of a numeric range. -/
def rangeTextOf (operand : Operand Nat) : Except Error Value :=
  match operand.raw with
  | .model "RangeSource" fields =>
      match Source.checkRange (ε := Expr) (.model "RangeSource" fields) with
      | .ok (.range first last) => .ok (.text (rangeText first last))
      | _ => .error .attribute
  | _ => .error .attribute

/-- The traversal that an operand is. -/
def traversalOf (operand : Operand Nat) : Except Error (GraphSource Expr) :=
  match operand.raw with
  | .model "GraphSource" fields =>
      let value := Value.model "GraphSource" fields
      match Source.checkGraph (Expr.checkWithin value.depth) value with
      | .ok (.graph traversal) => .ok traversal
      | _ => .error .attribute
  | _ => .error .attribute

/-- The variables of a loop over vertices, edges and paths. -/
def loopNamesOf (operand : Operand Nat) : Except Error Value :=
  match operand.raw with
  | .model "MultipleLoopVars" fields =>
      match LoopNames.check (.model "MultipleLoopVars" fields) with
      | .ok loop => .ok (.list (loop.names.map .text))
      | .rejected _ => .error .attribute
  | _ => .error .attribute

/-- What the argument of a question is called. -/
def Question.parameter : Question → String
  | .isPlaceholder => "value"
  | .isPlain => "value"
  | .variableName => "variable"
  | .startVertex => "vertex"
  | .objectKey => "key"
  | .windowBound => "value"
  | .rangeText => "source"
  | .traversalHead => "source"
  | .depthRange => "source"
  | .loopNames => "variables"
  | .inspection => "value"

/-- The answer to a question about one operand. -/
def Question.answer (question : Question)
    (arguments : Arguments (Operand Nat)) : Except Error Value := do
  let operand ← arguments.only question.parameter
  match question with
  | .isPlaceholder => return .bool (holdsPlaceholder operand)
  | .isPlain => return .bool operand.isPlain
  | .variableName => operand.toVariable
  | .startVertex => vertexOf operand
  | .objectKey => keyText operand
  | .windowBound => return .text (boundText operand)
  | .rangeText => rangeTextOf operand
  | .traversalHead => return .text (← traversalOf operand).head
  | .depthRange => return .text (← traversalOf operand).depthRange
  | .loopNames => loopNamesOf operand
  | .inspection => return .text operand.raw.inspect

/-- The parameters that a snapshot, a builder or a record asks for. -/
def parameterNames (look : Nat → Query) (operand : Operand Nat) :
    Except Error (List String) := do
  match operand with
  | .map entries =>
      return (Value.map (Operand.rawEntries entries)).parameterNames
  | .query number =>
      match (look number).parameterNames? with
      | some names => return names
      | none => throw .unserializable
  | operand =>
      match operand.raw with
      | .model name fields =>
          match Value.dump? .setFields (.model name fields) with
          | some snapshot => return snapshot.parameterNames
          | none => throw .unserializable
      | _ => throw .attribute

/-- Binds a value under a name made up from the stem `prefix`. -/
def bindValue (store : BindingStore Scalar) (value stem : Operand Nat) :
    Except Error Value × BindingStore Scalar :=
  let (name, store) := store.bind stem.raw.display value.raw
  (.ok (.text ("@" ++ name)), store)

/-- Takes over named values as far as they do not contradict bound ones. -/
def mergeValues (store : BindingStore Scalar) (values : Operand Nat) :
    Except Error Value × BindingStore Scalar :=
  match values with
  | .map entries =>
      let named := entries.map fun (key, operand) => (key, operand.raw)
      match store.merge named with
      | (none, store) => (.ok .null, store)
      | (some fault, store) => (.error (.configuration fault), store)
  | _ => (.error .attribute, store)

/-- A call on the store of bind variables. -/
def callStore (store : BindingStore Scalar) (method : String)
    (arguments : Arguments (Operand Nat)) :
    Except Error Value × BindingStore Scalar :=
  let unchanged (error : Error) : Except Error Value × BindingStore Scalar :=
    (.error error, store)
  match method with
  | "bind" =>
      let signature : Signature :=
        { parameters :=
            [.required "value",
              { name := "prefix", default := some (.text "value") }] }
      match arguments.assign signature with
      | .ok { values := [value, stem], .. } => bindValue store value stem
      | .ok _ => unchanged (.type .mismatch)
      | .error error => unchanged error
  | "merge" =>
      match arguments.only "values" with
      | .ok values => mergeValues store values
      | .error error => unchanged error
  | "to_dict" =>
      match arguments.none with
      | .ok _ => (.ok (.map store.values), store)
      | .error error => unchanged error
  | _ => unchanged .attribute

end Script

end ArangoQuery
