import ArangoQuery.Number.Shortest
import ArangoQuery.Text.Inspect
import ArangoQuery.Value.Basic

/-!
# Values shown in messages

`inspect` shows a value the way messages quote it and `display` the way it is
interpolated into text: the two differ on texts and on typed records only.
-/

namespace ArangoQuery

namespace Scalar

def inspect : Scalar → String
  | .null => "None"
  | .bool value => if value then "True" else "False"
  | .int value => toString value
  | .float value => NumberLayout.display.text value
  | .text value => Inspect.text value

def display : Scalar → String
  | .text value => value
  | scalar => scalar.inspect

end Scalar

namespace Value

mutual

def inspect : Value → String
  | .scalar value => value.inspect
  | .list items => "[" ++ ", ".intercalate (inspectList items) ++ "]"
  | .tuple [item] => "(" ++ inspect item ++ ",)"
  | .tuple items => "(" ++ ", ".intercalate (inspectList items) ++ ")"
  | .map entries => "\x7b" ++ ", ".intercalate (inspectEntries entries) ++ "\x7d"
  | .model name fields =>
      name ++ "(" ++ ", ".intercalate (inspectFields fields) ++ ")"
  | .foreign _ shown => shown

def inspectList : List Value → List String
  | [] => []
  | value :: rest => inspect value :: inspectList rest

def inspectEntries : List (Scalar × Value) → List String
  | [] => []
  | (key, value) :: rest =>
      (key.inspect ++ ": " ++ inspect value) :: inspectEntries rest

def inspectFields : List (Label × Value) → List String
  | [] => []
  | (label, value) :: rest =>
      (label.own ++ "=" ++ inspect value) :: inspectFields rest

end

def display : Value → String
  | .scalar value => value.display
  | .model _ fields => " ".intercalate (inspectFields fields)
  | value => value.inspect

end Value

end ArangoQuery
