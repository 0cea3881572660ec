import ArangoQuery.Text.Quoted
import ArangoQuery.Value.Display

/-!
# Values written as JSON text

One line, with a space after every comma and colon, ASCII characters only.  JSON
has no numbers for NaN and the infinities and no typed records: the former are
written as the words `NaN` and `Infinity`, the latter as quoted text.
-/

namespace ArangoQuery

namespace Scalar

def toJson : Scalar → String
  | .null => "null"
  | .bool value => if value then "true" else "false"
  | .int value => toString value
  | .float value => NumberLayout.json.text value
  | .text value => Quoted.quote value

/-- The key of an object member is always a string. -/
def toJsonKey : Scalar → String
  | .text value => Quoted.quote value
  | scalar => Quoted.quote scalar.toJson

end Scalar

namespace Value

mutual

def toJson : Value → String
  | .scalar value => value.toJson
  | .list items => "[" ++ ", ".intercalate (toJsonList items) ++ "]"
  | .tuple items => "[" ++ ", ".intercalate (toJsonList items) ++ "]"
  | .map entries => "\x7b" ++ ", ".intercalate (toJsonEntries entries) ++ "\x7d"
  | .model name fields => Quoted.quote (Value.display (.model name fields))
  | .foreign _ shown => Quoted.quote shown

def toJsonList : List Value → List String
  | [] => []
  | value :: rest => toJson value :: toJsonList rest

def toJsonEntries : List (Scalar × Value) → List String
  | [] => []
  | (key, value) :: rest =>
      (key.toJsonKey ++ ": " ++ toJson value) :: toJsonEntries rest

end

end Value

end ArangoQuery
