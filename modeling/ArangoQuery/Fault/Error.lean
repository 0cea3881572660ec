import ArangoQuery.Fault.Configuration

/-!
# Errors

`Error` collects everything that can go wrong between the first call on a builder
and the compiled query, by cause.  `Incident` is what is left of an error once it
is reported: its kind, its message and, for errors of the library's own, a code,
a level and details.
-/

namespace ArangoQuery

/-- An argument has a type that is fine and a value that is not. -/
inductive ValueFault where
  | propertyOfComplexExpression
  | parameterName (given : String)
  | variableOfComplexExpression
  | startVertex
  | optionsNotMapping
  | sourceExpression
  | sourcePlaceholder (given : String)
  | traversalDirection (given : Value)
  | sortDirection (given : Value)
  | intoWithoutOperation
  | searchView (view source : Value)
  | pageNumber
  | pageSize
  | pairLength (position length : Nat)
  | errorLevel (given : Value)
  | noError

/-- An argument has the wrong type. -/
inductive TypeFault where
  | joinOfNonText (position : Nat) (kind : String)
  | notAnExpression (kind : String)
  | mismatch
  deriving DecidableEq

inductive Error where
  | configuration (fault : ConfigurationFault)
  | snapshotRejected (faults : Nat)
  /-- A typed record was given contents that do not fit its fields. -/
  | invalidModel (name : String) (faults : Nat)
  | value (fault : ValueFault)
  | type (fault : TypeFault)
  | attribute
  | key
  /-- A value without a data form reached a snapshot. -/
  | unserializable
  | overflow

namespace ValueFault

def message : ValueFault → String
  | .propertyOfComplexExpression =>
      "Cannot access property on complex expression"
  | .parameterName given =>
      "Invalid bind parameter name: " ++ Inspect.text given
  | .variableOfComplexExpression =>
      "Cannot extract variable name from ExpressionBuilder"
  | .startVertex =>
      "Start vertex must be a string, a reference or a bind parameter"
  | .optionsNotMapping => "Options must be a mapping"
  | .sourceExpression => "A FOR source expression must be a bind parameter"
  | .sourcePlaceholder given =>
      "Invalid bind parameter placeholder: " ++ Inspect.text given
  | .traversalDirection given =>
      "Invalid traversal direction: " ++ given.inspect
  | .sortDirection given => "Invalid sort direction: " ++ given.inspect
  | .intoWithoutOperation =>
      "into() requires a preceding insert, replace, remove or update"
  | .searchView view source =>
      "SEARCH view " ++ view.inspect ++ " does not match the FOR source " ++
        source.inspect
  | .pageNumber => "Page number must be greater than or equal to 1"
  | .pageSize => "Page size must be greater than or equal to 1"
  | .pairLength position length =>
      "dictionary update sequence element #" ++ toString position ++
        " has length " ++ toString length ++ "; 2 is required"
  | .errorLevel given => given.inspect ++ " is not a valid ErrorLevel"
  | .noError => "No error provided for context"

end ValueFault

namespace TypeFault

def message : TypeFault → String
  | .joinOfNonText position kind =>
      "sequence item " ++ toString position ++ ": expected str instance, " ++
        kind ++ " found"
  | .notAnExpression kind => "Unsupported expression node: " ++ kind
  | .mismatch => "argument of the wrong type"

end TypeFault

/-- What the library's own errors carry besides a message. -/
structure ApplicationReport where
  code : ErrorCode
  level : ErrorLevel := .error
  details : ErrorDetails

/-- An error as it is reported. -/
structure Incident where
  kind : String
  message : String
  report : Option ApplicationReport := none

namespace Error

def countText (count : Nat) : String :=
  toString count ++ " validation error" ++ if count = 1 then "" else "s"

def kind : Error → String
  | .configuration _ => "ConfigurationError"
  | .snapshotRejected _ => "SerializationError"
  | .invalidModel .. => "ValidationError"
  | .value _ => "ValueError"
  | .type _ => "TypeError"
  | .attribute => "AttributeError"
  | .key => "KeyError"
  | .unserializable => "UnserializableError"
  | .overflow => "OverflowError"

def message : Error → String
  | .configuration fault => fault.message
  | .snapshotRejected faults =>
      "Invalid query snapshot: " ++ toString faults ++ " validation error(s)"
  | .invalidModel name faults => countText faults ++ " for " ++ name
  | .value fault => fault.message
  | .type fault => fault.message
  | .attribute => "no such attribute"
  | .key => "no such key"
  | .unserializable => "value without a data form"
  | .overflow => "number out of range"

def report? : Error → Option ApplicationReport
  | .configuration fault =>
      some { code := .configInvalid, details := fault.details }
  | .snapshotRejected _ =>
      some
        { code := .deserializationFailed,
          details := { source := "serializer", operation := "from_json" } }
  | _ => none

def incident (error : Error) : Incident where
  kind := error.kind
  message := error.message
  report := error.report?

end Error

end ArangoQuery
