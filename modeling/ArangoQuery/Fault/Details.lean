import ArangoQuery.Value.Basic

/-!
# Error details

What is known about an error besides its message: the component and the
operation that it occurred in and, when a check failed, what was checked.
-/

namespace ArangoQuery

/-- How grave an event is. -/
inductive ErrorLevel where
  | debug
  | info
  | warning
  | error
  | critical
  deriving DecidableEq, Repr

namespace ErrorLevel

def text : ErrorLevel → String
  | .debug => "debug"
  | .info => "info"
  | .warning => "warning"
  | .error => "error"
  | .critical => "critical"

def all : List ErrorLevel := [.debug, .info, .warning, .error, .critical]

def ofText? (word : String) : Option ErrorLevel :=
  all.find? (·.text == word)

end ErrorLevel

/-- Stable numbers for kinds of errors. -/
inductive ErrorCode where
  | unknown
  | invalidInput
  | configInvalid
  | configMissing
  | queryIncomplete
  | queryValidation
  | serializationFailed
  | deserializationFailed
  deriving DecidableEq, Repr

namespace ErrorCode

def number : ErrorCode → String
  | .unknown => "1000"
  | .invalidInput => "1002"
  | .configInvalid => "1005"
  | .configMissing => "1006"
  | .queryIncomplete => "3002"
  | .queryValidation => "3003"
  | .serializationFailed => "7001"
  | .deserializationFailed => "7002"

def name : ErrorCode → String
  | .unknown => "UNKNOWN"
  | .invalidInput => "INVALID_INPUT"
  | .configInvalid => "CONFIG_INVALID"
  | .configMissing => "CONFIG_MISSING"
  | .queryIncomplete => "QUERY_INCOMPLETE"
  | .queryValidation => "QUERY_VALIDATION"
  | .serializationFailed => "SERIALIZATION_FAILED"
  | .deserializationFailed => "DESERIALIZATION_FAILED"

def all : List ErrorCode :=
  [.unknown, .invalidInput, .configInvalid, .configMissing, .queryIncomplete,
    .queryValidation, .serializationFailed, .deserializationFailed]

def ofName? (word : String) : Option ErrorCode :=
  all.find? (·.name == word)

end ErrorCode

/-- A failed check: the field, the value found there and what was asked of it. -/
structure Breach where
  field : Option String := none
  actual : Value := .null
  expected : Option String := none
  constraint : Option String := none

structure ErrorDetails where
  source : String
  operation : String
  breach : Option Breach := none

namespace ErrorDetails

/-- The details as named values; those of a failed check are listed even when
they are unset. -/
def fields (details : ErrorDetails) : List (String × Value) :=
  [("source", .text details.source), ("operation", .text details.operation)] ++
    match details.breach with
    | none => []
    | some breach =>
        [("field", .ofOption .text breach.field),
          ("actual_value", breach.actual),
          ("expected_type", .ofOption .text breach.expected),
          ("constraint", .ofOption .text breach.constraint)]

/-- Details about which nothing is known. -/
def unknown : ErrorDetails :=
  { source := "unknown", operation := "unknown" }

end ErrorDetails

end ArangoQuery
