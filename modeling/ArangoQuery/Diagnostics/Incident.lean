import ArangoQuery.Check.Model
import ArangoQuery.Fault.Error

/-!
# Incidents

An incident is an error as it is reported.  Its fields are listed under one name
each, and an incident can be described by such a list: `Incident.ofFields` reads
the kind, the message and, for errors of the library's own, what is known besides.
-/

namespace ArangoQuery

namespace ErrorLevel

/-- The level that a value names; whatever is empty stands for `error`. -/
def ofValue (given : Value) : Except Error ErrorLevel :=
  if given.isTrue then
    match given with
    | .text word =>
        match ofText? word with
        | some level => .ok level
        | none => .error (.value (.errorLevel given))
    | _ => .error (.value (.errorLevel given))
  else .ok .error

end ErrorLevel

namespace ErrorCode

/-- The code that a value names; whatever is empty stands for none at all. -/
def ofValue (given : Value) : Except Error ErrorCode :=
  if given.isTrue then
    match given with
    | .text word =>
        match ofName? word with
        | some code => .ok code
        | none => .error .key
    | _ => .error .key
  else .ok .unknown

end ErrorCode

namespace ErrorDetails

/-- Details given as a mapping, whose undeclared entries do not count. -/
def ofEntries (entries : List (Scalar × Value)) : Except Error ErrorDetails :=
  let entry (name : String) : Value :=
    (lookupEntry Scalar.same (.text name) entries).getD (.text "unknown")
  let named : Members :=
    [(.text "source", entry "source"), (.text "operation", entry "operation")]
  if entries.all fun (key, _) => key matches .text _ then
    (checkMembers false named).orInvalid (modelName false)
  else .error (.type .mismatch)

/-- Details given in any form; null stands for none at all. -/
def ofValue (given : Value) : Except Error (Option ErrorDetails) :=
  match given with
  | .null => .ok none
  | .map entries => some <$> ofEntries entries
  | .model name fields =>
      let members : Members :=
        fields.map fun (label, value) => (.text label.own, value)
      if name = modelName false then
        some <$> (checkMembers false members).orInvalid name
      else if name = modelName true then
        some <$> (checkMembers true members).orInvalid name
      else .error .attribute
  | _ => .error .attribute

end ErrorDetails

namespace Incident

/-- The record was not compilable, for a reason given in words. -/
def configuration (message : String) (details : Option ErrorDetails) :
    Incident where
  kind := "ConfigurationError"
  message := message
  report :=
    some
      { code := .configInvalid,
        details :=
          details.getD
            { source := "compiler", operation := "build", breach := some {} } }

def serialization (message : String) (details : Option ErrorDetails) :
    Incident where
  kind := "SerializationError"
  message := message
  report :=
    some
      { code := .deserializationFailed,
        details :=
          details.getD { source := "serializer", operation := "from_json" } }

def application (message : String) (code : ErrorCode) (level : ErrorLevel)
    (details : Option ErrorDetails) : Incident where
  kind := "ApplicationError"
  message := message
  report := some { code, level, details := details.getD .unknown }

/-- Everything known about an error, under one name each. -/
def fields (incident : Incident) : List (String × Value) :=
  [("error_type", .text incident.kind),
    ("error_message", .text incident.message)] ++
    match incident.report with
    | none => []
    | some report =>
        [("error_code", .text report.code.number),
          ("error_level", .text report.level.text)] ++
          report.details.fields.map fun (name, value) =>
            ("details." ++ name, value)

/-- Details that leave room for a default: whatever is empty counts as absent. -/
def givenDetails (details : Value) : Except Error (Option ErrorDetails) :=
  if details.isTrue then ErrorDetails.ofValue details else .ok none

/-- The incident that a description names.  Only errors without a kind of their
own choose a code and a level. -/
def ofFields (description : List (String × Value)) (details : Value) :
    Except Error Incident := do
  let field (name : String) : Option Value :=
    lookupEntry (· == ·) name description
  let kind := ((field "kind").getD .null).display
  let message := ((field "message").getD (.text "")).display
  match kind with
  | "ConfigurationError" =>
      return .configuration message (← givenDetails details)
  | "SerializationError" =>
      return .serialization message (← givenDetails details)
  | "ApplicationError" =>
      let code ← ErrorCode.ofValue ((field "code").getD .null)
      let level ← ErrorLevel.ofValue ((field "level").getD .null)
      return .application message code level (← ErrorDetails.ofValue details)
  | kind => return { kind, message }

end Incident

end ArangoQuery
