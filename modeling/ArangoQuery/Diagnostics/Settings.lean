import ArangoQuery.Check.Model

/-!
# Settings and logging

Settings are read from variables of the environment, whose names are taken in
letters of any case.  They decide how grave an event has to be to be logged, and
through which steps it goes.
-/

namespace ArangoQuery

namespace Settings

def variableMark : String := "fluent_aql_"

def lowerCase (name : String) : String :=
  String.ofList (name.toList.map Char.toLower)

/-- The fields that an environment sets: of variables with the same name the last
one counts. -/
def membersOf (environment : List (String × String)) : Members :=
  let entries :=
    entriesOf (· == ·) (environment.map fun (name, value) =>
      (lowerCase name, value))
  ["debug", "log_level", "log_queries", "logfire_enabled"].filterMap
    fun field =>
      (lookupEntry (· == ·) (variableMark ++ field) entries).map fun value =>
        (.text field, .text value)

def ofEnvironment (environment : List (String × String)) :
    Checked Settings :=
  check (membersOf environment)

/-- Letters that have an ASCII letter as their upper case. -/
def upperLetter (letter : Char) : Char :=
  if letter.toNat = 305 then 'I'
  else if letter.toNat = 383 then 'S'
  else letter.toUpper

/-- The number of a level name; an unknown name stands for ordinary
information. -/
def levelNumber (name : String) : Nat :=
  match String.ofList (name.toList.map upperLetter) with
  | "CRITICAL" => 50
  | "FATAL" => 50
  | "ERROR" => 40
  | "WARN" => 30
  | "WARNING" => 30
  | "DEBUG" => 10
  | "NOTSET" => 0
  | _ => 20

end Settings

/-- A step that events go through on their way to the log. -/
inductive LogStep where
  | mergeContext
  | addLevel
  | addTime
  | addCallSite
  | addErrorType
  | addStack
  | addException
  | forward
  | render
  deriving DecidableEq, Repr

namespace LogStep

/-- The steps for given settings: rendering is the last of them, and forwarding
comes right before it. -/
def chain (settings : Settings) : List LogStep :=
  [.mergeContext, .addLevel, .addTime, .addCallSite, .addErrorType, .addStack,
    .addException] ++
    (if settings.forwarding then [.forward] else []) ++ [.render]

/-- The places of a step in a chain. -/
def places (step : LogStep) (chain : List LogStep) : List Nat :=
  (chain.zipIdx.filter (·.1 = step)).map Prod.snd

end LogStep

/-- Puts the kind of the error that an event carries in the place of the error
itself.  The error is given by its kind, or else it is a field of the event. -/
def withErrorKind (event : List (String × Value)) (given : Option String) :
    List (String × Value) :=
  let own := (lookupEntry (· == ·) "error" event).map Value.typeName
  let others := event.filter (·.1 != "error")
  match given.or own with
  | some kind => putEntry (· == ·) "error_type" (.text kind) others
  | none => others

end ArangoQuery
