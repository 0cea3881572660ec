import ArangoQuery.Snapshot.Dump
import ArangoQuery.Text.Name

/-!
# Parameters of a query

The names that the caller of a query has to supply, read off its snapshot.  A
value parameter shows up either as a node of its own or as a text that is a
placeholder; collection parameters do not count.
-/

namespace ArangoQuery

namespace Value

def isTextOf (expected : String) : Value → Bool
  | .text given => given == expected
  | _ => false

/-- The name that a text asks for, if it is the placeholder of a value. -/
def placeholderNames (text : String) : List String :=
  match Placeholder.of? text with
  | some placeholder =>
      if placeholder.collection then [] else [placeholder.name.text]
  | none => []

/-- The name that a mapping asks for, if it describes a parameter. -/
def nodeNames (entries : List (Scalar × Value)) : List String :=
  let member (name : String) : Value :=
    (lookupEntry Scalar.same (.text name) entries).getD .null
  if (member "type").isTextOf "parameter" &&
      !(member "isCollectionParam").isTrue then
    match member "name" with
    | .text name => if name = "" then [] else [name]
    | _ => []
  else []

mutual

/-- All names asked for, in order and with repetitions. -/
def mentionedNames : Value → List String
  | .text content => placeholderNames content
  | .list items => mentionedInList items
  | .tuple items => mentionedInList items
  | .map entries => nodeNames entries ++ mentionedInEntries entries
  | _ => []

def mentionedInList : List Value → List String
  | [] => []
  | value :: rest => mentionedNames value ++ mentionedInList rest

def mentionedInEntries : List (Scalar × Value) → List String
  | [] => []
  | (_, value) :: rest => mentionedNames value ++ mentionedInEntries rest

end

/-- The parameters that a snapshot asks for, each at its first mention. -/
def parameterNames (snapshot : Value) : List String :=
  snapshot.mentionedNames.eraseDups

end Value

namespace Query

def parameterNames? (query : Query) : Option (List String) :=
  query.snapshot?.map Value.parameterNames

end Query

end ArangoQuery
