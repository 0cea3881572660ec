import ArangoQuery.Rendering.Compiled
import ArangoQuery.Text.Word
import ArangoQuery.Value.Json

/-!
# Queries with their values inlined

For reading only: every placeholder of a compiled query is replaced by the JSON
text of its value.  The bindings are handled one after the other, each on the
text that the earlier ones have left.
-/

namespace ArangoQuery

namespace Inlined

/-- The rest of a text after a name, if the text starts with the name and the
name ends at a word boundary.  `last` is the character before the name. -/
def afterName? (last : Char) : List Char → List Char → Option (List Char)
  | [], text =>
      if Word.isBoundary (some last) text.head? then some text else none
  | _ :: _, [] => none
  | letter :: name, character :: text =>
      if letter = character then afterName? letter name text else none

/-- Replaces the placeholders of a name that no `@` precedes.  `skipped` counts
the characters of a placeholder already replaced. -/
def replaceFrom (name replacement : List Char) :
    Option Char → Nat → List Char → List Char
  | _, _, [] => []
  | _, skipped + 1, character :: text =>
      replaceFrom name replacement (some character) skipped text
  | before, 0, character :: text =>
      if character = '@' && before ≠ some '@' &&
          (afterName? '@' name text).isSome then
        replacement ++
          replaceFrom name replacement (some character) name.length text
      else
        character :: replaceFrom name replacement (some character) 0 text

def replaceName (text name : String) (value : Value) : String :=
  String.ofList
    (replaceFrom name.toList value.toJson.toList none 0 text.toList)

end Inlined

/-- The text of a compiled query with all values in place. -/
def CompiledQuery.inlined (compiled : CompiledQuery) : String :=
  compiled.bindings.foldl
    (fun text (name, value) => Inlined.replaceName text name value)
    compiled.text

end ArangoQuery
