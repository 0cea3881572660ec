/-!
# Names of bind parameters and their placeholders

A bind parameter name starts with an ASCII letter or an underscore and goes on
with ASCII letters, digits and underscores.  `@name` is the placeholder of a
value parameter and `@@name` that of a collection parameter; no other text is a
placeholder.  `Placeholder.of?_text` says that the text of a placeholder reads
back as that placeholder.
-/

namespace ArangoQuery

def isNameStart (character : Char) : Bool :=
  character.isAlpha || character = '_'

def isNameChar (character : Char) : Bool :=
  character.isAlphanum || character = '_'

def isNameList : List Char → Bool
  | [] => false
  | first :: rest => isNameStart first && rest.all isNameChar

def isName (text : String) : Bool :=
  isNameList text.toList

/-- A bind parameter name, which is written into the query text verbatim. -/
structure ParameterName where
  text : String
  isName_text : isName text = true
  deriving DecidableEq

namespace ParameterName

def of? (text : String) : Option ParameterName :=
  if valid : isName text = true then some ⟨text, valid⟩ else none

theorem of?_text (name : ParameterName) :
    of? name.text = some name := by
  simp [of?, name.isName_text]

theorem head_ne_at (name : ParameterName) :
    name.text.toList.head? ≠ some '@' := by
  have hname := name.isName_text
  intro hhead
  cases htext : name.text.toList with
  | nil => simp [htext] at hhead
  | cons first rest =>
      simp [htext] at hhead
      simp [isName, htext, hhead, isNameList, isNameStart] at hname

end ParameterName

/-- A reference to a bind parameter that the caller of the query supplies. -/
structure Placeholder where
  name : ParameterName
  collection : Bool
  deriving DecidableEq

namespace Placeholder

def text (placeholder : Placeholder) : String :=
  (if placeholder.collection then "@@" else "@") ++ placeholder.name.text

def ofList? : List Char → Option Placeholder
  | '@' :: '@' :: rest =>
      (ParameterName.of? (String.ofList rest)).map (⟨·, true⟩)
  | '@' :: rest => (ParameterName.of? (String.ofList rest)).map (⟨·, false⟩)
  | _ => none

/-- Reads a text that is a placeholder and nothing else. -/
def of? (text : String) : Option Placeholder :=
  ofList? text.toList

/-- A placeholder is read back from its text. -/
theorem of?_text (placeholder : Placeholder) :
    of? placeholder.text = some placeholder := by
  obtain ⟨name, collection⟩ := placeholder
  cases collection with
  | true =>
      simp [of?, text, ofList?,
        ParameterName.of?_text]
  | false =>
      have hhead := name.head_ne_at
      have hname := ParameterName.of?_text name
      cases htext : name.text.toList with
      | nil =>
          have := name.isName_text
          simp [isName, htext, isNameList] at this
      | cons first rest =>
          have hfirst : first ≠ '@' := by
            intro heq
            simp [htext, heq] at hhead
          have hlist : String.ofList (first :: rest) = name.text := by
            rw [← htext, String.ofList_toList]
          simp [of?, text, ofList?, htext,
            hlist, hname, hfirst]

end Placeholder

def isPlaceholder (text : String) : Bool :=
  (Placeholder.of? text).isSome

def startsWithAt (text : String) : Bool :=
  text.toList.head? = some '@'

end ArangoQuery
