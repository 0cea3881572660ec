import ArangoQuery.Rendering.Store

/-!
# Templates

The text of a query before names are given to its values.  A template depends on
the query alone; only `fill` looks at what is already bound.  Pieces are handled
from left to right, so values are bound in the order in which their placeholders
stand in the text.
-/

namespace ArangoQuery

inductive Piece where
  | text (content : String)
  /-- A value to be bound under a fresh name with the given stem. -/
  | hole (stem : String) (value : Value)
  /-- Values bound under names of their own; no text. -/
  | adopt (bindings : List (String × Value))
  /-- The query cannot be rendered beyond this point. -/
  | halt (error : Error)

abbrev Template := List Piece

namespace Template

def ofText (content : String) : Template :=
  [.text content]

def intercalate (separator : String) : List Template → Template
  | [] => []
  | [template] => template
  | template :: rest =>
      template ++ Piece.text separator :: intercalate separator rest

/-- Two templates between brackets, as they stand around a comma list. -/
def enclose (opening : String) (inner : Template) (closing : String) :
    Template :=
  Piece.text opening :: inner ++ ofText closing

/-- Gives every hole a name and puts the placeholders into the text. -/
def fill : Template → BindingStore String →
    Except Error (String × BindingStore String)
  | [], store => .ok ("", store)
  | .text content :: rest, store => do
      let (filled, store) ← fill rest store
      return (content ++ filled, store)
  | .hole stem value :: rest, store => do
      let (name, store) := store.bind stem value
      let (filled, store) ← fill rest store
      return ("@" ++ name ++ filled, store)
  | .adopt bindings :: rest, store =>
      match store.merge bindings with
      | (none, store) => fill rest store
      | (some fault, _) => .error (.configuration fault)
  | .halt error :: _, _ => .error error

end Template

end ArangoQuery
