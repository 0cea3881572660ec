import ArangoQuery.Rendering.Clause

/-!
# Compiled queries

`Expr.template` turns expressions of any depth into templates.  A subquery is
checked where it stands: if its record is not compilable, its template halts
there.  `Query.compile` checks the record, fills its template from an empty store
and returns the text with the values bound on the way.
-/

namespace ArangoQuery

open Template

/-- Only lists count as arrays here; every other value is bound as a value. -/
def literalStem : Value → String
  | .list _ => "array"
  | _ => "value"

def Placeholder.template (placeholder : Placeholder) : Template :=
  ofText placeholder.text

/-- The right side of an operator: a list to be searched has a stem of its
own. -/
def rightTemplate (operator : BinaryOperator) (right : Expr × Template) :
    Template :=
  match operator.isMembership, right.1 with
  | true, .literal (.list items) => [.hole "inValues" (.list items)]
  | _, _ => right.2

/-- A nested record: raw text is taken over with its bindings, any other record
is checked and rendered. -/
def subqueryTemplate (query : Record (Expr × Template)) : Template :=
  match query.raw with
  | some raw => [.adopt (Record.members query.rawBindings), .text raw]
  | none =>
      match Query.faults (query.map Prod.fst) with
      | fault :: _ => [.halt (.configuration fault)]
      | [] => (query.map Prod.snd).template

def hasIgnoreCase (flags : Option String) : Bool :=
  (flags.getD "").toList.contains 'i'

def Node.template : Node (Expr × Template) → Template
  | .literal value => [.hole (literalStem value) value]
  | .reference path => ofText path
  | .parameter placeholder => placeholder.template
  | .binary operator left right =>
      enclose "(" (left.2 ++
        Piece.text (" " ++ operator.text ++ " ") ::
          rightTemplate operator right) ")"
  | .unary operator operand => Piece.text operator.text :: operand.2
  | .call function arguments =>
      enclose (function ++ "(") (intercalate ", " (arguments.map Prod.snd)) ")"
  | .ternary condition thenValue elseValue =>
      enclose "(" (condition.2 ++ Piece.text " ? " :: thenValue.2 ++
        Piece.text " : " :: elseValue.2) ")"
  | .like subject pattern ignoreCase =>
      if ignoreCase then
        enclose "LIKE(" (subject.2 ++
          [.text ", ", .hole "likePattern" (.text pattern)]) ", true)"
      else
        enclose "(" (subject.2 ++
          [.text " LIKE ", .hole "likePattern" (.text pattern)]) ")"
  | .regex subject pattern flags =>
      enclose "REGEX_MATCH(" (subject.2 ++
          [.text ", ", .hole "regexPattern" (.text pattern)])
        (if hasIgnoreCase flags then ", true)" else ")")
  | .old path => ofText path
  | .quantified quantifier subject condition =>
      enclose "(" (subject.2 ++ Piece.text "[* RETURN " :: condition.2)
        ("] " ++ quantifier.text ++ " == true)")
  | .unset document fields =>
      enclose "UNSET(" (intercalate ", "
        (document.2 :: fields.map fun field =>
          [.hole "value" (.text field)])) ")"
  | .object members => (Document.map Prod.snd members).template
  | .array items => enclose "[" (intercalate ", " (items.map Prod.snd)) "]"
  | .subquery query => enclose "(" (subqueryTemplate query) ")"
  | .stray content =>
      [.halt (.type (.notAnExpression content.typeName))]

def Expr.template : Expr → Template :=
  Expr.fold Node.template

/-- The text of a query and the values that it refers to. -/
structure CompiledQuery where
  text : String
  bindings : List (String × Value)

namespace Query

def lineTemplates (query : Query) : Record Template :=
  query.map Expr.template

/-- The text of a record rendered next to other records, whose bindings are
already in the store. -/
def render (query : Query) (store : BindingStore String) :
    Except Error (String × BindingStore String) :=
  fill (subqueryTemplate (query.map (Expr.withFold Node.template))) store

def compile (query : Query) : Except Error CompiledQuery :=
  match query.raw with
  | some raw => .ok ⟨raw, Record.members query.rawBindings⟩
  | none =>
      match query.faults with
      | fault :: _ => .error (.configuration fault)
      | [] => do
          let (text, store) ← fill query.lineTemplates.template {}
          return ⟨text, store.values⟩

/-- How many kinds of clauses the compiled query has. -/
def clauseCount (query : Query) : Nat :=
  query.lineTemplates.clauseCount

end Query

/-- Renders an expression that stands alone. -/
def Expr.compile (expr : Expr) : Except Error CompiledQuery := do
  let (text, store) ← fill expr.template {}
  return ⟨text, store.values⟩

end ArangoQuery
