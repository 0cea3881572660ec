import ArangoQuery.Check.Clause
import ArangoQuery.Query.Description

/-!
# Checks of expressions

An expression in plain data is told by its tag.  `Expr.check` reads expressions
of any depth: the depth of the value bounds that of the expression, and each
level of the recursion goes one level down.
-/

namespace ArangoQuery

open Check

/-- The kinds of nodes. -/
inductive NodeKind where
  | literal
  | reference
  | parameter
  | binary
  | unary
  | call
  | ternary
  | like
  | regex
  | old
  | all
  | any
  | unset
  | object
  | array
  | subquery
  deriving DecidableEq, Repr

namespace NodeKind

def tag : NodeKind → String
  | .literal => "literal"
  | .reference => "reference"
  | .parameter => "parameter"
  | .binary => "binary"
  | .unary => "unary"
  | .call => "function"
  | .ternary => "ternary"
  | .like => "like"
  | .regex => "regex"
  | .old => "old"
  | .all => "all"
  | .any => "any"
  | .unset => "unset"
  | .object => "object"
  | .array => "array"
  | .subquery => "subquery"

def modelName : NodeKind → String
  | .literal => "LiteralNode"
  | .reference => "ReferenceNode"
  | .parameter => "ParameterNode"
  | .binary => "BinaryOp"
  | .unary => "UnaryOp"
  | .call => "FunctionCall"
  | .ternary => "Ternary"
  | .like => "LikeOp"
  | .regex => "RegexOp"
  | .old => "OldReference"
  | .all => "AllOperator"
  | .any => "AnyOperator"
  | .unset => "UnsetNode"
  | .object => "ObjectNode"
  | .array => "ArrayNode"
  | .subquery => "SubqueryNode"

def every : List NodeKind :=
  [.literal, .reference, .parameter, .binary, .unary, .call, .ternary, .like,
    .regex, .old, .all, .any, .unset, .object, .array, .subquery]

def ofTag? (tag : String) : Option NodeKind :=
  every.find? (·.tag == tag)

def ofModelName? (name : String) : Option NodeKind :=
  every.find? (·.modelName == name)

/-- The declared fields, the tag apart. -/
def ownLabels : NodeKind → List Label
  | .literal => [.same "value"]
  | .reference => [.same "name"]
  | .parameter => [.same "name", .isCollection]
  | .binary => [.same "operator", .same "left", .same "right"]
  | .unary => [.same "operator", .same "operand"]
  | .call => [.same "name", .same "args"]
  | .ternary => [.same "condition", .camel "then_value", .camel "else_value"]
  | .like => [.same "expression", .same "pattern", .camel "case_insensitive"]
  | .regex => [.same "expression", .same "pattern", .same "flags"]
  | .old => [.same "path"]
  | .all => [.same "expression", .same "condition"]
  | .any => [.same "expression", .same "condition"]
  | .unset => [.unsetDocument, .same "fields"]
  | .object => [.same "fields"]
  | .array => [.same "items"]
  | .subquery => [.same "query"]

def labels (kind : NodeKind) : List Label :=
  .same "type" :: kind.ownLabels

end NodeKind

namespace Node

variable {ε : Type}

/-- The fields of a node of a given kind. -/
def checkFields (sub : Value → Checked ε) (members : Members) :
    NodeKind → Checked (Node ε)
  | .literal =>
      .literal <$> members.withDefault (.same "value") .null anything
  | .reference => .reference <$> members.required (.same "name") text
  | .parameter =>
      (fun name collection => .parameter { name, collection }) <$>
        members.required (.same "name") name <*>
        members.withDefault .isCollection false bool
  | .binary =>
      .binary <$>
        members.required (.same "operator") (word BinaryOperator.ofText?) <*>
        members.required (.same "left") sub <*>
        members.required (.same "right") sub
  | .unary =>
      .unary <$>
        members.required (.same "operator") (word UnaryOperator.ofText?) <*>
        members.required (.same "operand") sub
  | .call =>
      .call <$> members.required (.same "name") text <*>
        members.withDefault (.same "args") [] (listOf sub)
  | .ternary =>
      .ternary <$> members.required (.same "condition") sub <*>
        members.required (.camel "then_value") sub <*>
        members.required (.camel "else_value") sub
  | .like =>
      .like <$> members.required (.same "expression") sub <*>
        members.required (.same "pattern") text <*>
        members.withDefault (.camel "case_insensitive") false bool
  | .regex =>
      .regex <$> members.required (.same "expression") sub <*>
        members.required (.same "pattern") text <*>
        members.optional (.same "flags") text
  | .old => .old <$> members.required (.same "path") text
  | .all =>
      .quantified .all <$> members.required (.same "expression") sub <*>
        members.required (.same "condition") sub
  | .any =>
      .quantified .any <$> members.required (.same "expression") sub <*>
        members.required (.same "condition") sub
  | .unset =>
      .unset <$> members.required .unsetDocument sub <*>
        members.withDefault (.same "fields") [] (listOf text)
  | .object =>
      .object <$> members.withDefault (.same "fields") [] (mapOf sub)
  | .array => .array <$> members.withDefault (.same "items") [] (listOf sub)
  | .subquery =>
      .subquery <$> members.required (.same "query") (Record.check sub)

/-- A node of a given kind, whose tag may be left out. -/
def checkKind (sub : Value → Checked ε) (kind : NodeKind) :
    Value → Checked (Node ε) :=
  model kind.modelName kind.labels fun members =>
    (fun _ node => node) <$> members.tag kind.tag <*>
      checkFields sub members kind

/-- A node of the kind that its tag names. -/
def check (sub : Value → Checked ε) (value : Value) : Checked (Node ε) :=
  match (Members.tagOf? value).bind NodeKind.ofTag? with
  | some kind => checkKind sub kind value
  | none => .rejected 1

end Node

namespace Expr

/-- Reads an expression of at most the given depth. -/
def checkWithin : Nat → Value → Checked Expr
  | 0, _ => .rejected 1
  | depth + 1, value => .of <$> Node.check (checkWithin depth) value

def check (value : Value) : Checked Expr :=
  checkWithin value.depth value

end Expr

def Query.check (value : Value) : Checked Query :=
  Record.check (Expr.checkWithin value.depth) value

end ArangoQuery
