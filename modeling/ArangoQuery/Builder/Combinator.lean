import ArangoQuery.Builder.Operand

/-!
# Combining expressions

Every combinator builds one node over expressions that exist already.  What is
not an expression, and what does not fit the fields of the node, is counted and
refused.
-/

namespace ArangoQuery.Expr

open Check

def combine (operator : BinaryOperator) (left right : Expr) :
    Except Error Expr :=
  ((fun left right => .of (.binary operator left right)) <$> left.accept <*>
    right.accept).orInvalid "BinaryOp"

def apply (operator : UnaryOperator) (operand : Expr) : Except Error Expr :=
  ((fun operand => .of (.unary operator operand)) <$>
    operand.accept).orInvalid "UnaryOp"

def like (subject : Expr) (pattern ignoreCase : Value) : Except Error Expr :=
  ((fun subject pattern ignoreCase =>
      .of (.like subject pattern ignoreCase)) <$>
    subject.accept <*> text pattern <*> bool ignoreCase).orInvalid "LikeOp"

def regex (subject : Expr) (pattern flags : Value) : Except Error Expr :=
  ((fun subject pattern flags => .of (.regex subject pattern flags)) <$>
    subject.accept <*> text pattern <*>
    nullable text flags).orInvalid "RegexOp"

def quantify (quantifier : Quantifier) (subject condition : Expr) :
    Except Error Expr :=
  ((fun subject condition =>
      .of (.quantified quantifier subject condition)) <$>
    subject.accept <*> condition.accept).orInvalid
    (match quantifier with
      | .all => "AllOperator"
      | .any => "AnyOperator")

def choose (condition thenValue elseValue : Expr) : Except Error Expr :=
  ((fun condition thenValue elseValue =>
      .of (.ternary condition thenValue elseValue)) <$>
    condition.accept <*> thenValue.accept <*>
    elseValue.accept).orInvalid "Ternary"

def unset (document : Expr) (fields : List Value) : Except Error Expr :=
  ((fun document fields => .of (.unset document fields)) <$>
    document.accept <*> Checked.traverse text fields).orInvalid "UnsetNode"

/-- An attribute of a variable or of an attribute path. -/
def property (expr : Expr) (name : Value) : Except Error Expr :=
  match expr with
  | .reference path => .ok (.reference (path ++ "." ++ name.display))
  | _ => .error (.value .propertyOfComplexExpression)

/-- An attribute of the previous revision of a document. -/
def oldProperty (name : Value) : Expr :=
  .of (.old ("OLD." ++ name.display))

/-- Leading marks do not belong to the name of a parameter. -/
def ofParameter (collection : Bool) (name : Value) : Except Error Expr :=
  match name with
  | .text given =>
      let bare := String.ofList (given.toList.dropWhile (· = '@'))
      match ParameterName.of? bare with
      | some name => .ok (.parameter { name, collection })
      | none => .error (.value (.parameterName given))
  | _ => .error .attribute

end ArangoQuery.Expr
