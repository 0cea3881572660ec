import ArangoQuery.Check.Node
import ArangoQuery.Fault.Error

/-!
# Operands

What a caller may hand over in the place of an expression: plain data, built
expressions, other builders, and containers that mix all of them.  Plain data
becomes one literal; a container with a builder or an expression in it becomes an
array or a document whose members are converted one by one.

A builder is known by a handle of type `ρ`; `look` finds the record behind it.
-/

namespace ArangoQuery

inductive Operand (ρ : Type) where
  | scalar (value : Scalar)
  | list (items : List (Operand ρ))
  | tuple (items : List (Operand ρ))
  | map (entries : List (Scalar × Operand ρ))
  /-- An expression under construction. -/
  | built (expr : Expr)
  /-- An expression given as a node. -/
  | bare (expr : Expr)
  /-- Another builder, which stands for a subquery. -/
  | query (handle : ρ)
  | other (value : Value)

namespace Operand

variable {ρ : Type}

instance : Inhabited (Operand ρ) := ⟨.scalar .null⟩

@[match_pattern] abbrev null : Operand ρ := scalar .null
@[match_pattern] abbrev text (value : String) : Operand ρ := scalar (.text value)

/-- A built expression as messages show it. -/
def builtValue (expr : Expr) : Value :=
  .foreign "ExpressionBuilder"
    ("ExpressionBuilder(" ++ expr.describe.inspect ++ ")")

mutual

/-- An operand as it is stored where nothing converts it. -/
def raw : Operand ρ → Value
  | .scalar value => .scalar value
  | .list items => .list (rawList items)
  | .tuple items => .tuple (rawList items)
  | .map entries => .map (rawEntries entries)
  | .built expr => builtValue expr
  | .bare expr => expr.describe
  | .query _ => .foreign "AQLBuilder" "<AQLBuilder>"
  | .other value => value

def rawList : List (Operand ρ) → List Value
  | [] => []
  | operand :: rest => raw operand :: rawList rest

def rawEntries : List (Scalar × Operand ρ) → List (Scalar × Value)
  | [] => []
  | (key, operand) :: rest => (key, raw operand) :: rawEntries rest

end

mutual

/-- Is this plain data, without expressions and builders inside? -/
def isPlain : Operand ρ → Bool
  | .scalar _ => true
  | .list items => arePlain items
  | .tuple items => arePlain items
  | .map entries => arePlainEntries entries
  | .built _ => false
  | .bare _ => false
  | .query _ => false
  | .other _ => true

def arePlain : List (Operand ρ) → Bool
  | [] => true
  | operand :: rest => isPlain operand && arePlain rest

def arePlainEntries : List (Scalar × Operand ρ) → Bool
  | [] => true
  | (_, operand) :: rest => isPlain operand && arePlainEntries rest

end

mutual

/-- Plain data in the form that survives a snapshot: tuples are lists, and keys
are texts. -/
def plain : Operand ρ → Value
  | .list items => .list (plainList items)
  | .tuple items => .list (plainList items)
  | .map entries => .map (entriesOf Scalar.same (plainEntries entries))
  | operand => operand.raw

def plainList : List (Operand ρ) → List Value
  | [] => []
  | operand :: rest => plain operand :: plainList rest

def plainEntries : List (Scalar × Operand ρ) → List (Scalar × Value)
  | [] => []
  | (key, operand) :: rest =>
      (.text key.display, plain operand) :: plainEntries rest

end

end Operand

namespace Expr

/-- Something put in the place of an expression is checked like plain data; a
proper expression is taken as it is. -/
def accept : Expr → Checked Expr
  | .stray content => Expr.check content
  | expr => .ok expr

/-- An expression that may be missing. -/
def acceptSome : Expr → Checked (Option Expr)
  | .stray .null => .ok none
  | expr => expr.accept.map some

def acceptMember (member : String × Expr) : Checked (String × Expr) :=
  member.2.accept.map fun expr => (member.1, expr)

/-- A document expression with the given members. -/
def ofMembers (members : Document Expr) : Except Error Expr :=
  ((Checked.traverse acceptMember members).map Expr.object).orInvalid
    "ObjectNode"

/-- An array expression with the given items. -/
def ofItems (items : List Expr) : Except Error Expr :=
  ((Checked.traverse accept items).map Expr.array).orInvalid "ArrayNode"

/-- A call of a function. -/
def ofCall (function : Value) (arguments : List Expr) : Except Error Expr :=
  ((fun function arguments => Expr.of (.call function arguments)) <$>
    Check.text function <*>
    Checked.traverse accept arguments).orInvalid "FunctionCall"

/-- A variable or attribute path. -/
def ofPath (path : Value) : Except Error Expr :=
  ((Check.text path).map Expr.reference).orInvalid "ReferenceNode"

end Expr

namespace Operand

variable {ρ : Type} (look : ρ → Query)

mutual

/-- The expression that an operand stands for.  A text is a literal unless it is
a placeholder. -/
def toExpr : Operand ρ → Except Error Expr
  | .scalar (.text content) =>
      match Placeholder.of? content with
      | some placeholder => .ok (.parameter placeholder)
      | none => .ok (.literal (.text content))
  | .scalar value => .ok (.literal (.scalar value))
  | .list items =>
      if arePlain items then .ok (.literal (.list (plainList items)))
      else do Expr.ofItems (← toExprs items)
  | .tuple items =>
      if arePlain items then .ok (.literal (.list (plainList items)))
      else do Expr.ofItems (← toExprs items)
  | .map entries =>
      if arePlainEntries entries then
        .ok (.literal (plain (.map entries)))
      else do
        Expr.ofMembers (entriesOf (· == ·) (← toMembers entries))
  | .built expr => .ok expr
  | .bare expr => .ok expr
  | .query handle => .ok (.subquery (look handle))
  | .other value => .ok (.literal value)

def toExprs : List (Operand ρ) → Except Error (List Expr)
  | [] => .ok []
  | operand :: rest => do
      let expr ← toExpr operand
      let rest ← toExprs rest
      return expr :: rest

/-- The members of a document: mappings in it are documents too. -/
def toMembers :
    List (Scalar × Operand ρ) → Except Error (List (String × Expr))
  | [] => .ok []
  | (key, .map entries) :: rest => do
      let inner ← toMembers entries
      let expr ← Expr.ofMembers (entriesOf (· == ·) inner)
      let rest ← toMembers rest
      return (key.display, expr) :: rest
  | (key, operand) :: rest => do
      let expr ← toExpr operand
      let rest ← toMembers rest
      return (key.display, expr) :: rest

end

/-- A document in its own right, or a value. -/
def ofMapping (entries : List (Scalar × Operand ρ)) : Except Error Expr := do
  Expr.ofMembers (entriesOf (· == ·) (← toMembers look entries))

/-- Is this a text that names a variable or a path? -/
def path? : Operand ρ → Option String
  | .scalar (.text content) =>
      if startsWithAt content then none else some content
  | _ => none

/-- The expression in a position where texts are paths and mappings are
documents. -/
def toValue : Operand ρ → Except Error Expr
  | .map entries => ofMapping look entries
  | operand =>
      match operand.path? with
      | some path => .ok (.reference path)
      | none => operand.toExpr look

/-- The subject of a call: a text is a path. -/
def toSubject (operand : Operand ρ) : Except Error Expr :=
  match operand.path? with
  | some path => .ok (.reference path)
  | none => operand.toExpr look

/-- The document of a modification: mappings are documents, all else a value. -/
def toDocument (operand : Operand ρ) : Except Error Expr :=
  operand.toValue look

/-- The options of a loop or a search. -/
def toOptions (operand : Operand ρ) :
    Except Error (Option (Document Expr)) :=
  match operand with
  | .null => .ok none
  | operand => do
      match ← operand.toDocument look with
      | .object members => return some members
      | _ => throw (.value .optionsNotMapping)

/-- The name of a variable given as such or as a reference to it. -/
def toVariable : Operand ρ → Except Error Value
  | .built (.reference path) => .ok (.text path)
  | .built _ => .error (.value .variableOfComplexExpression)
  | operand => .ok operand.raw

end Operand

end ArangoQuery
