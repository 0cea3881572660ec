import ArangoQuery.Builder.Function
import ArangoQuery.Builder.Session
import ArangoQuery.Rendering.Compiled

/-!
# Scripts

A script drives builders by name: a step names a method and gives its arguments
as terms.  Terms are data with applications of named functions, method chains,
nested scripts and small closures inside.  Evaluating a term yields an `Object`.
-/

namespace ArangoQuery

mutual

inductive Term where
  | scalar (value : Scalar)
  | list (items : List Term)
  | tuple (items : List Term)
  | map (entries : List (Scalar × Term))
  | apply (function : String) (positional : List Term)
      (named : List (String × Term))
  /-- A call of a query function. -/
  | helper (group : FunctionGroup) (name : String)
      (positional : List Term) (named : List (String × Term))
  /-- A typed record of the given name. -/
  | model (name : String) (contents : Term)
  /-- A new builder after some steps. -/
  | script (steps : List Step)
  | closure (body : Term)
  /-- What the innermost closure has been called with. -/
  | argument (position : Nat)
  | saved (name : Scalar)
  | chain (subject : Term) (step : Step)

inductive Step where
  | call (method : String) (positional : List Term)
      (named : List (String × Term))

end

instance : Inhabited Term := ⟨.scalar .null⟩

instance : Inhabited Step := ⟨.call "" [] []⟩

mutual

/-- The number of nested levels, which bounds the evaluation. -/
def Term.depth : Term → Nat
  | .scalar _ => 1
  | .list items => depthTerms items + 1
  | .tuple items => depthTerms items + 1
  | .map entries => depthEntries entries + 1
  | .apply _ positional named =>
      max (depthTerms positional) (depthNamed named) + 1
  | .helper _ _ positional named =>
      max (depthTerms positional) (depthNamed named) + 1
  | .model _ contents => contents.depth + 1
  | .script steps => depthSteps steps + 1
  | .closure body => body.depth + 1
  | .argument _ => 1
  | .saved _ => 1
  | .chain subject step => max subject.depth step.depth + 1

def Step.depth : Step → Nat
  | .call _ positional named =>
      max (depthTerms positional) (depthNamed named) + 1

def depthTerms : List Term → Nat
  | [] => 0
  | term :: rest => max term.depth (depthTerms rest)

def depthNamed : List (String × Term) → Nat
  | [] => 0
  | (_, term) :: rest => max term.depth (depthNamed rest)

def depthEntries : List (Scalar × Term) → Nat
  | [] => 0
  | (_, term) :: rest => max term.depth (depthEntries rest)

def depthSteps : List Step → Nat
  | [] => 0
  | step :: rest => max step.depth (depthSteps rest)

end

/-- What a term evaluates to. -/
inductive Object where
  | operand (operand : Operand Nat)
  /-- A condition and its value, still without an alternative. -/
  | pending (condition thenValue : Expr)
  /-- The previous revision of a document. -/
  | previous
  | stage (number : Nat)
  | closure (body : Term)

namespace Object

instance : Inhabited Object := ⟨.operand .null⟩

/-- An object in the position of an operand. -/
def toOperand : Object → Operand Nat
  | .operand content => content
  | .pending .. => .other (.foreign "PendingTernary" "<PendingTernary>")
  | .previous => .other (.foreign "OldBuilder" "<OldBuilder>")
  | .stage _ => .other (.foreign "Stage" "<Stage>")
  | .closure _ => .other (.foreign "function" "<function>")

def built (expr : Expr) : Object :=
  .operand (.built expr)

end Object

end ArangoQuery
