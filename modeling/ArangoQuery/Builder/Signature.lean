import ArangoQuery.Value.Basic

/-!
# Signatures

Arguments are given by position or by name.  A signature assigns them to
parameters: positions first, then names, then defaults.  Whatever cannot be
assigned, is assigned twice or is missing makes the call impossible.
-/

namespace ArangoQuery

structure Parameter where
  name : String
  /-- The value of a parameter that is not given; without one it has to be. -/
  default : Option Scalar := none

structure Signature where
  parameters : List Parameter := []
  /-- Are further arguments accepted by position? -/
  rest : Bool := false
  /-- Parameters that can be given by name only. -/
  named : List Parameter := []
  /-- Are arguments accepted under names that are no parameters? -/
  extra : Bool := false

structure Arguments (α : Type) where
  positional : List α := []
  named : List (String × α) := []

def Arguments.map {α β : Type} (f : α → β) (arguments : Arguments α) :
    Arguments β where
  positional := arguments.positional.map f
  named := arguments.named.map fun (name, value) => (name, f value)

/-- The arguments of a call, each where it belongs. -/
structure Assignment (α : Type) where
  values : List α
  rest : List α
  named : List α
  extra : List (String × α)

namespace Signature

variable {α : Type}

/-- The arguments of a list of parameters, and the positional ones left over. -/
def assign (ofScalar : Scalar → α) (named : List (String × α)) :
    List Parameter → List α → Option (List α × List α)
  | [], positional => some ([], positional)
  | parameter :: rest, value :: positional =>
      if named.any (·.1 == parameter.name) then none
      else
        (assign ofScalar named rest positional).map fun (values, left) =>
          (value :: values, left)
  | parameter :: rest, [] => do
      let value ← (lookupEntry (· == ·) parameter.name named).or
        (parameter.default.map ofScalar)
      let (values, left) ← assign ofScalar named rest []
      return (value :: values, left)

def bind (signature : Signature) (ofScalar : Scalar → α)
    (arguments : Arguments α) : Option (Assignment α) := do
  let (values, left) ←
    assign ofScalar arguments.named signature.parameters arguments.positional
  let (named, _) ← assign ofScalar arguments.named signature.named []
  let isDeclared (name : String) : Bool :=
    (signature.parameters ++ signature.named).any (·.name == name)
  let extra := arguments.named.filter (!isDeclared ·.1)
  if (!left.isEmpty && !signature.rest) || (!extra.isEmpty && !signature.extra)
  then none
  else return { values, rest := left, named, extra }

end Signature

end ArangoQuery
