import ArangoQuery.Fault.Error
import ArangoQuery.Value.Equality

/-!
# The store of bind variables

Values are kept under names and never written into the query text.  `bind` makes
a name up from a stem and a counter that all stems share; `merge` takes over
values under names of the caller's choice.  A name once bound is never given to
another value.
-/

namespace ArangoQuery

/-- What values are bound under.  The names in a query are texts; a store that is
filled by hand takes every scalar for a name. -/
class BindingName (ν : Type) where
  toScalar : ν → Scalar
  ofText : String → ν

instance : BindingName String where
  toScalar := .text
  ofText := id

instance : BindingName Scalar where
  toScalar := id
  ofText := .text

namespace BindingName

variable {ν : Type} [BindingName ν]

/-- Scalars that are equal as numbers are one name. -/
def same (left right : ν) : Bool :=
  (toScalar left).same (toScalar right)

@[simp] theorem same_text (left right : String) :
    same left right = (left == right) :=
  rfl

end BindingName

structure BindingStore (ν : Type) where
  values : List (ν × Value) := []
  counter : Nat := 0

instance {ν : Type} : Inhabited (BindingStore ν) := ⟨{}⟩

namespace BindingStore

variable {ν : Type} [BindingName ν]

def isBound (store : BindingStore ν) (name : ν) : Bool :=
  store.values.any (BindingName.same ·.1 name)

def get? (store : BindingStore ν) (name : ν) : Option Value :=
  lookupEntry BindingName.same name store.values

/-- The name that a stem and a number make. -/
def numbered (stem : String) (number : Nat) : String :=
  stem ++ toString number

/-- The first number from `counter` on that makes a name not yet bound.  Among
one more candidates than there are bound names one is free. -/
def firstFree (store : BindingStore ν) (stem : String) : Nat → Nat → Nat
  | 0, counter => counter
  | fuel + 1, counter =>
      if store.isBound (BindingName.ofText (numbered stem counter)) then
        store.firstFree stem fuel (counter + 1)
      else counter

/-- Stores a value and returns the name made up for it. -/
def bind (store : BindingStore ν) (stem : String) (value : Value) :
    String × BindingStore ν :=
  let number :=
    store.firstFree stem (store.values.length + 1) store.counter
  let name := numbered stem number
  (name,
    { values := store.values ++ [(BindingName.ofText name, value)],
      counter := number + 1 })

/-- Puts a value under a given name, unless a different one is there. -/
def adopt (store : BindingStore ν) (name : ν) (value : Value) :
    Except ConfigurationFault (BindingStore ν) :=
  match store.get? name with
  | some bound =>
      if bound.same value then
        .ok { store with
          values := putEntry BindingName.same name value store.values }
      else .error (.boundTwice (BindingName.toScalar name))
  | none => .ok { store with values := store.values ++ [(name, value)] }

/-- Adopts all values in order; what was adopted before a conflict stays. -/
def merge (store : BindingStore ν) :
    List (ν × Value) → Option ConfigurationFault × BindingStore ν
  | [] => (none, store)
  | (name, value) :: rest =>
      match store.adopt name value with
      | .ok store => store.merge rest
      | .error fault => (some fault, store)

end BindingStore

end ArangoQuery
