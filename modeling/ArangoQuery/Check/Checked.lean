import ArangoQuery.Fault.Error
import ArangoQuery.Value.Equality

/-!
# Checks that count faults

A check of several fields goes on after the first fault, so that all faults are
counted.  For that reason `Checked` is applicative and not a monad: the faults of
independent checks add up.
-/

namespace ArangoQuery

inductive Checked (α : Type) where
  | ok (value : α)
  | rejected (faults : Nat)
  deriving Repr

namespace Checked

variable {α β γ : Type}

def map (f : α → β) : Checked α → Checked β
  | .ok value => .ok (f value)
  | .rejected faults => .rejected faults

def faults : Checked α → Nat
  | .ok _ => 0
  | .rejected faults => faults

def both (f : α → β → γ) : Checked α → Checked β → Checked γ
  | .ok left, .ok right => .ok (f left right)
  | left, right => .rejected (left.faults + right.faults)

instance : Functor Checked where
  map := map

instance : Applicative Checked where
  pure := .ok
  seq function argument := both (fun f value => f value) function (argument ())

/-- Adds the faults of a check whose result is not needed. -/
def withFaults (count : Nat) : Checked α → Checked α
  | .ok value => if count = 0 then .ok value else .rejected count
  | .rejected faults => .rejected (faults + count)

def ofOption : Option α → Checked α
  | some value => .ok value
  | none => .rejected 1

def traverse (check : α → Checked β) : List α → Checked (List β)
  | [] => .ok []
  | value :: rest => both List.cons (check value) (traverse check rest)

def value? : Checked α → Option α
  | .ok value => some value
  | .rejected _ => none

/-- The result of a check as the outcome of building a typed record. -/
def orInvalid (name : String) : Checked α → Except Error α
  | .ok value => .ok value
  | .rejected faults => .error (.invalidModel name faults)

@[simp] theorem map_ok (f : α → β) (value : α) : map f (.ok value) = .ok (f value) :=
  rfl

@[simp] theorem both_ok (f : α → β → γ) (left : α) (right : β) :
    both f (.ok left) (.ok right) = .ok (f left right) :=
  rfl

theorem traverse_map_ok {δ : Type} (check : δ → Checked β) (encode : β → δ)
    (values : List β) (h : ∀ value ∈ values, check (encode value) = .ok value) :
    traverse check (values.map encode) = .ok values := by
  induction values with
  | nil => rfl
  | cons value rest hrest =>
      have hvalue := h value (by simp)
      have htail := hrest fun other member => h other (by simp [member])
      simp [traverse, hvalue, htail]

end Checked

end ArangoQuery
