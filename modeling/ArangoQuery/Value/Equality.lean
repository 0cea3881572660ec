import ArangoQuery.Value.Basic

/-!
# Numerical equality of values

Two values are the same when they differ at most in how equal numbers are
spelled: `1`, `true` and `1.0` are the same, as are mappings with the same
entries in another order.  A list is never the same as a tuple, a text never the
same as a number, and a NaN is the same as nothing.

A mapping that was read from text may give a key more than once;
`Value.withoutRepeats` leaves one entry for each key.
-/

namespace ArangoQuery

namespace Scalar

/-- The integer that a truth value or an integral number is equal to. -/
def toInt? : Scalar → Option Int
  | .bool value => some (if value then 1 else 0)
  | .int value => some value
  | .float value => value.toInt?
  | _ => none

def same (left right : Scalar) : Bool :=
  match left, right with
  | .null, .null => true
  | .text left, .text right => left == right
  | .float left, .float right => left.same right
  | left, right =>
      match left.toInt?, right.toInt? with
      | some left, some right => left == right
      | _, _ => false

end Scalar

namespace Value

mutual

def same : Value → Value → Bool
  | .scalar left, .scalar right => left.same right
  | .list left, .list right => sameList left right
  | .tuple left, .tuple right => sameList left right
  | .map left, .map right =>
      left.length == right.length && sameEntries left right
  | .model leftName left, .model rightName right =>
      leftName == rightName && sameFields left right
  | _, _ => false

def sameList : List Value → List Value → Bool
  | [], [] => true
  | left :: lefts, right :: rights => same left right && sameList lefts rights
  | _, _ => false

/-- Has every entry on the left an equal one on the right? -/
def sameEntries : List (Scalar × Value) → List (Scalar × Value) → Bool
  | [], _ => true
  | (key, left) :: lefts, rights =>
      (match lookupEntry Scalar.same key rights with
        | some right => same left right
        | none => false) &&
      sameEntries lefts rights

def sameFields : List (Label × Value) → List (Label × Value) → Bool
  | [], [] => true
  | (leftLabel, left) :: lefts, (rightLabel, right) :: rights =>
      leftLabel == rightLabel && same left right && sameFields lefts rights
  | _, _ => false

end

mutual

/-- Of entries with the same key the first one keeps its place and takes the
value of the last one, at every depth of plain data. -/
def withoutRepeats : Value → Value
  | .list items => .list (withoutRepeatsList items)
  | .tuple items => .tuple (withoutRepeatsList items)
  | .map entries =>
      .map (entriesOf Scalar.same (withoutRepeatsEntries entries))
  | value => value

def withoutRepeatsList : List Value → List Value
  | [] => []
  | value :: rest => withoutRepeats value :: withoutRepeatsList rest

def withoutRepeatsEntries :
    List (Scalar × Value) → List (Scalar × Value)
  | [] => []
  | (key, value) :: rest =>
      (key, withoutRepeats value) :: withoutRepeatsEntries rest

end

end Value

end ArangoQuery
