import ArangoQuery.Fault.Error
import ArangoQuery.Value.Equality

/-!
# Page arithmetic

Pages are counted from one.  Page and size may be integers, truth values or
floating-point numbers; a floating-point number among them makes the offset one
too.
-/

namespace ArangoQuery

inductive Number where
  | int (value : Int)
  | float (value : Binary64)

namespace Number

def ofValue? : Value → Option Number
  | .int value => some (.int value)
  | .bool value => some (.int (if value then 1 else 0))
  | .float value => some (.float value)
  | _ => none

def scalar : Number → Scalar
  | .int value => .int value
  | .float value => .float value

/-- A NaN is below no number. -/
def belowOne : Number → Bool
  | .int value => value < 1
  | .float value => value.ltInt 1

def pred : Number → Number
  | .int value => .int (value - 1)
  | .float value => .float (value.sub .one)

def toFloat : Number → Except Error Binary64
  | .int value =>
      match Binary64.ofInt? value with
      | some value => .ok value
      | none => .error .overflow
  | .float value => .ok value

def times : Number → Number → Except Error Number
  | .int left, .int right => .ok (.int (left * right))
  | left, right => do
      let left ← left.toFloat
      let right ← right.toFloat
      return .float (left.mul right)

end Number

/-- The number of results before a page. -/
def pageOffset (page size : Value) : Except Error Scalar := do
  let some page := Number.ofValue? page | throw (.type .mismatch)
  if page.belowOne then throw (.value .pageNumber)
  let some size := Number.ofValue? size | throw (.type .mismatch)
  if size.belowOne then throw (.value .pageSize)
  return (← page.pred.times size).scalar

end ArangoQuery
