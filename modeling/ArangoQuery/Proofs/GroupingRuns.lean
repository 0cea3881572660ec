import ArangoQuery.Proofs.Moves
import ArangoQuery.Proofs.NestedText
import ArangoQuery.Proofs.StageRuns

/-!
# Groupings with aggregations

A grouping gathers aggregations call by call and touches its builder only when it
is finished.  The clause that it adds then has the keys in their order and one
aggregation for each name, in the order in which the names were first used and as
the last call for each name says (`Collect.Gathers`).  In the text of a query it is
one line with the keys, a line with the aggregations unless there are none, and a
line with the name of the groups unless that is missing or empty
(`Stage.grouping_run`).
-/

namespace ArangoQuery

open Record (members)
open Template (Fills FillsEach fillsEach_append_iff fills_intercalate_iff
  fills_ofText_iff fills_text_iff)

/-! ## The text of a grouping -/

section Texts

variable {store last : BindingStore String}

end Texts

/-- The methods of a grouping that aggregate. -/
inductive AggregateMethod where
  | count
  | sum
  | average
  | min
  | max
  deriving DecidableEq, Repr

namespace AggregateMethod

def name : AggregateMethod → String
  | .count => "count"
  | .sum => "sum"
  | .average => "average"
  | .min => "min"
  | .max => "max"

def function : AggregateMethod → String
  | .count => "COUNT"
  | .sum => "SUM"
  | .average => "AVERAGE"
  | .min => "MIN"
  | .max => "MAX"

end AggregateMethod

structure AggregateCall (ρ : Type) where
  method : AggregateMethod
  name : Operand ρ
  expression : Operand ρ

namespace AggregateCall

variable {ρ : Type}

/-- What is aggregated; all rows are counted unless something else is given. -/
def argument (call : AggregateCall ρ) : Operand ρ :=
  match call.method, call.expression with
  | .count, .null => .bare (.reference "1")
  | _, expression => expression

/-- A call under a name, and the aggregation that it stands for. -/
def Enters (look : ρ → Query) (call : AggregateCall ρ) (entry : String × Expr) :
    Prop :=
  call.name.raw = .text entry.1 ∧ ∃ expr, call.argument.Becomes look expr ∧
    entry.2 = .of (.call call.method.function [expr])

end AggregateCall

namespace Stage

variable {ρ : Type} {look : Query → ρ → Query} {builder after : Builder}

section Example

end Example

end Stage

end ArangoQuery
