import ArangoQuery.Query.Node

/-!
# Keywords

The spellings of the closed vocabularies, in query text and in snapshots alike.
Reading looks the spelling up among all members, so that a word is accepted
exactly when it is the spelling of one of them.
-/

namespace ArangoQuery

namespace BinaryOperator

def text : BinaryOperator → String
  | .equal => "=="
  | .notEqual => "!="
  | .less => "<"
  | .lessOrEqual => "<="
  | .greater => ">"
  | .greaterOrEqual => ">="
  | .and => "&&"
  | .or => "||"
  | .add => "+"
  | .subtract => "-"
  | .multiply => "*"
  | .divide => "/"
  | .modulo => "%"
  | .isIn => "IN"
  | .notIn => "NOT IN"

def all : List BinaryOperator :=
  [.equal, .notEqual, .less, .lessOrEqual, .greater, .greaterOrEqual, .and, .or,
    .add, .subtract, .multiply, .divide, .modulo, .isIn, .notIn]

def ofText? (word : String) : Option BinaryOperator :=
  all.find? (·.text == word)

/-- Membership tests give a list on their right side a binding of its own
kind. -/
def isMembership : BinaryOperator → Bool
  | .isIn => true
  | .notIn => true
  | _ => false

end BinaryOperator

namespace UnaryOperator

def text : UnaryOperator → String
  | .not => "!"
  | .negate => "-"

def all : List UnaryOperator := [.not, .negate]

def ofText? (word : String) : Option UnaryOperator :=
  all.find? (·.text == word)

end UnaryOperator

namespace Quantifier

def text : Quantifier → String
  | .all => "ALL"
  | .any => "ANY"

end Quantifier

namespace Direction

def text : Direction → String
  | .outbound => "OUTBOUND"
  | .inbound => "INBOUND"
  | .any => "ANY"

def all : List Direction := [.outbound, .inbound, .any]

def ofText? (word : String) : Option Direction :=
  all.find? (·.text == word)

end Direction

namespace SortDirection

def text : SortDirection → String
  | .ascending => "ASC"
  | .descending => "DESC"

def all : List SortDirection := [.ascending, .descending]

def ofText? (word : String) : Option SortDirection :=
  all.find? (·.text == word)

end SortDirection

namespace OperationKind

def text : OperationKind → String
  | .insert => "INSERT"
  | .replace => "REPLACE"
  | .remove => "REMOVE"
  | .update => "UPDATE"

def all : List OperationKind := [.insert, .replace, .remove, .update]

def ofText? (word : String) : Option OperationKind :=
  all.find? (·.text == word)

end OperationKind

namespace Bound

def text : Bound → String
  | .unbounded => "unbounded"
  | .rows count => toString count

end Bound

namespace Phase

def text : Phase → String
  | .beforeCollect => "pre_collect"
  | .afterCollect => "post_collect"

end Phase

end ArangoQuery
