import ArangoQuery.Query.Node

/-!
# Expressions

An expression is a node whose parts are expressions; a subquery makes whole
records parts of an expression.  `Expr.fold` is the one recursion over this tree:
it computes a result for every node from the node itself and from the results of
its parts.  Everything that later modules say about expressions of any depth is
an algebra handed to `fold`.

The helper functions spell out, clause by clause, how `fold` reaches the parts,
which makes the recursion structural.  The lemmas below say that each of them is
the `map` of its clause.
-/

namespace ArangoQuery

inductive Expr where
  | of (node : Node Expr)

/-- A record of a query proper. -/
abbrev Query := Record Expr

namespace Expr

@[match_pattern] abbrev literal (value : Value) : Expr := of (.literal value)
@[match_pattern] abbrev reference (path : String) : Expr := of (.reference path)
@[match_pattern] abbrev parameter (placeholder : Placeholder) : Expr :=
  of (.parameter placeholder)
@[match_pattern] abbrev object (members : Document Expr) : Expr :=
  of (.object members)
@[match_pattern] abbrev array (items : List Expr) : Expr := of (.array items)
@[match_pattern] abbrev subquery (query : Query) : Expr := of (.subquery query)
@[match_pattern] abbrev stray (content : Value) : Expr := of (.stray content)

instance : Inhabited Expr := ⟨.literal .null⟩

def node : Expr → Node Expr
  | .of node => node

variable {β : Type}

mutual

/-- The result of a tree whose nodes are evaluated by `algebra`. -/
def fold (algebra : Node (Expr × β) → β) : Expr → β
  | .of node => algebra (foldNode algebra node)

def foldPart (algebra : Node (Expr × β) → β) : Expr → Expr × β
  | .of node => (.of node, algebra (foldNode algebra node))

def foldParts (algebra : Node (Expr × β) → β) :
    List Expr → List (Expr × β)
  | [] => []
  | part :: rest => foldPart algebra part :: foldParts algebra rest

def foldSomePart (algebra : Node (Expr × β) → β) :
    Option Expr → Option (Expr × β)
  | none => none
  | some part => some (foldPart algebra part)

def foldSomeParts (algebra : Node (Expr × β) → β) :
    Option (List Expr) → Option (List (Expr × β))
  | none => none
  | some parts => some (foldParts algebra parts)

def foldMember (algebra : Node (Expr × β) → β) :
    String × Expr → String × (Expr × β)
  | (name, part) => (name, foldPart algebra part)

def foldDocument (algebra : Node (Expr × β) → β) :
    List (String × Expr) → List (String × (Expr × β))
  | [] => []
  | member :: rest => foldMember algebra member :: foldDocument algebra rest

def foldSomeDocument (algebra : Node (Expr × β) → β) :
    Option (List (String × Expr)) → Option (List (String × (Expr × β)))
  | none => none
  | some document => some (foldDocument algebra document)

def foldGraph (algebra : Node (Expr × β) → β) :
    GraphSource Expr → GraphSource (Expr × β)
  | ⟨graph, direction, startVertex, minDepth, maxDepth, options⟩ =>
      ⟨graph, direction, startVertex, minDepth, maxDepth,
        foldSomeDocument algebra options⟩

def foldSource (algebra : Node (Expr × β) → β) :
    Source Expr → Source (Expr × β)
  | .text name => .text name
  | .range first last => .range first last
  | .graph traversal => .graph (foldGraph algebra traversal)

def foldSlot (algebra : Node (Expr × β) → β) :
    Slot (Source Expr) → Slot (Source (Expr × β))
  | .proper source => .proper (foldSource algebra source)
  | .stray content => .stray content

def foldSomeSlot (algebra : Node (Expr × β) → β) :
    Option (Slot (Source Expr)) → Option (Slot (Source (Expr × β)))
  | none => none
  | some source => some (foldSlot algebra source)

def foldJoin (algebra : Node (Expr × β) → β) : Join Expr → Join (Expr × β)
  | ⟨loop, source⟩ => ⟨loop, foldSomeSlot algebra source⟩

def foldJoins (algebra : Node (Expr × β) → β) :
    List (Join Expr) → List (Join (Expr × β))
  | [] => []
  | join :: rest => foldJoin algebra join :: foldJoins algebra rest

def foldSomeJoins (algebra : Node (Expr × β) → β) :
    Option (List (Join Expr)) → Option (List (Join (Expr × β)))
  | none => none
  | some joins => some (foldJoins algebra joins)

def foldCollect (algebra : Node (Expr × β) → β) :
    Collect Expr → Collect (Expr × β)
  | ⟨keys, into, aggregates, keep⟩ =>
      ⟨foldDocument algebra keys, into, foldDocument algebra aggregates,
        keep⟩

def foldCollects (algebra : Node (Expr × β) → β) :
    List (Collect Expr) → List (Collect (Expr × β))
  | [] => []
  | collect :: rest => foldCollect algebra collect :: foldCollects algebra rest

def foldSomeCollects (algebra : Node (Expr × β) → β) :
    Option (List (Collect Expr)) → Option (List (Collect (Expr × β)))
  | none => none
  | some collects => some (foldCollects algebra collects)

def foldOperation (algebra : Node (Expr × β) → β) :
    Operation Expr → Operation (Expr × β)
  | ⟨kind, document, collection, target⟩ =>
      ⟨kind, foldSomePart algebra document, collection, target⟩

def foldOperations (algebra : Node (Expr × β) → β) :
    List (Operation Expr) → List (Operation (Expr × β))
  | [] => []
  | operation :: rest =>
      foldOperation algebra operation :: foldOperations algebra rest

def foldSomeOperations (algebra : Node (Expr × β) → β) :
    Option (List (Operation Expr)) → Option (List (Operation (Expr × β)))
  | none => none
  | some operations => some (foldOperations algebra operations)

def foldUpsert (algebra : Node (Expr × β) → β) :
    Upsert Expr → Upsert (Expr × β)
  | ⟨search, insert, update, collection⟩ =>
      ⟨foldPart algebra search, foldPart algebra insert,
        foldPart algebra update, collection⟩

def foldUpserts (algebra : Node (Expr × β) → β) :
    List (Upsert Expr) → List (Upsert (Expr × β))
  | [] => []
  | upsert :: rest => foldUpsert algebra upsert :: foldUpserts algebra rest

def foldSomeUpserts (algebra : Node (Expr × β) → β) :
    Option (List (Upsert Expr)) → Option (List (Upsert (Expr × β)))
  | none => none
  | some upserts => some (foldUpserts algebra upserts)

def foldUpdate (algebra : Node (Expr × β) → β) :
    Update Expr → Update (Expr × β)
  | ⟨document, fields, collection, loop, oldReference⟩ =>
      ⟨foldPart algebra document, foldPart algebra fields, collection, loop,
        oldReference⟩

def foldUpdates (algebra : Node (Expr × β) → β) :
    List (Update Expr) → List (Update (Expr × β))
  | [] => []
  | update :: rest => foldUpdate algebra update :: foldUpdates algebra rest

def foldSomeUpdates (algebra : Node (Expr × β) → β) :
    Option (List (Update Expr)) → Option (List (Update (Expr × β)))
  | none => none
  | some updates => some (foldUpdates algebra updates)

def foldSearch (algebra : Node (Expr × β) → β) :
    Search Expr → Search (Expr × β)
  | ⟨view, conditions, options⟩ =>
      ⟨view, foldParts algebra conditions, foldSomeDocument algebra options⟩

def foldSearches (algebra : Node (Expr × β) → β) :
    List (Search Expr) → List (Search (Expr × β))
  | [] => []
  | search :: rest => foldSearch algebra search :: foldSearches algebra rest

def foldSomeSearches (algebra : Node (Expr × β) → β) :
    Option (List (Search Expr)) → Option (List (Search (Expr × β)))
  | none => none
  | some searches => some (foldSearches algebra searches)

def foldWindow (algebra : Node (Expr × β) → β) :
    Window Expr → Window (Expr × β)
  | ⟨preceding, following, aggregation, name⟩ =>
      ⟨preceding, following, foldPart algebra aggregation, name⟩

def foldWindows (algebra : Node (Expr × β) → β) :
    List (Window Expr) → List (Window (Expr × β))
  | [] => []
  | window :: rest => foldWindow algebra window :: foldWindows algebra rest

def foldSomeWindows (algebra : Node (Expr × β) → β) :
    Option (List (Window Expr)) → Option (List (Window (Expr × β)))
  | none => none
  | some windows => some (foldWindows algebra windows)

def foldQuery (algebra : Node (Expr × β) → β) :
    Record Expr → Record (Expr × β)
  | ⟨collection, loop, source, filters, filtersAfterCollect, joins,
      letsAfterCollect, letsBeforeCollect, collects, sorts, result, distinct,
      limit, offset, operations, upserts, updates, loopNames, searches,
      traversals, prunes, windows, withCollections, raw, rawBindings⟩ =>
    ⟨collection, loop, foldSomeSlot algebra source,
      foldSomeParts algebra filters,
      foldSomeParts algebra filtersAfterCollect, foldSomeJoins algebra joins,
      foldSomeDocument algebra letsAfterCollect,
      foldSomeDocument algebra letsBeforeCollect,
      foldSomeCollects algebra collects, sorts, foldSomePart algebra result,
      distinct, limit, offset, foldSomeOperations algebra operations,
      foldSomeUpserts algebra upserts, foldSomeUpdates algebra updates,
      loopNames, foldSomeSearches algebra searches, traversals,
      foldSomeParts algebra prunes, foldSomeWindows algebra windows,
      withCollections, raw, rawBindings⟩

def foldNode (algebra : Node (Expr × β) → β) :
    Node Expr → Node (Expr × β)
  | .literal value => .literal value
  | .reference path => .reference path
  | .parameter placeholder => .parameter placeholder
  | .binary operator left right =>
      .binary operator (foldPart algebra left) (foldPart algebra right)
  | .unary operator operand => .unary operator (foldPart algebra operand)
  | .call function arguments => .call function (foldParts algebra arguments)
  | .ternary condition thenValue elseValue =>
      .ternary (foldPart algebra condition) (foldPart algebra thenValue)
        (foldPart algebra elseValue)
  | .like subject pattern ignoreCase =>
      .like (foldPart algebra subject) pattern ignoreCase
  | .regex subject pattern flags =>
      .regex (foldPart algebra subject) pattern flags
  | .old path => .old path
  | .quantified quantifier subject condition =>
      .quantified quantifier (foldPart algebra subject)
        (foldPart algebra condition)
  | .unset document fields => .unset (foldPart algebra document) fields
  | .object members => .object (foldDocument algebra members)
  | .array items => .array (foldParts algebra items)
  | .subquery query => .subquery (foldQuery algebra query)
  | .stray content => .stray content

end

/-- A fold that looks at the results of the parts only. -/
def reduce (algebra : Node β → β) : Expr → β :=
  fold fun node => algebra (node.map Prod.snd)

/-- A part next to its result. -/
def withFold (algebra : Node (Expr × β) → β) (part : Expr) : Expr × β :=
  (part, fold algebra part)

theorem cons_congr {α : Type} {left right : α} {lefts rights : List α}
    (head : left = right) (tail : lefts = rights) :
    left :: lefts = right :: rights := by
  rw [head, tail]

section Lemmas

variable (algebra : Node (Expr × β) → β)

theorem foldPart_eq (part : Expr) :
    foldPart algebra part = withFold algebra part := by
  cases part
  rfl

theorem foldParts_eq (parts : List (Expr)) :
    foldParts algebra parts =
      List.map (withFold algebra) parts := by
  induction parts with
  | nil => rfl
  | cons head rest hrest =>
      exact cons_congr (foldPart_eq algebra head) hrest

theorem foldMember_eq (member : String × Expr) :
    foldMember algebra member = (member.1, withFold algebra member.2) := by
  cases member
  exact congrArg (Prod.mk _) (foldPart_eq algebra _)

theorem foldDocument_eq (document : List (String × Expr)) :
    foldDocument algebra document =
      Document.map (withFold algebra) document := by
  induction document with
  | nil => rfl
  | cons head rest hrest =>
      exact cons_congr (foldMember_eq algebra head) hrest

theorem foldSomePart_eq (part : Option (Expr)) :
    foldSomePart algebra part =
      part.map (withFold algebra) := by
  cases part with
  | none => rfl
  | some part => exact congrArg some (foldPart_eq algebra part)

theorem foldSomeParts_eq (parts : Option (List Expr)) :
    foldSomeParts algebra parts =
      parts.map (List.map (withFold algebra)) := by
  cases parts with
  | none => rfl
  | some parts => exact congrArg some (foldParts_eq algebra parts)

theorem foldSomeDocument_eq (document : Option (List (String × Expr))) :
    foldSomeDocument algebra document =
      document.map (Document.map (withFold algebra)) := by
  cases document with
  | none => rfl
  | some document => exact congrArg some (foldDocument_eq algebra document)

theorem foldGraph_eq (traversal : GraphSource Expr) :
    foldGraph algebra traversal = traversal.map (withFold algebra) := by
  cases traversal
  exact congrArg (GraphSource.mk _ _ _ _ _) (foldSomeDocument_eq algebra _)

theorem foldSource_eq (source : Source Expr) :
    foldSource algebra source = source.map (withFold algebra) := by
  cases source with
  | text _ => rfl
  | range _ _ => rfl
  | graph traversal => exact congrArg Source.graph (foldGraph_eq algebra _)

theorem foldSlot_eq (source : Slot (Source Expr)) :
    foldSlot algebra source =
      source.map (Source.map (withFold algebra)) := by
  cases source with
  | proper source => exact congrArg Slot.proper (foldSource_eq algebra source)
  | stray _ => rfl

theorem foldSomeSlot_eq (source : Option (Slot (Source Expr))) :
    foldSomeSlot algebra source =
      source.map (Slot.map (Source.map (withFold algebra))) := by
  cases source with
  | none => rfl
  | some source => exact congrArg some (foldSlot_eq algebra source)

theorem foldJoin_eq (join : Join Expr) :
    foldJoin algebra join = join.map (withFold algebra) := by
  cases join
  exact congrArg (Join.mk _) (foldSomeSlot_eq algebra _)

theorem foldJoins_eq (joins : List (Join Expr)) :
    foldJoins algebra joins =
      List.map (Join.map (withFold algebra)) joins := by
  induction joins with
  | nil => rfl
  | cons head rest hrest =>
      exact cons_congr (foldJoin_eq algebra head) hrest

theorem foldSomeJoins_eq (joins : Option (List (Join Expr))) :
    foldSomeJoins algebra joins =
      joins.map (List.map (Join.map (withFold algebra))) := by
  cases joins with
  | none => rfl
  | some joins => exact congrArg some (foldJoins_eq algebra joins)

theorem foldCollect_eq (collect : Collect Expr) :
    foldCollect algebra collect = collect.map (withFold algebra) := by
  cases collect
  rw [foldCollect, foldDocument_eq, foldDocument_eq]
  rfl

theorem foldCollects_eq (collects : List (Collect Expr)) :
    foldCollects algebra collects =
      List.map (Collect.map (withFold algebra)) collects := by
  induction collects with
  | nil => rfl
  | cons head rest hrest =>
      exact cons_congr (foldCollect_eq algebra head) hrest

theorem foldSomeCollects_eq (collects : Option (List (Collect Expr))) :
    foldSomeCollects algebra collects =
      collects.map (List.map (Collect.map (withFold algebra))) := by
  cases collects with
  | none => rfl
  | some collects => exact congrArg some (foldCollects_eq algebra collects)

theorem foldOperation_eq (operation : Operation Expr) :
    foldOperation algebra operation = operation.map (withFold algebra) := by
  cases operation
  rw [foldOperation, foldSomePart_eq]
  rfl

theorem foldOperations_eq (operations : List (Operation Expr)) :
    foldOperations algebra operations =
      List.map (Operation.map (withFold algebra)) operations := by
  induction operations with
  | nil => rfl
  | cons head rest hrest =>
      exact cons_congr (foldOperation_eq algebra head) hrest

theorem foldSomeOperations_eq (operations : Option (List (Operation Expr))) :
    foldSomeOperations algebra operations =
      operations.map (List.map (Operation.map (withFold algebra))) := by
  cases operations with
  | none => rfl
  | some operations => exact congrArg some (foldOperations_eq algebra operations)

theorem foldUpsert_eq (upsert : Upsert Expr) :
    foldUpsert algebra upsert = upsert.map (withFold algebra) := by
  cases upsert
  rw [foldUpsert, foldPart_eq, foldPart_eq, foldPart_eq]
  rfl

theorem foldUpserts_eq (upserts : List (Upsert Expr)) :
    foldUpserts algebra upserts =
      List.map (Upsert.map (withFold algebra)) upserts := by
  induction upserts with
  | nil => rfl
  | cons head rest hrest =>
      exact cons_congr (foldUpsert_eq algebra head) hrest

theorem foldSomeUpserts_eq (upserts : Option (List (Upsert Expr))) :
    foldSomeUpserts algebra upserts =
      upserts.map (List.map (Upsert.map (withFold algebra))) := by
  cases upserts with
  | none => rfl
  | some upserts => exact congrArg some (foldUpserts_eq algebra upserts)

theorem foldUpdate_eq (update : Update Expr) :
    foldUpdate algebra update = update.map (withFold algebra) := by
  cases update
  rw [foldUpdate, foldPart_eq, foldPart_eq]
  rfl

theorem foldUpdates_eq (updates : List (Update Expr)) :
    foldUpdates algebra updates =
      List.map (Update.map (withFold algebra)) updates := by
  induction updates with
  | nil => rfl
  | cons head rest hrest =>
      exact cons_congr (foldUpdate_eq algebra head) hrest

theorem foldSomeUpdates_eq (updates : Option (List (Update Expr))) :
    foldSomeUpdates algebra updates =
      updates.map (List.map (Update.map (withFold algebra))) := by
  cases updates with
  | none => rfl
  | some updates => exact congrArg some (foldUpdates_eq algebra updates)

theorem foldSearch_eq (search : Search Expr) :
    foldSearch algebra search = search.map (withFold algebra) := by
  cases search
  rw [foldSearch, foldParts_eq, foldSomeDocument_eq]
  rfl

theorem foldSearches_eq (searches : List (Search Expr)) :
    foldSearches algebra searches =
      List.map (Search.map (withFold algebra)) searches := by
  induction searches with
  | nil => rfl
  | cons head rest hrest =>
      exact cons_congr (foldSearch_eq algebra head) hrest

theorem foldSomeSearches_eq (searches : Option (List (Search Expr))) :
    foldSomeSearches algebra searches =
      searches.map (List.map (Search.map (withFold algebra))) := by
  cases searches with
  | none => rfl
  | some searches => exact congrArg some (foldSearches_eq algebra searches)

theorem foldWindow_eq (window : Window Expr) :
    foldWindow algebra window = window.map (withFold algebra) := by
  cases window
  rw [foldWindow, foldPart_eq]
  rfl

theorem foldWindows_eq (windows : List (Window Expr)) :
    foldWindows algebra windows =
      List.map (Window.map (withFold algebra)) windows := by
  induction windows with
  | nil => rfl
  | cons head rest hrest =>
      exact cons_congr (foldWindow_eq algebra head) hrest

theorem foldSomeWindows_eq (windows : Option (List (Window Expr))) :
    foldSomeWindows algebra windows =
      windows.map (List.map (Window.map (withFold algebra))) := by
  cases windows with
  | none => rfl
  | some windows => exact congrArg some (foldWindows_eq algebra windows)

theorem foldQuery_eq (query : Query) :
    foldQuery algebra query = query.map (withFold algebra) := by
  cases query
  simp only [foldQuery, foldSomeSlot_eq, foldSomeParts_eq,
    foldSomePart_eq, foldSomeDocument_eq, foldSomeJoins_eq,
    foldSomeCollects_eq, foldSomeOperations_eq, foldSomeUpserts_eq,
    foldSomeUpdates_eq, foldSomeSearches_eq, foldSomeWindows_eq]
  rfl

theorem foldNode_eq (node : Node Expr) :
    foldNode algebra node = node.map (withFold algebra) := by
  cases node <;>
    simp only [foldNode, Node.map, foldPart_eq, foldParts_eq,
      foldDocument_eq, foldQuery_eq]

theorem fold_of (node : Node Expr) :
    fold algebra (.of node) = algebra (node.map (withFold algebra)) :=
  congrArg algebra (foldNode_eq algebra node)

end Lemmas

end Expr

end ArangoQuery
