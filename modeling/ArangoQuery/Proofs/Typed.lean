import ArangoQuery.Proofs.Tree

/-!
# Typed queries

A few fields take whatever they are given.  In a typed query each of them holds a
content of its own type, at any depth, and nothing stands in the place of an
expression that is none.  `Expr.everywhere` says of any test of single nodes that
an expression passes it throughout.
-/

namespace ArangoQuery

open Record (members)

variable {α β : Type}

namespace Expr

/-- Does every node pass a test, which sees the node without its parts? -/
def everywhere (holds : Node Unit → Bool) : Expr → Bool :=
  reduce fun node =>
    holds (node.map fun _ => ()) && node.parts.all id

theorem everywhere_of (holds : Node Unit → Bool) (node : Node Expr) :
    everywhere holds (.of node) =
      (holds (node.map fun _ => ()) &&
        node.parts.all (everywhere holds)) := by
  have hparts : (node.map (everywhere holds)).parts.all id =
      node.parts.all (everywhere holds) := by
    rw [Node.parts_map, List.all_map]
    rfl
  have hshape : (node.map (everywhere holds)).map (fun _ => ()) =
      node.map fun _ => () := Node.map_map ..
  rw [everywhere, reduce_of, ← everywhere, hshape, hparts]

end Expr

def Slot.isProper : Slot α → Bool
  | .proper _ => true
  | .stray _ => false

theorem Slot.isProper_map (f : α → β)
    (source : Option (Slot (Source α))) :
    (source.map (Slot.map (Source.map f))).all isProper =
      source.all isProper := by
  rcases source with _ | _ | _ <;> rfl

/-- Do the fields that are filled without a check hold contents of their types? -/
def Record.isProper (record : Record α) : Bool :=
  record.loop.all Slot.isProper && record.source.all Slot.isProper &&
    (members record.joins).all (fun join => join.source.all Slot.isProper) &&
    record.limit.all Slot.isProper && record.offset.all Slot.isProper &&
    (members record.operations).all
      (fun operation => operation.collection.all Slot.isProper) &&
    (members record.withCollections).all Slot.isProper

theorem Record.isProper_map (f : α → β) (record : Record α) :
    (record.map f).isProper = record.isProper := by
  have hjoins :
      (members (record.joins.map (List.map (Join.map f)))).all
          (fun join => join.source.all Slot.isProper) =
        (members record.joins).all
          (fun join => join.source.all Slot.isProper) := by
    simp only [members_map, List.all_map, Function.comp_def, Join.map,
      Slot.isProper_map]
  have hoperations :
      (members (record.operations.map (List.map (Operation.map f)))).all
          (fun operation => operation.collection.all Slot.isProper) =
        (members record.operations).all
          (fun operation => operation.collection.all Slot.isProper) := by
    simp only [members_map, List.all_map, Function.comp_def, Operation.map]
  simp only [isProper, Record.map, Slot.isProper_map, hjoins, hoperations]

def Node.isProper : Node α → Bool
  | .subquery query => query.isProper
  | .stray _ => false
  | _ => true

theorem Node.isProper_map (f : α → β) (node : Node α) :
    (node.map f).isProper = node.isProper := by
  cases node with
  | subquery query => exact query.isProper_map f
  | _ => rfl

/-- Is everything in an expression of its declared type? -/
def Expr.isTyped : Expr → Bool :=
  Expr.everywhere Node.isProper

theorem Expr.isTyped_of (node : Node Expr) :
    (Expr.of node).isTyped = (node.isProper && node.parts.all isTyped) := by
  rw [isTyped, everywhere_of, Node.isProper_map]

def Query.isTyped (query : Query) : Bool :=
  (Expr.subquery query).isTyped

end ArangoQuery
