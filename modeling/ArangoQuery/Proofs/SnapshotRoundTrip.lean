import ArangoQuery.Proofs.SnapshotClauses
import ArangoQuery.Rendering.Compiled

/-!
# Queries read back from their snapshots

A typed query that holds JSON data is the query that is read from its snapshot
(`Query.restored_from_snapshot`).  By induction over expressions: a node is
restored as soon as its parts are, one level of the bound on depths above them.
-/

namespace ArangoQuery

variable {α β : Type}

/-! ## Data at any depth -/

theorem Document.isMapping_map (f : α → β) (document : Document α) :
    (Document.map f document).isMapping = document.isMapping := by
  have hnames : List.map Prod.fst (Document.map f document) =
      List.map Prod.fst document := by
    simp [Document.map]
  simp only [isMapping, hnames]

theorem Document.all_isMapping_map (f : α → β)
    (options : Option (Document α)) :
    (options.map (Document.map f)).all isMapping = options.all isMapping := by
  cases options with
  | none => rfl
  | some document => exact isMapping_map f document

theorem Slot.all_isJsonData_map (f : α → β) (source : Option (Slot (Source α))) :
    (source.map (Slot.map (Source.map f))).all isJsonData =
      source.all isJsonData := by
  rcases source with _ | ⟨_ | _ | traversal⟩ | _
  · rfl
  · rfl
  · rfl
  · exact Document.all_isMapping_map f traversal.options
  · rfl

theorem Record.isJsonData_map (f : α → β) (record : Record α) :
    (record.map f).isJsonData = record.isJsonData := by
  simp only [isJsonData, Record.map, members_map, List.all_map,
    Function.comp_def, Join.map, Search.map, Slot.all_isJsonData_map,
    Document.all_isMapping_map]

theorem Node.isJsonData_map (f : α → β) (node : Node α) :
    (node.map f).isJsonData = node.isJsonData := by
  cases node with
  | object members => exact Document.isMapping_map f members
  | subquery query => exact query.isJsonData_map f
  | _ => rfl

/-- Are all literals and bindings in an expression JSON data, and all documents
mappings? -/
def Expr.holdsData : Expr → Bool :=
  everywhere Node.isJsonData

theorem Expr.holdsData_of (node : Node Expr) :
    (Expr.of node).holdsData =
      (node.isJsonData && node.parts.all holdsData) := by
  rw [holdsData, everywhere_of, Node.isJsonData_map]

def Query.holdsData (query : Query) : Bool :=
  (Expr.subquery query).holdsData

/-! ## Restoring expressions -/

theorem Value.depth_pos (value : Value) : 0 < value.depth := by
  cases value <;> simp only [depth] <;> omega

theorem Expr.describe_of (node : Node Expr) :
    (Expr.of node).describe = (node.map describe).describe :=
  reduce_of ..

/-- A check of nodes that is restored one level up makes an expression that is
restored. -/
theorem Expr.restores_of {node : Node Expr}
    (hnode : RestoresBelow 1 (fun bound => Node.check (checkWithin bound))
      (node.map describe).describe node) :
    Restores checkWithin (Expr.of node).describe (.of node) := by
  rw [describe_of]
  obtain ⟨dumped, hdump, hset, hcheck⟩ := hnode
  refine ⟨dumped, hdump, hset, ?_⟩
  intro bound hbound
  have hpos := dumped.depth_pos
  cases bound with
  | zero => omega
  | succ bound =>
      have hchecked := hcheck bound hbound
      exact congrArg (Checked.map Expr.of) hchecked

/-- An expression is read back from the dump of its description. -/
theorem Expr.restores (expr : Expr) (htyped : expr.isTyped = true)
    (hdata : expr.holdsData = true) :
    Restores checkWithin expr.describe expr := by
  induction expr using Expr.induction with
  | step node hparts =>
      rw [isTyped_of, Bool.and_eq_true, List.all_eq_true] at htyped
      rw [holdsData_of, Bool.and_eq_true, List.all_eq_true] at hdata
      apply restores_of
      apply Node.restores htyped.1 hdata.1
      intro part hpart
      exact hparts part hpart (htyped.2 part hpart) (hdata.2 part hpart)

namespace Query

theorem restores {query : Query} (htyped : query.isTyped = true)
    (hdata : query.holdsData = true) :
    ∃ snapshot, query.snapshot? = some snapshot ∧
      check snapshot = .ok query := by
  rw [isTyped, Expr.isTyped_of, Bool.and_eq_true, List.all_eq_true] at htyped
  rw [holdsData, Expr.holdsData_of, Bool.and_eq_true,
    List.all_eq_true] at hdata
  have hrecord := Record.restores htyped.1 hdata.1 fun part hpart =>
    part.restores (htyped.2 part hpart) (hdata.2 part hpart)
  obtain ⟨snapshot, hsnapshot, -, hcheck⟩ := hrecord
  exact ⟨snapshot, hsnapshot, hcheck snapshot.depth (Nat.le_succ _)⟩

/-- A typed query that holds JSON data has a snapshot, the snapshot is read, and
what is read from it is the query itself.  So it compiles to the same text and
bindings or to the same error, and its snapshot is the same. -/
theorem restored_from_snapshot {query : Query} (htyped : query.isTyped = true)
    (hdata : query.holdsData = true) :
    ∃ snapshot restored,
      query.snapshot? = some snapshot ∧ check snapshot = .ok restored ∧
        restored = query ∧ restored.compile = query.compile ∧
        restored.snapshot? = some snapshot := by
  obtain ⟨snapshot, hsnapshot, hcheck⟩ := restores htyped hdata
  exact ⟨snapshot, query, hsnapshot, hcheck, rfl, rfl, hsnapshot⟩

/-- A search with null among its data, with a subquery in a document, and with
options for the view. -/
def searchWithNulls : Query where
  loop := some (.proper "d")
  source := some (.proper (.text "articles"))
  searches := some
    [{ view := "articles",
       conditions :=
         [.of (.binary .isIn (.reference "d.state")
           (.literal (.list [.null, .text "new"])))],
       options := some [("waitForSync", .literal .null)] }]
  limit := some (.proper 5)
  result := some (.object
    [("article", .reference "d"),
      ("author", .subquery
        { raw := some "FOR u IN users RETURN @none",
          rawBindings := some [("none", .null)] })])

theorem searchWithNulls_restored :
    ∃ snapshot restored, searchWithNulls.snapshot? = some snapshot ∧
      check snapshot = .ok restored ∧ restored = searchWithNulls ∧
        restored.compile = searchWithNulls.compile ∧
        restored.snapshot? = some snapshot :=
  restored_from_snapshot (by decide +kernel) (by decide +kernel)

end Query

end ArangoQuery
