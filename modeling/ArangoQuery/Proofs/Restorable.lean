import ArangoQuery.Builder.Builder
import ArangoQuery.Proofs.SnapshotRoundTrip

/-!
# Restorable queries

What is typed and holds data is read back from its snapshot.  That is a property
of the parts of an expression and of the fields of a query: `Query.IsRestorable`
lists what each field contributes, so that a change of one field leaves the facts
about all others as they are.
-/

namespace ArangoQuery

open Record (members)

/-! ## Entries under different keys -/

section Entries

variable {κ α : Type} {same : κ → κ → Bool} {pairs entries : List (κ × α)}

theorem mem_putEntry {key : κ} {value : α} {entry : κ × α}
    (hentry : entry ∈ putEntry same key value entries) :
    (entry.1 = key ∨ entry.1 ∈ entries.map Prod.fst) ∧
      (entry.2 = value ∨ entry ∈ entries) := by
  induction entries with
  | nil =>
      rw [putEntry, List.mem_singleton] at hentry
      simp [hentry]
  | cons other rest hrest =>
      obtain ⟨name, old⟩ := other
      rw [putEntry] at hentry
      split at hentry
      · obtain rfl | hentry := List.mem_cons.1 hentry
        · simp
        · exact ⟨.inr (List.mem_map_of_mem (List.mem_cons_of_mem _ hentry)),
            .inr (List.mem_cons_of_mem _ hentry)⟩
      · obtain rfl | hentry := List.mem_cons.1 hentry
        · simp
        · obtain ⟨hkey, hvalue⟩ := hrest hentry
          exact ⟨hkey.imp_right (List.mem_cons_of_mem _),
            hvalue.imp_right (List.mem_cons_of_mem _)⟩

/-- An entry replaces the one under the same key. -/
theorem nodup_putEntry {key : κ} (hkey : same key key = true) (value : α)
    (hentries : (entries.map Prod.fst).Nodup) :
    ((putEntry same key value entries).map Prod.fst).Nodup := by
  induction entries with
  | nil => simp [putEntry]
  | cons other rest hrest =>
      obtain ⟨name, old⟩ := other
      rw [putEntry]
      rw [List.map_cons, List.nodup_cons] at hentries
      split
      · exact List.nodup_cons.2 hentries
      · rename_i hother
        refine List.nodup_cons.2 ⟨?_, hrest hentries.2⟩
        intro hname
        obtain ⟨entry, hentry, rfl⟩ := List.mem_map.1 hname
        obtain heq | hmem := (mem_putEntry hentry).1
        · rw [heq] at hother
          exact hother hkey
        · exact hentries.1 hmem

theorem nodup_entriesOf (hkeys : ∀ pair ∈ pairs, same pair.1 pair.1 = true) :
    ((entriesOf same pairs).map Prod.fst).Nodup := by
  apply List.foldlRecOn (motive := fun entries : List (κ × α) =>
    (entries.map Prod.fst).Nodup) _ _ (by simp)
  rintro entries hentries pair hpair
  exact nodup_putEntry (hkeys pair hpair) pair.2 hentries

/-- Entries have their keys and their values from the pairs. -/
theorem forall_entriesOf (isKey : κ → Prop) (isValue : α → Prop)
    (hpairs : ∀ pair ∈ pairs, isKey pair.1 ∧ isValue pair.2) :
    ∀ entry ∈ entriesOf same pairs, isKey entry.1 ∧ isValue entry.2 := by
  apply List.foldlRecOn (motive := fun entries : List (κ × α) =>
    ∀ entry ∈ entries, isKey entry.1 ∧ isValue entry.2) _ _ (by simp)
  rintro entries hentries pair hpair entry hentry
  obtain ⟨hkey, hvalue⟩ := mem_putEntry hentry
  constructor
  · obtain hkey | hkey := hkey
    · exact hkey ▸ (hpairs pair hpair).1
    · obtain ⟨other, hother, hkey⟩ := List.mem_map.1 hkey
      exact hkey ▸ (hentries other hother).1
  · obtain hvalue | hvalue := hvalue
    · exact hvalue ▸ (hpairs pair hpair).2
    · exact (hentries entry hvalue).2

end Entries

/-! ## Restorable expressions -/

/-- Is an expression typed, and does it hold data? -/
def Expr.isRestorable (expr : Expr) : Bool :=
  expr.isTyped && expr.holdsData

theorem Expr.isRestorable_of (node : Node Expr) :
    (Expr.of node).isRestorable =
      (node.isProper && node.isJsonData &&
        node.parts.all isRestorable) := by
  rw [Bool.eq_iff_iff]
  simp only [isRestorable, isTyped_of, holdsData_of, Bool.and_eq_true,
    List.all_eq_true]
  constructor
  · rintro ⟨⟨hproper, htyped⟩, hjson, hdata⟩
    exact ⟨⟨hproper, hjson⟩, fun part hpart =>
      ⟨htyped part hpart, hdata part hpart⟩⟩
  · rintro ⟨⟨hproper, hjson⟩, hparts⟩
    exact ⟨⟨hproper, fun part hpart => (hparts part hpart).1⟩, hjson,
      fun part hpart => (hparts part hpart).2⟩

/-- Is this a node proper, not something put in the place of one? -/
def Expr.isNode : Expr → Bool
  | .stray _ => false
  | _ => true

theorem Expr.isNode_of_isRestorable {expr : Expr}
    (hexpr : expr.isRestorable = true) : expr.isNode = true := by
  obtain ⟨node⟩ := expr
  cases node with
  | stray content => rw [isRestorable_of] at hexpr; cases hexpr
  | _ => rfl

/-- Only what is no expression is changed by a check. -/
theorem Expr.accept_of_isNode {expr : Expr} (hexpr : expr.isNode = true) :
    expr.accept = .ok expr := by
  obtain ⟨node⟩ := expr
  cases node with
  | stray content => cases hexpr
  | _ => rfl

theorem Expr.traverse_accept {exprs : List Expr}
    (hexprs : ∀ expr ∈ exprs, expr.isNode = true) :
    Checked.traverse accept exprs = .ok exprs := by
  have hchecked := Checked.traverse_map_ok accept id exprs
    fun expr hexpr => accept_of_isNode (hexprs expr hexpr)
  rwa [List.map_id] at hchecked

theorem Expr.traverse_acceptMember {document : Document Expr}
    (hdocument : ∀ member ∈ document, member.2.isNode = true) :
    Checked.traverse acceptMember document = .ok document := by
  have hchecked := Checked.traverse_map_ok acceptMember id document
    fun member hmember => by
      rw [acceptMember, id, accept_of_isNode (hdocument member hmember)]
      rfl
  rwa [List.map_id] at hchecked

def Document.isRestorable (document : Document Expr) : Bool :=
  document.isMapping && (Document.parts document).all Expr.isRestorable

theorem Document.forall_parts {document : Document Expr} :
    (Document.parts document).all Expr.isRestorable = true ↔
      ∀ member ∈ document, member.2.isRestorable = true := by
  simp [parts]

/-- Is a source, if there is one at all, typed and made of restorable parts? -/
def Slot.isRestorable (source : Option (Slot (Source Expr))) : Bool :=
  source.all Slot.isProper && source.all Slot.isJsonData &&
    (Slot.parts source).all Expr.isRestorable

/-! ## Restorable queries -/

/-- What is asked of each field of a query. -/
structure Query.IsRestorable (query : Query) : Prop where
  loop : query.loop.all Slot.isProper = true
  source : Slot.isRestorable query.source = true
  filters : ∀ expr ∈ members query.filters, expr.isRestorable = true
  filtersAfterCollect :
    ∀ expr ∈ members query.filtersAfterCollect, expr.isRestorable = true
  joins :
    ∀ join ∈ members query.joins, Slot.isRestorable join.source = true
  letsAfterCollect :
    ∀ clause ∈ members query.letsAfterCollect, clause.2.isRestorable = true
  letsBeforeCollect :
    ∀ clause ∈ members query.letsBeforeCollect, clause.2.isRestorable = true
  collects :
    ∀ collect ∈ members query.collects,
      collect.parts.all Expr.isRestorable = true
  result : query.result.all Expr.isRestorable = true
  limit : query.limit.all Slot.isProper = true
  offset : query.offset.all Slot.isProper = true
  operations :
    ∀ operation ∈ members query.operations,
      operation.collection.all Slot.isProper = true ∧
        operation.document.all Expr.isRestorable = true
  upserts :
    ∀ upsert ∈ members query.upserts,
      upsert.parts.all Expr.isRestorable = true
  updates :
    ∀ update ∈ members query.updates,
      update.parts.all Expr.isRestorable = true
  searches :
    ∀ search ∈ members query.searches,
      search.conditions.all Expr.isRestorable = true ∧
        search.options.all Document.isRestorable = true
  prunes : ∀ expr ∈ members query.prunes, expr.isRestorable = true
  windows :
    ∀ window ∈ members query.windows, window.aggregation.isRestorable = true
  withCollections :
    ∀ collection ∈ members query.withCollections, collection.isProper = true
  rawBindings :
    query.rawBindings.all (fun bindings =>
      Document.isMapping bindings &&
        (Document.parts bindings).all Value.isJsonData) = true

theorem Query.isRestorable_empty : Query.IsRestorable {} := by
  have hnone {α : Type} {holds : α → Prop} :
      ∀ member ∈ members (none : Option (List α)), holds member := by
    rintro member ⟨⟩
  exact {
    loop := rfl, source := rfl, filters := hnone, filtersAfterCollect := hnone,
    joins := hnone, letsAfterCollect := hnone, letsBeforeCollect := hnone,
    collects := hnone, result := rfl, limit := rfl, offset := rfl,
    operations := hnone, upserts := hnone, updates := hnone,
    searches := hnone, prunes := hnone, windows := hnone,
    withCollections := hnone, rawBindings := rfl }

namespace Query.IsRestorable

variable {query : Query}

theorem isProper (hquery : query.IsRestorable) : query.isProper = true := by
  have hsource := hquery.source
  have hjoins := hquery.joins
  simp only [Slot.isRestorable, Bool.and_eq_true] at hsource hjoins
  simp only [Record.isProper, Bool.and_eq_true, List.all_eq_true]
  exact ⟨⟨⟨⟨⟨⟨hquery.loop, hsource.1.1⟩, fun join hjoin =>
    (hjoins join hjoin).1.1⟩, hquery.limit⟩, hquery.offset⟩,
    fun operation hoperation => (hquery.operations operation hoperation).1⟩,
    hquery.withCollections⟩

theorem isJsonData (hquery : query.IsRestorable) :
    query.isJsonData = true := by
  have hsource := hquery.source
  have hjoins := hquery.joins
  simp only [Slot.isRestorable, Bool.and_eq_true] at hsource hjoins
  simp only [Record.isJsonData, Bool.and_eq_true, List.all_eq_true]
  refine ⟨⟨⟨hsource.1.2, fun join hjoin => (hjoins join hjoin).1.2⟩,
    fun search hsearch => ?_⟩, ?_⟩
  · have hoptions := (hquery.searches search hsearch).2
    cases hgiven : search.options with
    | none => rfl
    | some options =>
        rw [hgiven, Option.all_some, Document.isRestorable,
          Bool.and_eq_true] at hoptions
        exact hoptions.1
  · simpa using hquery.rawBindings

theorem operation_parts {operation : Operation Expr}
    (hquery : query.IsRestorable)
    (hoperation : operation ∈ members query.operations) :
    operation.parts.all Expr.isRestorable = true := by
  have hdocument := (hquery.operations operation hoperation).2
  cases hgiven : operation.document with
  | none => simp [Operation.parts, hgiven]
  | some document => simpa [Operation.parts, hgiven] using hdocument

theorem search_parts {search : Search Expr} (hquery : query.IsRestorable)
    (hsearch : search ∈ members query.searches) :
    search.parts.all Expr.isRestorable = true := by
  obtain ⟨hconditions, hoptions⟩ := hquery.searches search hsearch
  rw [Search.parts, List.all_append, Bool.and_eq_true]
  refine ⟨hconditions, ?_⟩
  cases hgiven : search.options with
  | none => rfl
  | some options =>
      rw [hgiven, Option.all_some, Document.isRestorable,
        Bool.and_eq_true] at hoptions
      exact hoptions.2

theorem parts (hquery : query.IsRestorable) :
    query.parts.all Expr.isRestorable = true := by
  have hsource := hquery.source
  have hjoins := hquery.joins
  simp only [Slot.isRestorable, Bool.and_eq_true] at hsource hjoins
  have hclauses {F : Type} {parts : F → List Expr} {clauses : List F}
      (hclauses : ∀ clause ∈ clauses,
        (parts clause).all Expr.isRestorable = true) :
      (clauses.flatMap parts).all Expr.isRestorable = true := by
    rw [List.all_flatMap, List.all_eq_true]
    exact hclauses
  have hresult : query.result.toList.all Expr.isRestorable = true := by
    have hresult := hquery.result
    cases hgiven : query.result with
    | none => rfl
    | some result => simpa [hgiven] using hresult
  simp only [Record.parts, List.all_flatten, List.all_cons, List.all_nil,
    Bool.and_eq_true, and_true]
  exact ⟨hsource.2, List.all_eq_true.2 hquery.filters,
    List.all_eq_true.2 hquery.filtersAfterCollect,
    hclauses fun join hjoin => (hjoins join hjoin).2,
    Document.forall_parts.2 hquery.letsAfterCollect,
    Document.forall_parts.2 hquery.letsBeforeCollect,
    hclauses hquery.collects, hresult,
    hclauses fun _ => hquery.operation_parts,
    hclauses hquery.upserts, hclauses hquery.updates,
    hclauses fun _ => hquery.search_parts, List.all_eq_true.2 hquery.prunes,
    hclauses fun window hwindow => by
      simpa [Window.parts] using hquery.windows window hwindow⟩

/-- A query is restorable if its fields are. -/
theorem subquery (hquery : query.IsRestorable) :
    (Expr.subquery query).isRestorable = true := by
  rw [Expr.isRestorable_of, Bool.and_eq_true, Bool.and_eq_true]
  exact ⟨⟨hquery.isProper, hquery.isJsonData⟩, hquery.parts⟩

end Query.IsRestorable

/-- A restorable query is read back from its snapshot. -/
theorem Query.IsRestorable.exists_snapshot {query : Query}
    (hquery : query.IsRestorable) :
    ∃ snapshot, query.snapshot? = some snapshot ∧
      Query.check snapshot = .ok query := by
  have hsubquery := hquery.subquery
  rw [Expr.isRestorable, Bool.and_eq_true] at hsubquery
  exact Query.restores hsubquery.1 hsubquery.2

end ArangoQuery
