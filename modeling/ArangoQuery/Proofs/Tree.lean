import ArangoQuery.Query.Expr

/-!
# Induction over expressions

`Node.parts` lists the expressions directly below a node, in whatever clause of a
subquery they stand.  A map sees nothing else of a node (`Node.map_congr`), and
what every node inherits from its parts holds of all expressions
(`Expr.induction`).
-/

namespace ArangoQuery

variable {α β γ : Type}

namespace Document

def parts (document : Document α) : List α :=
  List.map Prod.snd document

theorem parts_map (f : α → β) (document : Document α) :
    parts (Document.map f document) = (parts document).map f := by
  simp [parts, Document.map]

theorem map_map (g : β → γ) (f : α → β) (document : Document α) :
    Document.map g (Document.map f document) =
      Document.map (g ∘ f) document := by
  simp [Document.map]

theorem map_id : (Document.map id : Document α → Document α) = id := by
  funext document
  exact List.map_id document

theorem map_congr {f g : α → β} {document : Document α}
    (h : ∀ part ∈ parts document, f part = g part) :
    Document.map f document = Document.map g document := by
  apply List.map_congr_left
  rintro ⟨name, part⟩ hmember
  exact congrArg (Prod.mk name) (h part (List.mem_map_of_mem hmember))

end Document

/-! ## Families of clauses -/

namespace Record

variable {F G H : Type}

theorem members_map (f : F → G) (family : Option (List F)) :
    members (family.map (List.map f)) = (members family).map f := by
  cases family <;> rfl

theorem members_document_map (f : α → β) (family : Option (Document α)) :
    members (family.map (Document.map f)) =
      Document.map f (members family) := by
  cases family <;> rfl

theorem family_map_map {f : F → G} {g : G → H} {h : F → H}
    (hcomp : ∀ clause, g (f clause) = h clause) (family : Option (List F)) :
    (family.map (List.map f)).map (List.map g) = family.map (List.map h) := by
  have hfun : g ∘ f = h := funext hcomp
  cases family with
  | none => rfl
  | some clauses => simp [hfun]

theorem document_family_map_map (g : β → γ) (f : α → β)
    (family : Option (Document α)) :
    (family.map (Document.map f)).map (Document.map g) =
      family.map (Document.map (g ∘ f)) := by
  cases family with
  | none => rfl
  | some document => exact congrArg some (Document.map_map g f document)

/-- The parts of a family are the parts of its clauses. -/
theorem flatMap_parts_map {f : α → β} {parts : F → List α}
    {parts' : G → List β} {map : F → G}
    (hparts : ∀ clause, parts' (map clause) = (parts clause).map f)
    (clauses : List F) :
    (clauses.map map).flatMap parts' = (clauses.flatMap parts).map f := by
  simp [List.flatMap_map, List.map_flatMap, hparts]

/-- Maps that agree on all parts of a family agree on the family. -/
theorem family_map_congr {f g : α → β} {parts : F → List α} {map map' : F → G}
    {family : Option (List F)}
    (hcongr : ∀ clause, (∀ part ∈ parts clause, f part = g part) →
      map clause = map' clause)
    (h : ∀ part ∈ (members family).flatMap parts, f part = g part) :
    family.map (List.map map) = family.map (List.map map') := by
  cases family with
  | none => rfl
  | some clauses =>
      apply congrArg some
      apply List.map_congr_left
      intro clause hclause
      apply hcongr
      intro part hpart
      exact h part (List.mem_flatMap.2 ⟨clause, hclause, hpart⟩)

theorem document_family_map_congr {f g : α → β} {family : Option (Document α)}
    (h : ∀ part ∈ Document.parts (members family), f part = g part) :
    family.map (Document.map f) = family.map (Document.map g) := by
  cases family with
  | none => rfl
  | some document => exact congrArg some (Document.map_congr h)

theorem parts_family_map_congr {f g : α → β} {family : Option (List α)}
    (h : ∀ part ∈ members family, f part = g part) :
    family.map (List.map f) = family.map (List.map g) := by
  cases family with
  | none => rfl
  | some parts => exact congrArg some (List.map_congr_left h)

end Record

open Record (members)

/-! ## Sources and clauses -/

namespace Source

def parts : Source α → List α
  | .text _ => []
  | .range _ _ => []
  | .graph traversal => Document.parts (members traversal.options)

theorem parts_map (f : α → β) (source : Source α) :
    (source.map f).parts = source.parts.map f := by
  cases source with
  | text _ => rfl
  | range _ _ => rfl
  | graph traversal =>
      simp [Source.map, GraphSource.map, parts, Record.members_document_map,
        Document.parts_map]

theorem map_map (g : β → γ) (f : α → β) (source : Source α) :
    (source.map f).map g = source.map (g ∘ f) := by
  cases source with
  | text _ => rfl
  | range _ _ => rfl
  | graph traversal =>
      simp only [Source.map, GraphSource.map, Record.document_family_map_map]

theorem map_congr {f g : α → β} {source : Source α}
    (h : ∀ part ∈ source.parts, f part = g part) :
    source.map f = source.map g := by
  cases source with
  | text _ => rfl
  | range _ _ => rfl
  | graph traversal =>
      simp [Source.map, GraphSource.map, Record.document_family_map_congr h]

end Source

namespace Slot

/-- The parts of a source, if there is one at all. -/
def parts : Option (Slot (Source α)) → List α
  | some (.proper source) => source.parts
  | _ => []

theorem parts_map (f : α → β) (source : Option (Slot (Source α))) :
    parts (source.map (Slot.map (Source.map f))) = (parts source).map f := by
  rcases source with _ | source | _
  · rfl
  · exact source.parts_map f
  · rfl

theorem map_map (g : β → γ) (f : α → β) (source : Option (Slot (Source α))) :
    (source.map (Slot.map (Source.map f))).map (Slot.map (Source.map g)) =
      source.map (Slot.map (Source.map (g ∘ f))) := by
  rcases source with _ | source | _
  · rfl
  · exact congrArg (some ∘ Slot.proper) (source.map_map g f)
  · rfl

theorem map_id :
    (Slot.map (Source.map id) : Slot (Source α) → Slot (Source α)) = id := by
  funext source
  rcases source with ⟨_ | _ | traversal⟩ | _
  · rfl
  · rfl
  · simp [Slot.map, Source.map, GraphSource.map, Document.map_id]
  · rfl

theorem map_congr {f g : α → β} {source : Option (Slot (Source α))}
    (h : ∀ part ∈ parts source, f part = g part) :
    source.map (Slot.map (Source.map f)) =
      source.map (Slot.map (Source.map g)) := by
  rcases source with _ | source | _
  · rfl
  · exact congrArg (some ∘ Slot.proper) (Source.map_congr h)
  · rfl

end Slot

namespace Join

def parts (join : Join α) : List α :=
  Slot.parts join.source

theorem parts_map (f : α → β) (join : Join α) :
    (join.map f).parts = join.parts.map f :=
  Slot.parts_map f join.source

theorem map_map (g : β → γ) (f : α → β) (join : Join α) :
    (join.map f).map g = join.map (g ∘ f) :=
  congrArg (Join.mk join.loop) (Slot.map_map g f join.source)

theorem map_congr {f g : α → β} (join : Join α)
    (h : ∀ part ∈ join.parts, f part = g part) : join.map f = join.map g :=
  congrArg (Join.mk join.loop) (Slot.map_congr h)

end Join

namespace Collect

def parts (collect : Collect α) : List α :=
  Document.parts collect.keys ++ Document.parts collect.aggregates

theorem parts_map (f : α → β) (collect : Collect α) :
    (collect.map f).parts = collect.parts.map f := by
  simp [parts, Collect.map, Document.parts_map]

theorem map_map (g : β → γ) (f : α → β) (collect : Collect α) :
    (collect.map f).map g = collect.map (g ∘ f) := by
  simp [Collect.map, Document.map_map]

theorem map_congr {f g : α → β} (collect : Collect α)
    (h : ∀ part ∈ collect.parts, f part = g part) :
    collect.map f = collect.map g := by
  obtain ⟨hkeys, haggregates⟩ := List.forall_mem_append.1 h
  simp only [Collect.map, Document.map_congr hkeys,
    Document.map_congr haggregates]

end Collect

namespace Operation

def parts (operation : Operation α) : List α :=
  operation.document.toList

theorem parts_map (f : α → β) (operation : Operation α) :
    (operation.map f).parts = operation.parts.map f := by
  simp only [parts, Operation.map]
  cases operation.document <;> rfl

theorem map_map (g : β → γ) (f : α → β) (operation : Operation α) :
    (operation.map f).map g = operation.map (g ∘ f) := by
  simp [Operation.map]

theorem map_congr {f g : α → β} (operation : Operation α)
    (h : ∀ part ∈ operation.parts, f part = g part) :
    operation.map f = operation.map g := by
  have hdocument : operation.document.map f = operation.document.map g :=
    Option.map_congr fun part hpart => h part (by simp [parts, hpart])
  simp only [Operation.map, hdocument]

end Operation

namespace Upsert

def parts (upsert : Upsert α) : List α :=
  [upsert.search, upsert.insert, upsert.update]

theorem parts_map (f : α → β) (upsert : Upsert α) :
    (upsert.map f).parts = upsert.parts.map f :=
  rfl

theorem map_map (g : β → γ) (f : α → β) (upsert : Upsert α) :
    (upsert.map f).map g = upsert.map (g ∘ f) :=
  rfl

theorem map_congr {f g : α → β} (upsert : Upsert α)
    (h : ∀ part ∈ upsert.parts, f part = g part) :
    upsert.map f = upsert.map g := by
  simp only [parts, List.forall_mem_cons] at h
  simp only [Upsert.map, h]

end Upsert

namespace Update

def parts (update : Update α) : List α :=
  [update.document, update.fields]

theorem parts_map (f : α → β) (update : Update α) :
    (update.map f).parts = update.parts.map f :=
  rfl

theorem map_map (g : β → γ) (f : α → β) (update : Update α) :
    (update.map f).map g = update.map (g ∘ f) :=
  rfl

theorem map_congr {f g : α → β} (update : Update α)
    (h : ∀ part ∈ update.parts, f part = g part) :
    update.map f = update.map g := by
  simp only [parts, List.forall_mem_cons] at h
  simp only [Update.map, h]

end Update

namespace Search

def parts (search : Search α) : List α :=
  search.conditions ++ Document.parts (members search.options)

theorem parts_map (f : α → β) (search : Search α) :
    (search.map f).parts = search.parts.map f := by
  simp [parts, Search.map, Record.members_document_map, Document.parts_map]

theorem map_map (g : β → γ) (f : α → β) (search : Search α) :
    (search.map f).map g = search.map (g ∘ f) := by
  simp only [Search.map, List.map_map, Record.document_family_map_map]

theorem map_congr {f g : α → β} (search : Search α)
    (h : ∀ part ∈ search.parts, f part = g part) :
    search.map f = search.map g := by
  obtain ⟨hconditions, hoptions⟩ := List.forall_mem_append.1 h
  simp only [Search.map, List.map_congr_left hconditions,
    Record.document_family_map_congr hoptions]

end Search

namespace Window

def parts (window : Window α) : List α :=
  [window.aggregation]

theorem parts_map (f : α → β) (window : Window α) :
    (window.map f).parts = window.parts.map f :=
  rfl

theorem map_map (g : β → γ) (f : α → β) (window : Window α) :
    (window.map f).map g = window.map (g ∘ f) :=
  rfl

theorem map_congr {f g : α → β} (window : Window α)
    (h : ∀ part ∈ window.parts, f part = g part) :
    window.map f = window.map g := by
  simp only [parts, List.forall_mem_cons] at h
  simp only [Window.map, h]

end Window

/-! ## Records and nodes -/

namespace Record

/-- The expressions that a record contains directly, field by field. -/
def parts (record : Record α) : List α :=
  [Slot.parts record.source,
    members record.filters,
    members record.filtersAfterCollect,
    (members record.joins).flatMap Join.parts,
    Document.parts (members record.letsAfterCollect),
    Document.parts (members record.letsBeforeCollect),
    (members record.collects).flatMap Collect.parts,
    record.result.toList,
    (members record.operations).flatMap Operation.parts,
    (members record.upserts).flatMap Upsert.parts,
    (members record.updates).flatMap Update.parts,
    (members record.searches).flatMap Search.parts,
    members record.prunes,
    (members record.windows).flatMap Window.parts].flatten

theorem parts_map (f : α → β) (record : Record α) :
    (record.map f).parts = record.parts.map f := by
  have hresult : (record.result.map f).toList = record.result.toList.map f := by
    cases record.result <;> rfl
  simp only [parts, Record.map, List.map_flatten, List.map_cons, List.map_nil,
    members_map, members_document_map, Document.parts_map, Slot.parts_map,
    hresult, flatMap_parts_map (Join.parts_map f),
    flatMap_parts_map (Collect.parts_map f),
    flatMap_parts_map (Operation.parts_map f),
    flatMap_parts_map (Upsert.parts_map f),
    flatMap_parts_map (Update.parts_map f),
    flatMap_parts_map (Search.parts_map f),
    flatMap_parts_map (Window.parts_map f)]

theorem map_map (g : β → γ) (f : α → β) (record : Record α) :
    (record.map f).map g = record.map (g ∘ f) := by
  have hresult : (record.result.map f).map g = record.result.map (g ∘ f) :=
    Option.map_map ..
  have hparts : ∀ part, g (f part) = (g ∘ f) part := fun _ => rfl
  simp only [Record.map, Slot.map_map, document_family_map_map, hresult,
    family_map_map hparts, family_map_map (Join.map_map g f),
    family_map_map (Collect.map_map g f),
    family_map_map (Operation.map_map g f),
    family_map_map (Upsert.map_map g f), family_map_map (Update.map_map g f),
    family_map_map (Search.map_map g f), family_map_map (Window.map_map g f)]

theorem map_id (record : Record α) : record.map id = record := by
  have hjoin : (Join.map id : Join α → Join α) = id := by
    funext join
    simp [Join.map, Slot.map_id]
  have hcollect : (Collect.map id : Collect α → Collect α) = id := by
    funext collect
    simp [Collect.map, Document.map_id]
  have hoperation : (Operation.map id : Operation α → Operation α) = id := by
    funext operation
    simp [Operation.map]
  have hsearch : (Search.map id : Search α → Search α) = id := by
    funext search
    simp [Search.map, Document.map_id]
  have hupsert : (Upsert.map id : Upsert α → Upsert α) = id := rfl
  have hupdate : (Update.map id : Update α → Update α) = id := rfl
  have hwindow : (Window.map id : Window α → Window α) = id := rfl
  simp [Record.map, Slot.map_id, Document.map_id, hjoin, hcollect, hoperation,
    hsearch, hupsert, hupdate, hwindow]

theorem map_congr {f g : α → β} {record : Record α}
    (h : ∀ part ∈ record.parts, f part = g part) :
    record.map f = record.map g := by
  simp only [parts, List.forall_mem_flatten, List.forall_mem_cons] at h
  obtain ⟨hsource, hfilters, hfiltersAfter, hjoins, hletsAfter, hletsBefore,
    hcollects, hresult, hoperations, hupserts, hupdates, hsearches, hprunes,
    hwindows, -⟩ := h
  have hresult' : record.result.map f = record.result.map g :=
    Option.map_congr fun part hpart => hresult part (by simp [hpart])
  simp only [Record.map, Slot.map_congr hsource,
    parts_family_map_congr hfilters, parts_family_map_congr hfiltersAfter,
    family_map_congr Join.map_congr hjoins,
    document_family_map_congr hletsAfter,
    document_family_map_congr hletsBefore,
    family_map_congr Collect.map_congr hcollects, hresult',
    family_map_congr Operation.map_congr hoperations,
    family_map_congr Upsert.map_congr hupserts,
    family_map_congr Update.map_congr hupdates,
    family_map_congr Search.map_congr hsearches,
    parts_family_map_congr hprunes,
    family_map_congr Window.map_congr hwindows]

end Record

namespace Node

/-- The expressions directly below a node. -/
def parts : Node α → List α
  | .literal _ => []
  | .reference _ => []
  | .parameter _ => []
  | .binary _ left right => [left, right]
  | .unary _ operand => [operand]
  | .call _ arguments => arguments
  | .ternary condition thenValue elseValue => [condition, thenValue, elseValue]
  | .like subject _ _ => [subject]
  | .regex subject _ _ => [subject]
  | .old _ => []
  | .quantified _ subject condition => [subject, condition]
  | .unset document _ => [document]
  | .object members => Document.parts members
  | .array items => items
  | .subquery query => query.parts
  | .stray _ => []

theorem parts_map (f : α → β) (node : Node α) :
    (node.map f).parts = node.parts.map f := by
  cases node with
  | object members => exact Document.parts_map f members
  | subquery query => exact query.parts_map f
  | _ => rfl

theorem map_map (g : β → γ) (f : α → β) (node : Node α) :
    (node.map f).map g = node.map (g ∘ f) := by
  cases node with
  | call function arguments => simp [Node.map]
  | array items => simp [Node.map]
  | object members => exact congrArg Node.object (Document.map_map g f members)
  | subquery query => exact congrArg Node.subquery (query.map_map g f)
  | _ => rfl

/-- Maps that agree on the parts of a node agree on the node. -/
theorem map_congr {f g : α → β} {node : Node α}
    (h : ∀ part ∈ node.parts, f part = g part) : node.map f = node.map g := by
  cases node with
  | object members => exact congrArg Node.object (Document.map_congr h)
  | subquery query => exact congrArg Node.subquery (Record.map_congr h)
  | call function arguments =>
      exact congrArg (Node.call function) (List.map_congr_left h)
  | array items => exact congrArg Node.array (List.map_congr_left h)
  | _ => simp_all [parts, Node.map]

end Node

namespace Expr

theorem reduce_of (algebra : Node β → β) (node : Node Expr) :
    reduce algebra (.of node) = algebra (node.map (reduce algebra)) := by
  rw [reduce, fold_of, Node.map_map]
  rfl

/-- The number of levels of an expression. -/
def depth : Expr → Nat :=
  reduce fun node => node.parts.foldr max 0 + 1

theorem le_foldr_max {depths : List Nat} {depth : Nat}
    (hdepth : depth ∈ depths) : depth ≤ depths.foldr max 0 := by
  induction depths with
  | nil => exact absurd hdepth List.not_mem_nil
  | cons first rest hrest =>
      rw [List.foldr_cons]
      rcases List.mem_cons.1 hdepth with rfl | hmem
      · exact Nat.le_max_left _ _
      · exact Nat.le_trans (hrest hmem) (Nat.le_max_right _ _)

theorem depth_of (node : Node Expr) :
    depth (.of node) = (node.parts.map depth).foldr max 0 + 1 := by
  rw [depth, reduce_of, Node.parts_map]

theorem depth_pos (expr : Expr) : 0 < expr.depth := by
  obtain ⟨node⟩ := expr
  rw [depth_of]
  exact Nat.succ_pos _

theorem depth_lt {node : Node Expr} {part : Expr} (hpart : part ∈ node.parts) :
    part.depth < depth (.of node) := by
  rw [depth_of]
  exact Nat.lt_succ_of_le (le_foldr_max (List.mem_map_of_mem hpart))

/-- What a node inherits from its parts holds of every expression. -/
theorem induction {motive : Expr → Prop}
    (step : ∀ node : Node Expr,
      (∀ part ∈ node.parts, motive part) → motive (.of node))
    (expr : Expr) : motive expr := by
  -- The trees are nested in lists and records, so the induction is on depth.
  induction hdepth : expr.depth using Nat.strongRecOn generalizing expr with
  | _ depth hsmaller =>
      obtain ⟨node⟩ := expr
      apply step
      intro part hpart
      exact hsmaller part.depth (hdepth ▸ depth_lt hpart) part rfl

end Expr

/-! ## Queries next to the results of their parts -/

namespace Query

theorem map_fst_withFold (algebra : Node (Expr × β) → β) (query : Query) :
    (query.map (Expr.withFold algebra)).map Prod.fst = query := by
  rw [Record.map_map]
  exact query.map_id

theorem map_snd_withFold (algebra : Node (Expr × β) → β) (query : Query) :
    (query.map (Expr.withFold algebra)).map Prod.snd =
      query.map (Expr.fold algebra) := by
  rw [Record.map_map]
  rfl

end Query

end ArangoQuery
