import ArangoQuery.Proofs.Filling
import ArangoQuery.Proofs.Typed

/-!
# The parts that are written

Rendering leaves out a few parts of a record: the options of a traversal that no
loop uses, a search without conditions, and the document of a removal.  Every
other part is written, and nothing else can keep the lines of a typed record from
being filled (`Record.any_template`).
-/

namespace ArangoQuery

open Template
open Record (members)

variable {α β : Type}

namespace Search

/-- A search without conditions is not written. -/
def renderedParts (search : Search α) : List α :=
  if search.conditions.isEmpty then [] else search.parts

theorem renderedParts_subset (search : Search α) :
    search.renderedParts ⊆ search.parts := by
  rw [renderedParts]
  split
  · exact List.nil_subset _
  · exact List.Subset.refl _

theorem renderedParts_map (f : α → β) (search : Search α) :
    (search.map f).renderedParts = search.renderedParts.map f := by
  have hempty : (search.map f).conditions.isEmpty =
      search.conditions.isEmpty := by
    simp [Search.map]
  simp only [renderedParts, hempty, parts_map]
  split <;> rfl

end Search

namespace Operation

/-- A removal names its target and has no use for a document. -/
def renderedParts (operation : Operation α) : List α :=
  if operation.kind = .remove then [] else operation.parts

theorem renderedParts_subset (operation : Operation α) :
    operation.renderedParts ⊆ operation.parts := by
  rw [renderedParts]
  split
  · exact List.nil_subset _
  · exact List.Subset.refl _

theorem renderedParts_map (f : α → β) (operation : Operation α) :
    (operation.map f).renderedParts = operation.renderedParts.map f := by
  have hkind : (operation.map f).kind = operation.kind := rfl
  simp only [renderedParts, hkind, parts_map]
  split <;> rfl

end Operation

namespace Record

/-- The parts of the main loop, which is written if it has a variable. -/
def loopParts (record : Record α) : List α :=
  if record.loopNames.isSome || Slot.isPresentText record.loop then
    Slot.parts record.source
  else []

/-- The parts of a record that are written, in the order of the lines. -/
def renderedParts (record : Record α) : List α :=
  [record.loopParts,
    (members record.joins).flatMap Join.parts,
    Document.parts (members record.letsBeforeCollect),
    (members record.searches).flatMap Search.renderedParts,
    members record.filters,
    (members record.collects).flatMap Collect.parts,
    members record.prunes,
    Document.parts (members record.letsAfterCollect),
    members record.filtersAfterCollect,
    (members record.windows).flatMap Window.parts,
    (members record.operations).flatMap Operation.renderedParts,
    (members record.upserts).flatMap Upsert.parts,
    (members record.updates).flatMap Update.parts,
    record.result.toList].flatten

theorem loopParts_subset (record : Record α) :
    record.loopParts ⊆ Slot.parts record.source := by
  rw [loopParts]
  split
  · exact List.Subset.refl _
  · exact List.nil_subset _

theorem renderedParts_subset (record : Record α) :
    record.renderedParts ⊆ record.parts := by
  intro part
  have hloop : part ∈ record.loopParts → part ∈ Slot.parts record.source :=
    fun hpart => record.loopParts_subset hpart
  have hsearches :
      part ∈ (members record.searches).flatMap Search.renderedParts →
        part ∈ (members record.searches).flatMap Search.parts := by
    simp only [List.mem_flatMap]
    rintro ⟨search, hsearch, hpart⟩
    exact ⟨search, hsearch, search.renderedParts_subset hpart⟩
  have hoperations :
      part ∈ (members record.operations).flatMap Operation.renderedParts →
        part ∈ (members record.operations).flatMap Operation.parts := by
    simp only [List.mem_flatMap]
    rintro ⟨operation, hoperation, hpart⟩
    exact ⟨operation, hoperation, operation.renderedParts_subset hpart⟩
  simp only [renderedParts, parts, List.flatten_cons, List.flatten_nil,
    List.mem_append]
  intro hpart
  rcases hpart with hpart | hpart | hpart | hpart | hpart | hpart | hpart |
    hpart | hpart | hpart | hpart | hpart | hpart | hpart | hpart
  · simp only [hloop hpart, true_or]
  all_goals first
    | simp only [hpart, true_or, or_true]
    | simp only [hsearches hpart, true_or, or_true]
    | simp only [hoperations hpart, true_or, or_true]

theorem loopParts_map (f : α → β) (record : Record α) :
    (record.map f).loopParts = record.loopParts.map f := by
  simp only [loopParts, Record.map, Slot.parts_map]
  split <;> rfl

theorem renderedParts_map (f : α → β) (record : Record α) :
    (record.map f).renderedParts = record.renderedParts.map f := by
  have hresult : (record.result.map f).toList = record.result.toList.map f := by
    cases record.result <;> rfl
  simp only [renderedParts, loopParts_map, List.map_flatten, List.map_cons,
    List.map_nil]
  simp only [Record.map, members_map, members_document_map,
    Document.parts_map, hresult, flatMap_parts_map (Join.parts_map f),
    flatMap_parts_map (Collect.parts_map f),
    flatMap_parts_map (Operation.renderedParts_map f),
    flatMap_parts_map (Upsert.parts_map f),
    flatMap_parts_map (Update.parts_map f),
    flatMap_parts_map (Search.renderedParts_map f),
    flatMap_parts_map (Window.parts_map f)]

end Record

/-! ## Tests of pieces -/

section Tests

variable {test : Piece → Bool} (htext : ∀ content, test (.text content) = false)

namespace Template

include htext

theorem any_ofText (content : String) : (ofText content).any test = false := by
  simp [ofText, htext]

theorem any_intercalate (separator : String) (templates : List Template) :
    (intercalate separator templates).any test =
      templates.any fun template => template.any test := by
  induction templates with
  | nil => rfl
  | cons template rest hrest =>
      cases rest with
      | nil => simp [intercalate]
      | cons next rest =>
          have hnext : intercalate separator (template :: next :: rest) =
              template ++ Piece.text separator ::
                intercalate separator (next :: rest) := rfl
          rw [hnext, List.any_append, List.any_cons, hrest, htext,
            Bool.false_or, List.any_cons (l := next :: rest)]

theorem any_enclose (opening closing : String) (inner : Template) :
    (enclose opening inner closing).any test = inner.any test := by
  simp [enclose, htext, any_ofText htext]

end Template

section Clauses

include htext

theorem Document.any_template (document : Document Template) :
    (Document.template document).any test =
      (Document.parts document).any fun part => part.any test := by
  simp [Document.template, Document.parts, any_enclose htext, any_intercalate htext, htext,
    Function.comp_def]

theorem any_optionsTemplate (options : Option (Document Template)) :
    (optionsTemplate options).any test =
      (Document.parts (members options)).any fun part => part.any test := by
  cases options with
  | none => rfl
  | some options =>
      simp [optionsTemplate, htext, Document.any_template htext, Record.members]

theorem Slot.any_sourceTemplate (source : Slot (Source Template)) :
    source.sourceTemplate.any test =
      (Slot.parts (some source)).any fun part => part.any test := by
  rcases source with ⟨name | _ | traversal⟩ | content
  · exact any_ofText htext name
  · exact any_ofText htext _
  · simp [Slot.sourceTemplate, Source.template, htext,
      any_optionsTemplate htext, Slot.parts, Source.parts]
  · exact any_ofText htext _

theorem any_loopLine (loop : String) (source : Slot (Source Template)) :
    (loopLine loop source).any test =
      (Slot.parts (some source)).any fun part => part.any test := by
  simp [loopLine, htext, Slot.any_sourceTemplate htext]

omit htext in
theorem Slot.parts_of_absent {source : Option (Slot (Source α))}
    (habsent : Slot.isPresentSource source = false) :
    Slot.parts source = [] := by
  rcases source with _ | ⟨_ | _ | _⟩ | _
  · rfl
  · rfl
  · rfl
  · exact absurd habsent (by simp [Slot.isPresentSource, Source.isPresent])
  · rfl

theorem Join.any_lines (join : Join Template) :
    (join.lines.any fun line => line.any test) =
      join.parts.any fun part => part.any test := by
  obtain ⟨loop, source⟩ := join
  cases source with
  | none => rfl
  | some source =>
      cases hpresent : Slot.isPresentSource (some source) with
      | true =>
          simp [Join.lines, hpresent, any_loopLine htext, Join.parts]
      | false =>
          simp [Join.lines, hpresent, Join.parts,
            Slot.parts_of_absent hpresent]

theorem any_letLines (lets : Option (Document Template)) :
    ((letLines lets).any fun line => line.any test) =
      (Document.parts (members lets)).any fun part => part.any test := by
  simp [letLines, Document.parts, htext, Function.comp_def]

theorem any_filterLines (conditions : Option (List Template)) :
    ((filterLines conditions).any fun line => line.any test) =
      (members conditions).any fun part => part.any test := by
  simp [filterLines, htext, Function.comp_def]

theorem any_pruneLines (conditions : Option (List Template)) :
    ((pruneLines conditions).any fun line => line.any test) =
      (members conditions).any fun part => part.any test := by
  simp [pruneLines, htext, Function.comp_def]

theorem Search.any_lines (search : Search Template) :
    (search.lines.any fun line => line.any test) =
      search.renderedParts.any fun part => part.any test := by
  simp only [Search.lines, Search.renderedParts]
  split
  · rfl
  · simp [htext, any_intercalate htext, any_optionsTemplate htext, Search.parts]

theorem any_assignments (document : Document Template) :
    (assignments document).any test =
      (Document.parts document).any fun part => part.any test := by
  simp [assignments, Document.parts, any_intercalate htext, htext,
    Function.comp_def]

theorem Collect.any_lines (collect : Collect Template) :
    (collect.lines.any fun line => line.any test) =
      collect.parts.any fun part => part.any test := by
  obtain ⟨keys, into, aggregates, keep⟩ := collect
  have hkeys :
      ([if keys.isEmpty then ofText "COLLECT"
        else Piece.text "COLLECT " :: assignments keys].any
          fun line => line.any test) =
        (Document.parts keys).any fun part => part.any test := by
    cases keys with
    | nil => simp [any_ofText htext, Document.parts]
    | cons key keys => simp [htext, any_assignments htext]
  have haggregates :
      ((if aggregates.isEmpty then []
        else [Piece.text "  AGGREGATE " :: assignments aggregates]).any
          fun line => line.any test) =
        (Document.parts aggregates).any fun part => part.any test := by
    cases aggregates with
    | nil => rfl
    | cons aggregate aggregates => simp [htext, any_assignments htext]
  simp only [Collect.lines, Collect.parts, List.any_append]
  rw [hkeys, haggregates]
  -- The names of the group and of what is kept are texts.
  cases into with
  | none => exact Bool.or_false _
  | some group =>
      simp only
      split
      · exact Bool.or_false _
      · rcases keep with _ | _ | ⟨name, names⟩ <;> simp [any_ofText htext]

theorem Window.any_lines (window : Window Template) :
    (window.lines.any fun line => line.any test) =
      window.parts.any fun part => part.any test := by
  simp [Window.lines, Window.parts, any_ofText htext, htext]

theorem Operation.any_line (operation : Operation Template) :
    operation.line.any test =
      operation.renderedParts.any fun part => part.any test := by
  obtain ⟨kind, document, collection, target⟩ := operation
  cases kind <;> cases document <;>
    simp [Operation.line, Operation.renderedParts, Operation.parts,
      any_ofText htext, htext]

theorem Upsert.any_lines (upsert : Upsert Template) :
    (upsert.lines.any fun line => line.any test) =
      upsert.parts.any fun part => part.any test := by
  simp [Upsert.lines, Upsert.parts, any_ofText htext, htext]

theorem Update.any_lines (hasResult : Bool) (update : Update Template) :
    ((update.lines hasResult).any fun line => line.any test) =
      update.parts.any fun part => part.any test := by
  simp only [Update.lines, Update.parts]
  split <;> simp [any_ofText htext, htext]

end Clauses

namespace Record

include htext

theorem any_loopLines (record : Record Template) :
    (record.loopLines.any fun line => line.any test) =
      record.loopParts.any fun part => part.any test := by
  simp only [loopLines, loopParts]
  cases hsource : record.source with
  | none => simp [Slot.parts]
  | some source =>
      cases hpresent : Slot.isPresentSource (some source) with
      | false =>
          simp [Slot.parts_of_absent hpresent]
      | true =>
          rcases record.loopNames with _ | names <;>
            rcases record.loop with _ | loop
          · rfl
          · cases hloop : Slot.isPresentText (some loop) <;>
              simp [hloop, any_loopLine htext]
          · simp [any_loopLine htext]
          · simp [any_loopLine htext]

theorem any_sortLines (record : Record Template) :
    (record.sortLines.any fun line => line.any test) = false := by
  simp only [sortLines]
  split <;> simp [any_ofText htext]

theorem any_limitLines (record : Record Template) :
    (record.limitLines.any fun line => line.any test) = false := by
  simp only [limitLines]
  split <;> simp [any_ofText htext]

theorem any_resultLines (record : Record Template) :
    (record.resultLines.any fun line => line.any test) =
      record.result.toList.any fun part => part.any test := by
  cases hresult : record.result with
  | none => simp [resultLines, hresult]
  | some result => simp [resultLines, hresult, htext]

omit htext in
theorem any_family_lines {F : Type} {lines parts : F → List Template}
    (hlines : ∀ clause, ((lines clause).any fun line => line.any test) =
      (parts clause).any fun part => part.any test) (clauses : List F) :
    ((clauses.flatMap lines).any fun line => line.any test) =
      (clauses.flatMap parts).any fun part => part.any test := by
  simp only [List.any_flatMap, hlines]

theorem any_template (record : Record Template) :
    record.template.any test =
      ((record.withLines.any fun line => line.any test) ||
        record.renderedParts.any fun part => part.any test) := by
  have htraversals :
      (((members record.traversals).map Traversal.line).any
        fun line => line.any test) = false := by
    simp [Traversal.line, any_ofText htext]
  have hoperations :
      (((members record.operations).map Operation.line).any
        fun line => line.any test) =
        ((members record.operations).flatMap Operation.renderedParts).any
          fun part => part.any test := by
    rw [List.any_map, List.any_flatMap]
    exact congrArg (List.any _)
      (funext fun operation => Operation.any_line htext operation)
  simp only [template, any_intercalate htext, List.any_flatten, groups,
    renderedParts, List.any_cons, List.any_nil, Bool.or_false, Bool.false_or,
    any_loopLines htext, any_letLines htext, any_filterLines htext,
    any_pruneLines htext, any_sortLines htext, any_limitLines htext,
    any_resultLines htext, htraversals, hoperations,
    any_family_lines (Join.any_lines htext),
    any_family_lines (Search.any_lines htext),
    any_family_lines (Collect.any_lines htext),
    any_family_lines (Window.any_lines htext),
    any_family_lines (Upsert.any_lines htext),
    any_family_lines (Update.any_lines htext record.result.isSome)]

end Record

end Tests

end ArangoQuery
