import ArangoQuery.Rendering.Compiled
import ArangoQuery.Proofs.Tree

/-!
# The pieces of a record

Clauses write texts around the templates of their expressions and do not look
inside them.  Whatever is done to the pieces of the expressions one by one can as
well be done to the pieces of the record (`Record.template_map`), and so what
holds of all pieces of the expressions holds of all pieces of the record
(`Record.template_forall`).
-/

namespace ArangoQuery

open Template
open Record (members)

/-- A change of pieces that leaves alone what clauses write themselves. -/
structure KeepsText (change : Piece → Piece) : Prop where
  text : ∀ content, change (.text content) = .text content
  typeFault : ∀ fault, change (.halt (.type fault)) = .halt (.type fault)

theorem Slot.isPresentSource_map {α β : Type} (f : α → β)
    (source : Option (Slot (Source α))) :
    Slot.isPresentSource (source.map (Slot.map (Source.map f))) =
      Slot.isPresentSource source := by
  rcases source with _ | ⟨_ | _ | _⟩ | _ <;> rfl

section Changes

variable {change : Piece → Piece} (hchange : KeepsText change)

namespace Template

include hchange

theorem map_ofText (content : String) :
    (ofText content).map change = ofText content := by
  simp [ofText, hchange.text]

theorem map_intercalate (separator : String) (templates : List Template) :
    (intercalate separator templates).map change =
      intercalate separator (templates.map (List.map change)) := by
  induction templates with
  | nil => rfl
  | cons template rest hrest =>
      cases rest with
      | nil => rfl
      | cons next rest =>
          simp only [List.map_cons] at hrest
          simp [intercalate, hchange.text, hrest]

theorem map_enclose (opening closing : String) (inner : Template) :
    (enclose opening inner closing).map change =
      enclose opening (inner.map change) closing := by
  simp [enclose, hchange.text, map_ofText hchange]

end Template

section Clauses

include hchange

theorem Document.template_map (document : Document Template) :
    (Document.template document).map change =
      Document.template (Document.map (List.map change) document) := by
  simp [Document.template, Document.map, map_enclose hchange,
    map_intercalate hchange, hchange.text, Function.comp_def]

theorem optionsTemplate_map (options : Option (Document Template)) :
    (optionsTemplate options).map change =
      optionsTemplate (options.map (Document.map (List.map change))) := by
  cases options with
  | none => rfl
  | some options =>
      simp [optionsTemplate, hchange.text, Document.template_map hchange]

theorem Source.template_map (source : Source Template) :
    source.template.map change = (source.map (List.map change)).template := by
  cases source with
  | text name => exact map_ofText hchange name
  | range first last => exact map_ofText hchange (rangeText first last)
  | graph traversal =>
      simp only [Source.template, Source.map, List.map_cons, hchange.text,
        optionsTemplate_map hchange]
      rfl

theorem Slot.sourceTemplate_map (source : Slot (Source Template)) :
    source.sourceTemplate.map change =
      (source.map (Source.map (List.map change))).sourceTemplate := by
  cases source with
  | proper source => exact Source.template_map hchange source
  | stray content => exact map_ofText hchange content.display

theorem loopLine_map (loop : String) (source : Slot (Source Template)) :
    (loopLine loop source).map change =
      loopLine loop (source.map (Source.map (List.map change))) := by
  simp [loopLine, hchange.text, Slot.sourceTemplate_map hchange]

theorem Join.lines_map (join : Join Template) :
    join.lines.map (List.map change) = (join.map (List.map change)).lines := by
  obtain ⟨loop, source⟩ := join
  have hpresent := Slot.isPresentSource_map (List.map change) source
  cases source with
  | none => rfl
  | some source =>
      simp only [Option.map_some] at hpresent
      simp only [Join.lines, Join.map, Option.map_some, hpresent]
      split
      · simp [loopLine_map hchange]
      · rfl

theorem letLines_map (lets : Option (Document Template)) :
    (letLines lets).map (List.map change) =
      letLines (lets.map (Document.map (List.map change))) := by
  simp [letLines, Record.members_document_map, Document.map, hchange.text,
    Function.comp_def]

theorem filterLines_map (conditions : Option (List Template)) :
    (filterLines conditions).map (List.map change) =
      filterLines (conditions.map (List.map (List.map change))) := by
  simp [filterLines, Record.members_map, hchange.text, Function.comp_def]

theorem pruneLines_map (conditions : Option (List Template)) :
    (pruneLines conditions).map (List.map change) =
      pruneLines (conditions.map (List.map (List.map change))) := by
  simp [pruneLines, Record.members_map, hchange.text, Function.comp_def]

theorem Search.lines_map (search : Search Template) :
    search.lines.map (List.map change) =
      (search.map (List.map change)).lines := by
  have hempty : (search.conditions.map (List.map change)).isEmpty =
      search.conditions.isEmpty := by simp
  simp only [Search.lines, Search.map, hempty]
  split
  · rfl
  · simp [hchange.text, map_intercalate hchange, optionsTemplate_map hchange]

theorem assignments_map (document : Document Template) :
    (assignments document).map change =
      assignments (Document.map (List.map change) document) := by
  simp [assignments, Document.map, map_intercalate hchange, hchange.text,
    Function.comp_def]

theorem Collect.lines_map (collect : Collect Template) :
    collect.lines.map (List.map change) =
      (collect.map (List.map change)).lines := by
  have hempty (document : Document Template) :
      (Document.map (List.map change) document).isEmpty =
        document.isEmpty := by
    simp [Document.map]
  obtain ⟨keys, into, aggregates, keep⟩ := collect
  simp only [Collect.lines, Collect.map, hempty, List.map_append]
  congr 1
  · congr 1
    · split
      · simp [map_ofText hchange]
      · simp [hchange.text, assignments_map hchange]
    · split
      · rfl
      · simp [hchange.text, assignments_map hchange]
  · cases into with
    | none => rfl
    | some group =>
        simp only
        split
        · rfl
        · rcases keep with _ | _ | ⟨name, names⟩ <;>
            simp [map_ofText hchange]

theorem Traversal.line_map (traversal : Traversal) :
    traversal.line.map change = traversal.line :=
  map_ofText hchange _

theorem Window.lines_map (window : Window Template) :
    window.lines.map (List.map change) =
      (window.map (List.map change)).lines := by
  simp [Window.lines, Window.map, map_ofText hchange, hchange.text]

theorem Operation.line_map (operation : Operation Template) :
    operation.line.map change = (operation.map (List.map change)).line := by
  obtain ⟨kind, document, collection, target⟩ := operation
  cases kind <;> cases document <;>
    simp [Operation.line, Operation.map, map_ofText hchange, hchange.text]

theorem Upsert.lines_map (upsert : Upsert Template) :
    upsert.lines.map (List.map change) =
      (upsert.map (List.map change)).lines := by
  simp [Upsert.lines, Upsert.map, map_ofText hchange, hchange.text]

theorem Update.lines_map (hasResult : Bool) (update : Update Template) :
    (update.lines hasResult).map (List.map change) =
      (update.map (List.map change)).lines hasResult := by
  simp only [Update.lines, Update.map, List.map_append]
  congr 1
  · simp [map_ofText hchange, hchange.text]
  · rw [apply_ite (List.map (List.map change)), List.map_singleton,
      map_ofText hchange, List.map_nil]
    rfl

end Clauses

namespace Record

include hchange

theorem withLines_map (record : Record Template) :
    record.withLines.map (List.map change) =
      (record.map (List.map change)).withLines := by
  simp only [withLines, Record.map]
  cases members record.withCollections with
  | nil => rfl
  | cons collection collections =>
      simp only
      cases withLine 0 (collection :: collections) with
      | ok names => simp [map_ofText hchange]
      | error fault => simp [hchange.typeFault]

theorem loopLines_map (record : Record Template) :
    record.loopLines.map (List.map change) =
      (record.map (List.map change)).loopLines := by
  have hpresent := Slot.isPresentSource_map (List.map change) record.source
  simp only [loopLines, Record.map, hpresent]
  cases record.source with
  | none => rfl
  | some source =>
      simp only [Option.map_some]
      split
      · rcases record.loopNames with _ | names <;>
          rcases record.loop with _ | loop
        · rfl
        · simp only
          split
          · simp [loopLine_map hchange]
          · rfl
        · simp [loopLine_map hchange]
        · simp [loopLine_map hchange]
      · rfl

theorem sortLines_map (record : Record Template) :
    record.sortLines.map (List.map change) =
      (record.map (List.map change)).sortLines := by
  simp only [sortLines, Record.map]
  cases members record.sorts with
  | nil => rfl
  | cons key keys => simp [map_ofText hchange]

theorem limitLines_map (record : Record Template) :
    record.limitLines.map (List.map change) =
      (record.map (List.map change)).limitLines := by
  simp only [limitLines, Record.map]
  cases record.limit <;> cases record.offset <;> simp [map_ofText hchange]

theorem resultLines_map (record : Record Template) :
    record.resultLines.map (List.map change) =
      (record.map (List.map change)).resultLines := by
  cases hresult : record.result with
  | none => simp [resultLines, Record.map, hresult]
  | some result => simp [resultLines, Record.map, hresult, hchange.text]

omit hchange in
theorem family_lines_map {F : Type} {lines : F → List Template} {map : F → F}
    (hlines : ∀ clause,
      (lines clause).map (List.map change) = lines (map clause))
    (family : Option (List F)) :
    ((members family).flatMap lines).map (List.map change) =
      (members (family.map (List.map map))).flatMap lines := by
  simp [members_map, List.map_flatMap, List.flatMap_map, hlines]

theorem groups_map (record : Record Template) :
    record.groups.map (List.map (List.map change)) =
      (record.map (List.map change)).groups := by
  have htraversals :
      ((members record.traversals).map Traversal.line).map (List.map change) =
        (members record.traversals).map Traversal.line := by
    simp [Traversal.line_map hchange, Function.comp_def]
  have hoperations :
      ((members record.operations).map Operation.line).map (List.map change) =
        (members (record.operations.map
          (List.map (Operation.map (List.map change))))).map
          Operation.line := by
    simp [members_map, Operation.line_map hchange, Function.comp_def]
  have hresult : (record.result.map (List.map change)).isSome =
      record.result.isSome := by simp
  simp only [groups, List.map_cons, List.map_nil, withLines_map hchange,
    loopLines_map hchange, letLines_map hchange, filterLines_map hchange,
    pruneLines_map hchange, sortLines_map hchange, limitLines_map hchange,
    resultLines_map hchange, htraversals, hoperations,
    family_lines_map (Join.lines_map hchange),
    family_lines_map (Search.lines_map hchange),
    family_lines_map (Collect.lines_map hchange),
    family_lines_map (Window.lines_map hchange),
    family_lines_map (Upsert.lines_map hchange),
    family_lines_map (Update.lines_map hchange record.result.isSome)]
  simp only [Record.map, hresult]

/-- The pieces of a record may be changed before or after its lines are
written. -/
theorem template_map (record : Record Template) :
    record.template.map change =
      (record.map (List.map change)).template := by
  rw [template, template, map_intercalate hchange, List.map_flatten,
    groups_map hchange]

end Record

end Changes

namespace Record

/-- What holds of every piece of the parts of a record, of every text and of
every type fault, holds of every piece of the record. -/
theorem template_forall {holds : Piece → Prop}
    (htext : ∀ content, holds (.text content))
    (hfault : ∀ fault, holds (.halt (.type fault)))
    {record : Record Template}
    (hparts : ∀ part ∈ record.parts, ∀ piece ∈ part, holds piece) :
    ∀ piece ∈ record.template, holds piece := by
  classical
  -- Replacing the pieces that fail the test changes no part, hence nothing.
  let change : Piece → Piece := fun piece =>
    if holds piece then piece else .text ""
  have hchange : KeepsText change :=
    { text := fun content => if_pos (htext content)
      typeFault := fun fault => if_pos (hfault fault) }
  have hsame : record.map (List.map change) = record.map id := by
    apply map_congr
    intro part hpart
    have hpieces : ∀ piece ∈ part, change piece = piece := fun piece hpiece =>
      if_pos (hparts part hpart piece hpiece)
    simpa using List.map_congr_left hpieces
  have hfixed : record.template.map change = record.template := by
    rw [template_map hchange, hsame, Record.map_id]
  intro piece hpiece
  rw [← hfixed] at hpiece
  obtain ⟨original, -, rfl⟩ := List.mem_map.1 hpiece
  by_cases horiginal : holds original
  · rwa [show change original = original from if_pos horiginal]
  · rw [show change original = .text "" from if_neg horiginal]
    exact htext ""

end Record

end ArangoQuery
