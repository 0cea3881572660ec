import ArangoQuery.Proofs.UnsetFields

/-!
# The lines of operations

Each operation is written in a line of its own, with its collection at the end.  The
collection is no more than a part of the text, so a query whose operations lack one
would compile with any other that is not empty.  That is the only fault that is left
in a query which is in order otherwise (`Query.IsOtherwiseValid`): it compiles
exactly if all operations have a collection (`Query.writesOperations_iff`).
-/

namespace ArangoQuery

open Record (members)
open Template (Fills FillsEach fills_append_iff fills_intercalate_iff
  fills_ofText_iff fills_text_iff ofText)

/-! ## Lines -/

namespace Template

variable {line : String} {store last : BindingStore String}

theorem fills_between_iff {front back : String} {part : Template} :
    Fills (.text front :: part ++ ofText back) store line last ↔
      ∃ document, Fills part store document last ∧
        line = front ++ document ++ back := by
  rw [List.cons_append, fills_text_iff]
  constructor
  · rintro ⟨rest, hrest, rfl⟩
    obtain ⟨document, text, next, hdocument, htext, rfl⟩ :=
      fills_append_iff.1 hrest
    obtain ⟨rfl, rfl⟩ := fills_ofText_iff.1 htext
    exact ⟨document, hdocument, (String.append_assoc ..).symm⟩
  · rintro ⟨document, hdocument, rfl⟩
    exact ⟨document ++ back, fills_append_iff.2 ⟨document, back, last, hdocument,
      fills_ofText_iff.2 ⟨rfl, rfl⟩, rfl⟩, String.append_assoc ..⟩

/-- A text alone, with nothing in it that could be filled. -/
theorem fills_ofText_iff_exists {content : String} :
    Fills (ofText content) store line last ↔
      ∃ document, Fills [] store document last ∧ line = content := by
  rw [fills_ofText_iff]
  constructor
  · rintro ⟨rfl, rfl⟩
    exact ⟨"", .nil _, rfl⟩
  · rintro ⟨document, ⟨⟩, rfl⟩
    exact ⟨rfl, rfl⟩

end Template

open Template (fills_between_iff fills_ofText_iff_exists)

namespace Operation

variable {ε : Type}

/-- What is written of the document. -/
def documentTemplate (operation : Operation Template) : Template :=
  match operation.kind, operation.document with
  | .insert, document => document.getD (ofText "\x7b\x7d")
  | .remove, _ | _, none => []
  | _, some document => document

/-- The line of an operation, with a text for its document. -/
def textLine (operation : Operation ε) (document : String) : String :=
  let collection := shown "None" Slot.displayText operation.collection
  let target := shown "None" id operation.target
  match operation.kind, operation.document with
  | .insert, _ => "INSERT " ++ document ++ (" INTO " ++ collection)
  | .remove, _ => "REMOVE " ++ target ++ " IN " ++ collection
  | .replace, none => "REPLACE " ++ target ++ " IN " ++ collection
  | .update, none => "UPDATE " ++ target ++ " IN " ++ collection
  | .replace, some _ =>
      "REPLACE " ++ target ++ " WITH " ++ document ++ (" IN " ++ collection)
  | .update, some _ =>
      "UPDATE " ++ target ++ " WITH " ++ document ++ (" IN " ++ collection)

theorem fills_line_iff {operation : Operation Template} {line : String}
    {store last : BindingStore String} :
    Fills operation.line store line last ↔
      ∃ document, Fills operation.documentTemplate store document last ∧
        line = operation.textLine document := by
  rw [← lineShowing_none]
  obtain ⟨kind, document, collection, target⟩ := operation
  cases kind with
  | insert => exact fills_between_iff
  | remove => exact fills_ofText_iff_exists
  | replace | update =>
      cases document with
      | none => exact fills_ofText_iff_exists
      | some document => exact fills_between_iff

theorem textLine_map {δ : Type} (f : ε → δ) (operation : Operation ε)
    (document : String) :
    (operation.map f).textLine document = operation.textLine document := by
  obtain ⟨kind, given, collection, target⟩ := operation
  cases kind <;> cases given <;> rfl

/-- A line in the text of a query is that of an operation. -/
def IsWritten (operation : Operation Expr) (line : String) : Prop :=
  ∃ document first last,
    Fills (operation.map Expr.template).documentTemplate first document last ∧
      line = operation.textLine document

end Operation

/-- Wherever one template can be filled, the other can be filled with the same
values, perhaps to another text. -/
def Template.IsRefilled (template other : Template) : Prop :=
  ∀ first text last, Fills template first text last →
    ∃ text, Fills other first text last

theorem Template.IsRefilled.refl (template : Template) :
    template.IsRefilled template :=
  fun _ text _ hfills => ⟨text, hfills⟩

theorem Template.FillsEach.exists_of_forall₂ {templates others : List Template}
    (hothers : List.Forall₂ Template.IsRefilled templates others)
    {first last : BindingStore String} {texts : List String}
    (hfills : FillsEach templates first texts last) :
    ∃ texts, FillsEach others first texts last := by
  induction hothers generalizing first texts with
  | nil => exact ⟨texts, hfills⟩
  | cons hother _ hrest =>
      cases hfills with
      | cons hfirst hfills =>
          obtain ⟨text, htext⟩ := hother _ _ _ hfirst
          obtain ⟨texts, htexts⟩ := hrest hfills
          exact ⟨text :: texts, .cons htext htexts⟩

/-- The collection of an operation is no more than a part of the text. -/
theorem Operation.isRefilled_line (operation : Operation Template)
    (collection : Option (Slot String)) :
    Template.IsRefilled
      (Operation.line { operation with collection }) operation.line := by
  intro first text last hfills
  obtain ⟨document, hdocument, -⟩ := fills_line_iff.1 hfills
  exact ⟨_, fills_line_iff.2 ⟨document, hdocument, rfl⟩⟩

namespace Query

variable {query : Query}

/-- All operations have a collection that is not empty. -/
def HasCollections (query : Query) : Prop :=
  ∀ operation ∈ members query.operations,
    Slot.isPresentText operation.collection = true

instance (query : Query) : Decidable query.HasCollections :=
  inferInstanceAs (Decidable (∀ operation ∈ members query.operations,
    Slot.isPresentText operation.collection = true))

/-- The query with one collection for all operations. -/
def operatingOn (query : Query) (collection : String) : Query :=
  { query with
    operations := query.operations.map (List.map fun operation =>
      { operation with collection := some (.proper collection) }) }

/-- A query proper that would compile if all operations had a collection. -/
structure IsOtherwiseValid (query : Query) : Prop where
  raw : query.raw = none
  compiles : ∃ collection compiled,
    (query.operatingOn collection).compile = .ok compiled

/-- The query compiles, and each operation is written in a line of its own, in
order. -/
def WritesOperations (query : Query) : Prop :=
  ∃ compiled linesOf, query.compile = .ok compiled ∧
    query.Writes compiled linesOf ∧
    List.Forall₂ Operation.IsWritten (members query.operations)
      (linesOf .operation)

/-- The only fault left is that an operation has no collection. -/
theorem faults_of_operatingOn {collection : String}
    (hfaults : (query.operatingOn collection).faults = []) :
    query.faults =
      if (members query.operations).all fun operation =>
          Slot.isPresentText operation.collection
        then [] else [.operationWithoutCollection] := by
  simp only [faults, List.append_eq_nil_iff] at hfaults
  obtain ⟨⟨⟨⟨⟨⟨hloop, hsource⟩, hsearch⟩, htraversal⟩, hmodification⟩, hcount⟩,
    hwindow⟩ := hfaults
  obtain ⟨-, hupdates⟩ := List.append_eq_nil_iff.1 hmodification
  have hparts : query.loopFaults = [] ∧ query.sourceFaults = [] ∧
      query.searchFaults = [] ∧ query.traversalFaults = [] ∧
      query.countFaults = [] ∧ query.windowFaults = [] :=
    ⟨hloop, hsource, hsearch, htraversal, hcount, hwindow⟩
  have hkept : (if (members query.updates).all fun update =>
      update.collection.getD "" != "" then []
      else [ConfigurationFault.updateWithoutCollection]) = [] := hupdates
  simp only [faults, modificationFaults, hparts, hkept, List.append_nil,
    List.nil_append]

theorem faults_eq_nil_iff_hasCollections {collection : String}
    (hfaults : (query.operatingOn collection).faults = []) :
    query.faults = [] ↔ query.HasCollections := by
  rw [faults_of_operatingOn hfaults]
  simp [HasCollections]

theorem isRefilled_lines (query : Query) (collection : String) :
    List.Forall₂ Template.IsRefilled
      (ClauseKind.all.flatMap (query.operatingOn collection).lineTemplates.linesOf)
      (ClauseKind.all.flatMap query.lineTemplates.linesOf) := by
  refine List.rel_flatMap (List.forall₂_same.2 fun kind _ => rfl) ?_
  rintro kind _ rfl
  cases kind with
  | operation =>
      simp only [lineTemplates, operatingOn, Record.linesOf, Record.map,
        Record.members_map, List.map_map, List.forall₂_map_left_iff,
        List.forall₂_map_right_iff]
      exact List.forall₂_same.2 fun operation _ =>
        Operation.isRefilled_line (operation.map Expr.template) _
  | _ => exact List.forall₂_same.2 fun template _ => .refl template

/-- A query with all collections is filled like one with the same collection
everywhere. -/
theorem exists_compile_of_operatingOn (hraw : query.raw = none)
    (hfaults : query.faults = []) {collection : String} {compiled : CompiledQuery}
    (hcompile : (query.operatingOn collection).compile = .ok compiled) :
    ∃ compiled, query.compile = .ok compiled := by
  have hproper : (query.operatingOn collection).raw = none := hraw
  obtain ⟨last, hfills, -⟩ := (compile_eq_ok_iff hproper).1 hcompile
  rw [template_of_sound hproper (faults_of_compile hproper hcompile),
    Record.template_eq, fills_intercalate_iff] at hfills
  obtain ⟨texts, htexts, -⟩ := hfills
  obtain ⟨texts, htexts⟩ :=
    htexts.exists_of_forall₂ (query.isRefilled_lines collection)
  refine ⟨⟨"\n".intercalate texts, last.values⟩,
    (compile_eq_ok_iff hraw).2 ⟨last, ?_, rfl⟩⟩
  rw [template_of_sound hraw hfaults, Record.template_eq, fills_intercalate_iff]
  exact ⟨texts, htexts, rfl⟩

theorem Writes.isWritten {compiled : CompiledQuery}
    {linesOf : ClauseKind → List String} (hwrites : query.Writes compiled linesOf) :
    List.Forall₂ Operation.IsWritten (members query.operations)
      (linesOf .operation) := by
  obtain ⟨last, hfilled, -⟩ := hwrites.filled
  obtain ⟨before, after, hlines⟩ := hfilled.of_family hwrites.length
    (show ClauseKind.operation ∈ ClauseKind.all by decide)
  simp only [lineTemplates, Record.linesOf, Record.map, Record.members_map,
    List.map_map] at hlines
  refine hlines.forall₂ fun operation _ first line last hfills => ?_
  obtain ⟨document, hdocument, hline⟩ := Operation.fills_line_iff.1 hfills
  exact ⟨document, first, last, hdocument,
    hline.trans (Operation.textLine_map ..)⟩

/-- A query that is in order otherwise compiles with one line for each operation
exactly if all operations have a collection, and else it is refused. -/
theorem writesOperations_iff (hvalid : query.IsOtherwiseValid) :
    (query.WritesOperations ↔ query.HasCollections) ∧
      (¬ query.HasCollections →
        query.compile = .error (.configuration .operationWithoutCollection)) := by
  obtain ⟨collection, compiled, hcompile⟩ := hvalid.compiles
  have hproper : (query.operatingOn collection).raw = none := hvalid.raw
  have hfaults := faults_of_compile hproper hcompile
  refine ⟨⟨?_, fun hcollections => ?_⟩, fun hmissing => ?_⟩
  · rintro ⟨compiled, linesOf, hcompiled, -⟩
    exact (faults_eq_nil_iff_hasCollections hfaults).1
      (faults_of_compile hvalid.raw hcompiled)
  · obtain ⟨compiled, hcompiled⟩ := exists_compile_of_operatingOn hvalid.raw
      ((faults_eq_nil_iff_hasCollections hfaults).2 hcollections) hcompile
    obtain ⟨linesOf, hwrites⟩ := exists_writes hvalid.raw hcompiled
    exact ⟨compiled, linesOf, hcompiled, hwrites, hwrites.isWritten⟩
  · have hfault : query.faults = [.operationWithoutCollection] := by
      rw [faults_of_operatingOn hfaults, if_neg]
      simpa [HasCollections] using hmissing
    rw [compile, hvalid.raw, hfault]

end Query

end ArangoQuery
