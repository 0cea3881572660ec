import ArangoQuery.Proofs.Filling

/-!
# The lines of a compiled query

The text of a compiled query is made of lines, and each line belongs to one kind
of clause.  Filling the template of the query fills the lines one after the other
(`Template.fills_intercalate_iff`), so the lines of every kind can be told apart
in the text, whatever the expressions in them look like
(`Query.exists_writes`).
-/

namespace ArangoQuery

open Record (members)

/-- The kinds of clauses, in the order in which they are written. -/
inductive ClauseKind where
  | collections
  | loop
  | nestedLoop
  | earlyLet
  | search
  | earlyFilter
  | grouping
  | traversal
  | prune
  | lateLet
  | lateFilter
  | order
  | window
  | page
  | operation
  | upsert
  | update
  | result
  deriving DecidableEq, Repr

def ClauseKind.all : List ClauseKind :=
  [.collections, .loop, .nestedLoop, .earlyLet, .search, .earlyFilter,
    .grouping, .traversal, .prune, .lateLet, .lateFilter, .order, .window,
    .page, .operation, .upsert, .update, .result]

namespace Record

/-- The lines of one kind of clause. -/
def linesOf (record : Record Template) : ClauseKind → List Template
  | .collections => record.withLines
  | .loop => record.loopLines
  | .nestedLoop => (members record.joins).flatMap Join.lines
  | .earlyLet => letLines record.letsBeforeCollect
  | .search => (members record.searches).flatMap Search.lines
  | .earlyFilter => filterLines record.filters
  | .grouping => (members record.collects).flatMap Collect.lines
  | .traversal => (members record.traversals).map Traversal.line
  | .prune => pruneLines record.prunes
  | .lateLet => letLines record.letsAfterCollect
  | .lateFilter => filterLines record.filtersAfterCollect
  | .order => record.sortLines
  | .window => (members record.windows).flatMap Window.lines
  | .page => record.limitLines
  | .operation => (members record.operations).map Operation.line
  | .upsert => (members record.upserts).flatMap Upsert.lines
  | .update =>
      (members record.updates).flatMap (Update.lines record.result.isSome)
  | .result => record.resultLines

theorem template_eq (record : Record Template) :
    record.template =
      Template.intercalate "\n" (ClauseKind.all.flatMap record.linesOf) := by
  rw [List.flatMap_def]
  rfl

end Record

namespace Template

variable {store last : BindingStore String}

/-! ## Filling part by part -/

theorem fills_append_iff {left right : Template} {text : String} :
    Fills (left ++ right) store text last ↔
      ∃ front back next, Fills left store front next ∧
        Fills right next back last ∧ text = front ++ back := by
  constructor
  · intro hfills
    induction left generalizing store text with
    | nil => exact ⟨"", text, store, .nil store, hfills, by simp⟩
    | cons piece left hleft =>
        rw [List.cons_append] at hfills
        cases hfills with
        | text content run =>
            obtain ⟨front, back, next, hfront, hback, rfl⟩ := hleft run
            exact ⟨content ++ front, back, next, .text content hfront, hback,
              (String.append_assoc ..).symm⟩
        | hole stem value run =>
            obtain ⟨front, back, next, hfront, hback, rfl⟩ := hleft run
            exact ⟨_, back, next, .hole stem value hfront, hback,
              (String.append_assoc ..).symm⟩
        | adopt merge run =>
            obtain ⟨front, back, next, hfront, hback, rfl⟩ := hleft run
            exact ⟨front, back, next, .adopt merge hfront, hback, rfl⟩
  · rintro ⟨front, back, next, hfront, hback, rfl⟩
    induction hfront with
    | nil store => simpa using hback
    | text content run hrun =>
        rw [String.append_assoc]
        exact .text content (hrun hback)
    | hole stem value run hrun =>
        rw [String.append_assoc]
        exact .hole stem value (hrun hback)
    | adopt merge run hrun => exact .adopt merge (hrun hback)

/-- Fills templates one after the other, each into a text of its own. -/
inductive FillsEach :
    List Template → BindingStore String → List String →
      BindingStore String → Prop
  | nil (store : BindingStore String) : FillsEach [] store [] store
  | cons {template : Template} {templates : List Template} {text : String}
      {texts : List String} {store next last : BindingStore String}
      (first : Fills template store text next)
      (rest : FillsEach templates next texts last) :
      FillsEach (template :: templates) store (text :: texts) last

theorem FillsEach.length_eq {templates : List Template} {texts : List String}
    (hfills : FillsEach templates store texts last) :
    texts.length = templates.length := by
  induction hfills with
  | nil store => rfl
  | cons first rest hrest => exact congrArg (· + 1) hrest

theorem fillsEach_append_iff {left right : List Template}
    {texts : List String} :
    FillsEach (left ++ right) store texts last ↔
      ∃ front back next, FillsEach left store front next ∧
        FillsEach right next back last ∧ texts = front ++ back := by
  constructor
  · intro hfills
    induction left generalizing store texts with
    | nil => exact ⟨[], texts, store, .nil store, hfills, rfl⟩
    | cons template left hleft =>
        cases hfills with
        | cons first rest =>
            obtain ⟨front, back, next, hfront, hback, rfl⟩ := hleft rest
            exact ⟨_ :: front, back, next, .cons first hfront, hback, rfl⟩
  · rintro ⟨front, back, next, hfront, hback, rfl⟩
    induction hfront with
    | nil store => exact hback
    | cons first rest hrest => exact .cons first (hrest hback)

/-- Templates between separators are filled one after the other. -/
theorem fills_intercalate_iff {separator : String} {templates : List Template}
    {text : String} :
    Fills (intercalate separator templates) store text last ↔
      ∃ texts, FillsEach templates store texts last ∧
        text = separator.intercalate texts := by
  induction templates generalizing store text with
  | nil =>
      constructor
      · rintro ⟨⟩
        exact ⟨[], .nil _, by simp⟩
      · rintro ⟨_, ⟨⟩, rfl⟩
        rw [String.intercalate_nil]
        exact .nil _
  | cons template templates htemplates =>
      cases templates with
      | nil =>
          constructor
          · intro hfills
            exact ⟨[text], .cons hfills (.nil _), by simp⟩
          · rintro ⟨_, _ | ⟨first, rest⟩, rfl⟩
            cases rest
            rw [String.intercalate_singleton]
            exact first
      | cons second templates =>
          rw [intercalate.eq_3 _ _ _ (by simp), fills_append_iff]
          constructor
          · rintro ⟨front, back, next, hfront, hback, rfl⟩
            cases hback with
            | text _ run =>
                obtain ⟨texts, htexts, rfl⟩ := htemplates.1 run
                refine ⟨front :: texts, .cons hfront htexts, ?_⟩
                cases htexts with
                | cons _ _ =>
                    rw [String.intercalate_cons_cons, String.append_assoc]
          · rintro ⟨_, _ | ⟨first, rest⟩, rfl⟩
            refine ⟨_, _, _, first, .text separator (htemplates.2 ⟨_, rest, rfl⟩),
              ?_⟩
            cases rest with
            | cons _ _ =>
                rw [String.intercalate_cons_cons, String.append_assoc]

/-- The texts that families of templates are filled to, family by family. -/
theorem FillsEach.exists_families {κ : Type} [DecidableEq κ] {kinds : List κ}
    (hnodup : kinds.Nodup) {linesOf : κ → List Template} {texts : List String}
    (hfills : FillsEach (kinds.flatMap linesOf) store texts last) :
    ∃ textsOf : κ → List String, kinds.flatMap textsOf = texts ∧
      ∀ kind ∈ kinds, (textsOf kind).length = (linesOf kind).length := by
  induction kinds generalizing store texts with
  | nil =>
      cases hfills
      exact ⟨fun _ => [], rfl, by simp⟩
  | cons kind kinds hkinds =>
      rw [List.nodup_cons] at hnodup
      rw [List.flatMap_cons, fillsEach_append_iff] at hfills
      obtain ⟨front, back, next, hfront, hback, rfl⟩ := hfills
      obtain ⟨textsOf, htexts, hlengths⟩ := hkinds hnodup.2 hback
      have hothers : ∀ other ∈ kinds,
          Function.update textsOf kind front other = textsOf other := by
        intro other hother
        exact Function.update_of_ne (ne_of_mem_of_not_mem hother hnodup.1) ..
      refine ⟨Function.update textsOf kind front, ?_, ?_⟩
      · rw [List.flatMap_cons, Function.update_self,
          List.flatMap_congr hothers, htexts]
      · rintro other (_ | ⟨_, hother⟩)
        · rw [Function.update_self, hfront.length_eq]
        · rw [hothers other hother, hlengths other hother]

end Template

open Template (FillsEach fills_intercalate_iff)

/-! ## Compiled queries -/

/-- The text of a compiled query is made of these lines of every kind, each with
the values of its own bound on the way. -/
structure Query.Writes (query : Query) (compiled : CompiledQuery)
    (linesOf : ClauseKind → List String) : Prop where
  text : compiled.text = "\n".intercalate (ClauseKind.all.flatMap linesOf)
  filled : ∃ last,
    FillsEach (ClauseKind.all.flatMap query.lineTemplates.linesOf) {}
        (ClauseKind.all.flatMap linesOf) last ∧
      compiled.bindings = last.values
  length : ∀ kind : ClauseKind,
    (linesOf kind).length = (query.lineTemplates.linesOf kind).length

namespace Query

variable {query : Query} {compiled : CompiledQuery}

/-- A query proper that compiles has no faults. -/
theorem faults_of_compile (hraw : query.raw = none)
    (hcompile : query.compile = .ok compiled) : query.faults = [] := by
  rw [compile, hraw] at hcompile
  cases hfaults : query.faults with
  | nil => rfl
  | cons fault rest => rw [hfaults] at hcompile; cases hcompile

theorem compile_of_fault (hraw : query.raw = none)
    (hfaults : query.faults ≠ []) :
    ∃ fault, query.compile = .error (.configuration fault) := by
  rw [compile, hraw]
  cases hquery : query.faults with
  | nil => exact absurd hquery hfaults
  | cons fault rest => exact ⟨fault, rfl⟩

theorem exists_writes (hraw : query.raw = none)
    (hcompile : query.compile = .ok compiled) :
    ∃ linesOf, query.Writes compiled linesOf := by
  obtain ⟨last, hfills, hbindings⟩ := (compile_eq_ok_iff hraw).1 hcompile
  rw [template_of_sound hraw (faults_of_compile hraw hcompile),
    Record.template_eq, fills_intercalate_iff] at hfills
  obtain ⟨texts, htexts, htext⟩ := hfills
  have hkinds : ClauseKind.all.Nodup := by decide
  obtain ⟨linesOf, rfl, hlengths⟩ := htexts.exists_families hkinds
  refine ⟨linesOf, htext, ⟨last, htexts, hbindings⟩, fun kind => ?_⟩
  exact hlengths kind (by cases kind <;> decide)

end Query

end ArangoQuery
