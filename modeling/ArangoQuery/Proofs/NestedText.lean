import ArangoQuery.Proofs.Compilability
import ArangoQuery.Proofs.LineWords

/-!
# Nested queries in the text

Every part of a clause that is written stands in one of the clause's lines as it
is, between texts of the clause (`Record.covers_renderedParts`).  So the template
of a nested query is a segment of the template of the query around it, and its
lines stand together in the text of the compiled query, at whatever depth
(`Query.exists_standsIn`).
-/

namespace ArangoQuery

open Record (members)
open Template (Fills FillsEach enclose fills_append_iff fillsEach_append_iff
  fills_intercalate_iff intercalate)

namespace Template

variable {part inner : Template}

/-! ## Segments of templates -/

theorem infix_enclose (opening closing : String) (hpart : part <:+: inner) :
    part <:+: enclose opening inner closing :=
  hpart.trans ((List.prefix_append inner _).isInfix.trans
    (List.suffix_cons (Piece.text opening) _).isInfix)

theorem infix_intercalate (separator : String) {templates : List Template}
    (hpart : part ∈ templates) : part <:+: intercalate separator templates := by
  induction templates with
  | nil => cases hpart
  | cons template rest hrest =>
      cases rest with
      | nil => rw [List.mem_singleton.1 hpart]; exact List.infix_rfl
      | cons next rest =>
          rw [intercalate.eq_3 _ _ _ (by simp)]
          obtain rfl | hpart := List.mem_cons.1 hpart
          · exact (List.prefix_append ..).isInfix
          · exact (hrest hpart).trans
              ((List.suffix_cons _ _).trans (List.suffix_append _ _)).isInfix

/-- Every part stands in one of the lines. -/
def Covers (lines parts : List Template) : Prop :=
  ∀ part ∈ parts, ∃ line ∈ lines, part <:+: line

variable {lines left right : List Template}

theorem covers_nil : Covers lines [] := fun _ hpart => nomatch hpart

theorem Covers.mono {more : List Template} (hcovers : Covers lines left)
    (hsubset : lines ⊆ more) : Covers more left := by
  intro part hpart
  obtain ⟨line, hline, hinfix⟩ := hcovers part hpart
  exact ⟨line, hsubset hline, hinfix⟩

theorem Covers.append (hleft : Covers lines left)
    (hright : Covers lines right) : Covers lines (left ++ right) := by
  intro part hpart
  obtain hpart | hpart := List.mem_append.1 hpart
  · exact hleft part hpart
  · exact hright part hpart

theorem covers_flatten {families : List (List Template)}
    (hfamilies : ∀ parts ∈ families, Covers lines parts) :
    Covers lines families.flatten := by
  intro part hpart
  obtain ⟨parts, hparts, hpart⟩ := List.mem_flatten.1 hpart
  exact hfamilies parts hparts part hpart

theorem covers_singleton {line : Template}
    (hparts : ∀ part ∈ left, part <:+: line) : Covers [line] left :=
  fun part hpart => ⟨line, List.mem_singleton_self line, hparts part hpart⟩

theorem covers_flatMap {F : Type} {clauses : List F}
    {linesOf partsOf : F → List Template}
    (hclauses : ∀ clause ∈ clauses, Covers (linesOf clause) (partsOf clause)) :
    Covers (clauses.flatMap linesOf) (clauses.flatMap partsOf) := by
  intro part hpart
  obtain ⟨clause, hclause, hpart⟩ := List.mem_flatMap.1 hpart
  obtain ⟨line, hline, hinfix⟩ := hclauses clause hclause part hpart
  exact ⟨line, List.mem_flatMap.2 ⟨clause, hclause, hline⟩, hinfix⟩

theorem covers_map {F : Type} {clauses : List F} {lineOf : F → Template}
    {partsOf : F → List Template}
    (hclauses : ∀ clause ∈ clauses, ∀ part ∈ partsOf clause,
      part <:+: lineOf clause) :
    Covers (clauses.map lineOf) (clauses.flatMap partsOf) := by
  intro part hpart
  obtain ⟨clause, hclause, hpart⟩ := List.mem_flatMap.1 hpart
  exact ⟨lineOf clause, List.mem_map_of_mem hclause,
    hclauses clause hclause part hpart⟩

end Template

open Template (Covers covers_flatMap covers_map covers_nil covers_singleton
  infix_enclose infix_intercalate)

/-! ## Parts of clauses -/

section Clauses

variable {part : Template}

theorem infix_cons (piece : Piece) : part <:+: piece :: part :=
  (List.suffix_cons piece part).isInfix

theorem Document.infix_template {document : Document Template}
    (hpart : part ∈ Document.parts document) :
    part <:+: Document.template document := by
  obtain ⟨member, hmember, rfl⟩ := List.mem_map.1 hpart
  apply infix_enclose
  exact (infix_cons _).trans
    (infix_intercalate ", " (List.mem_map_of_mem hmember))

theorem infix_optionsTemplate {options : Option (Document Template)}
    (hpart : part ∈ Document.parts (members options)) :
    part <:+: optionsTemplate options := by
  cases options with
  | none => cases hpart
  | some options =>
      exact (Document.infix_template hpart).trans (infix_cons _)

theorem Slot.infix_sourceTemplate {source : Slot (Source Template)}
    (hpart : part ∈ Slot.parts (some source)) :
    part <:+: source.sourceTemplate := by
  rcases source with ⟨_ | _ | traversal⟩ | content
  · cases hpart
  · cases hpart
  · exact (infix_optionsTemplate hpart).trans (infix_cons _)
  · cases hpart

theorem covers_loopLine (loop : String) (source : Slot (Source Template)) :
    Covers [loopLine loop source] (Slot.parts (some source)) :=
  covers_singleton fun _ hpart =>
    (Slot.infix_sourceTemplate hpart).trans (infix_cons _)

theorem Join.covers_lines (join : Join Template) :
    Covers join.lines join.parts := by
  obtain ⟨loop, source⟩ := join
  cases source with
  | none => exact covers_nil
  | some source =>
      cases hpresent : Slot.isPresentSource (some source) with
      | true =>
          simp only [Join.lines, hpresent, if_true]
          exact covers_loopLine loop source
      | false =>
          rw [Join.parts, Slot.parts_of_absent hpresent]
          exact covers_nil

theorem covers_letLines (lets : Option (Document Template)) :
    Covers (letLines lets) (Document.parts (members lets)) := by
  intro part hpart
  obtain ⟨member, hmember, rfl⟩ := List.mem_map.1 hpart
  exact ⟨_, List.mem_map_of_mem hmember, infix_cons _⟩

/-- The lines of a keyword and a condition each. -/
theorem covers_conditions (keyword : String) (conditions : List Template) :
    Covers (conditions.map (Piece.text keyword :: ·)) conditions :=
  fun _ hpart => ⟨_, List.mem_map_of_mem hpart, infix_cons _⟩

theorem Search.covers_lines (search : Search Template) :
    Covers search.lines search.renderedParts := by
  rw [Search.lines, Search.renderedParts]
  split
  · exact covers_nil
  · refine covers_singleton fun part hpart => ?_
    refine List.IsInfix.trans ?_ (infix_cons _)
    obtain hpart | hpart := List.mem_append.1 hpart
    · exact (infix_intercalate " AND " hpart).trans
        (List.prefix_append ..).isInfix
    · exact (infix_optionsTemplate hpart).trans
        (List.suffix_append ..).isInfix

theorem infix_assignments {document : Document Template}
    (hpart : part ∈ Document.parts document) :
    part <:+: assignments document := by
  obtain ⟨member, hmember, rfl⟩ := List.mem_map.1 hpart
  exact (infix_cons _).trans
    (infix_intercalate ", " (List.mem_map_of_mem hmember))

theorem Collect.covers_lines (collect : Collect Template) :
    Covers collect.lines collect.parts := by
  obtain ⟨keys, into, aggregates, keep⟩ := collect
  rw [Collect.parts, Collect.lines]
  apply Covers.append
  · intro part hpart
    cases keys with
    | nil => cases hpart
    | cons key keys =>
        exact ⟨_, List.mem_append_left _ List.mem_cons_self,
          (infix_assignments hpart).trans (infix_cons _)⟩
  · intro part hpart
    cases aggregates with
    | nil => cases hpart
    | cons aggregate aggregates =>
        exact ⟨_, List.mem_append_left _
            (List.mem_append_right _ List.mem_cons_self),
          (infix_assignments hpart).trans (infix_cons _)⟩

theorem Window.covers_lines (window : Window Template) :
    Covers window.lines window.parts := by
  intro part hpart
  rw [List.mem_singleton.1 hpart]
  exact ⟨_, List.mem_cons_of_mem _ (List.mem_singleton_self _), infix_cons _⟩

theorem Operation.infix_line {operation : Operation Template}
    (hpart : part ∈ operation.renderedParts) : part <:+: operation.line := by
  obtain ⟨kind, document, collection, target⟩ := operation
  have hwritten (before after : String) :
      part <:+: Piece.text before :: part ++ Template.ofText after :=
    infix_enclose before after List.infix_rfl
  cases document with
  | none => cases kind <;> cases hpart
  | some document =>
      cases kind with
      | remove => cases hpart
      | _ =>
          obtain rfl : part = document := List.mem_singleton.1 hpart
          exact hwritten _ _

theorem Upsert.covers_lines (upsert : Upsert Template) :
    Covers upsert.lines upsert.parts := by
  intro part hpart
  rw [Upsert.parts] at hpart
  rw [Upsert.lines]
  simp only [List.mem_cons, List.not_mem_nil, or_false] at hpart
  obtain rfl | rfl | rfl := hpart
  · exact ⟨_, List.mem_cons_self, infix_cons _⟩
  · exact ⟨_, List.mem_cons_of_mem _ List.mem_cons_self, infix_cons _⟩
  · exact ⟨_, List.mem_cons_of_mem _ (List.mem_cons_of_mem _
      List.mem_cons_self), infix_cons _⟩

theorem Update.covers_lines (hasResult : Bool) (update : Update Template) :
    Covers (update.lines hasResult) update.parts := by
  intro part hpart
  rw [Update.parts] at hpart
  rw [Update.lines]
  simp only [List.mem_cons, List.not_mem_nil, or_false] at hpart
  obtain rfl | rfl := hpart
  · exact ⟨_, List.mem_append_left _ List.mem_cons_self, infix_cons _⟩
  · exact ⟨_, List.mem_append_left _ (List.mem_cons_of_mem _
      List.mem_cons_self), infix_cons _⟩

end Clauses

namespace Record

theorem covers_loopLines (record : Record Template) :
    Covers record.loopLines record.loopParts := by
  simp only [loopParts, loopLines]
  cases hsource : record.source with
  | none =>
      have hnone : Slot.parts (none : Option (Slot (Source Template))) = [] :=
        rfl
      rw [hnone, ite_self]
      exact covers_nil
  | some source =>
      cases hpresent : Slot.isPresentSource (some source) with
      | false =>
          rw [Slot.parts_of_absent hpresent, ite_self]
          exact covers_nil
      | true =>
          rcases record.loopNames with _ | names <;>
            rcases record.loop with _ | loop
          · exact covers_nil
          · cases hloop : Slot.isPresentText (some loop) with
            | false => exact covers_nil
            | true =>
                simp only [hloop, if_true]
                exact covers_loopLine _ source
          · exact covers_loopLine _ source
          · exact covers_loopLine _ source

theorem covers_resultLines (record : Record Template) :
    Covers record.resultLines record.result.toList := by
  rw [resultLines]
  cases record.result with
  | none => exact covers_nil
  | some result =>
      exact covers_singleton fun part hpart =>
        List.mem_singleton.1 hpart ▸ infix_cons _

/-- Every part that is written stands in a line of the record. -/
theorem covers_renderedParts (record : Record Template) :
    Covers (ClauseKind.all.flatMap record.linesOf) record.renderedParts := by
  have hkind {parts : List Template} (kind : ClauseKind)
      (hcovers : Covers (record.linesOf kind) parts) :
      Covers (ClauseKind.all.flatMap record.linesOf) parts :=
    hcovers.mono fun line hline =>
      List.mem_flatMap.2 ⟨kind, by cases kind <;> decide, hline⟩
  apply Template.covers_flatten
  simp only [List.forall_mem_cons, List.not_mem_nil, false_imp_iff,
    implies_true, and_true]
  exact ⟨hkind .loop record.covers_loopLines,
    hkind .nestedLoop (covers_flatMap fun join _ => join.covers_lines),
    hkind .earlyLet (covers_letLines _),
    hkind .search (covers_flatMap fun search _ => search.covers_lines),
    hkind .earlyFilter (covers_conditions _ _),
    hkind .grouping (covers_flatMap fun collect _ => collect.covers_lines),
    hkind .prune (covers_conditions _ _),
    hkind .lateLet (covers_letLines _),
    hkind .lateFilter (covers_conditions _ _),
    hkind .window (covers_flatMap fun window _ => window.covers_lines),
    hkind .operation (covers_map fun _ _ _ hpart =>
      Operation.infix_line hpart),
    hkind .upsert (covers_flatMap fun upsert _ => upsert.covers_lines),
    hkind .update (covers_flatMap fun update _ => update.covers_lines _),
    hkind .result record.covers_resultLines⟩

theorem infix_template {record : Record Template} {part : Template}
    (hpart : part ∈ record.renderedParts) : part <:+: record.template := by
  obtain ⟨line, hline, hinfix⟩ := record.covers_renderedParts part hpart
  rw [template_eq]
  exact hinfix.trans (infix_intercalate "\n" hline)

end Record

/-! ## Parts of nodes -/

/-- A part stands in the template of its node, unless it is a list to be searched,
which is bound in its own way there. -/
theorem Node.infix_template {node : Node (Expr × Template)}
    (hnode : ∀ query, node ≠ .subquery query) {part : Expr × Template}
    (hpart : part ∈ node.parts) (hliteral : ∀ value, part.1 ≠ .literal value) :
    part.2 <:+: node.template := by
  have hmap {parts : List (Expr × Template)} (hpart : part ∈ parts) :
      part.2 ∈ parts.map Prod.snd := List.mem_map_of_mem hpart
  cases node with
  | binary operator left right =>
      apply infix_enclose
      obtain rfl | hpart := List.mem_cons.1 hpart
      · exact (List.prefix_append ..).isInfix
      · obtain rfl := List.mem_singleton.1 hpart
        have hright : rightTemplate operator part = part.2 := by
          unfold rightTemplate
          split
          · rename_i items _ hitems
            exact absurd hitems (hliteral _)
          · rfl
        rw [hright]
        exact ((List.suffix_cons _ _).trans (List.suffix_append ..)).isInfix
  | unary operator operand =>
      rw [List.mem_singleton.1 hpart]
      exact infix_cons _
  | call function arguments =>
      exact infix_enclose _ _ (infix_intercalate ", " (hmap hpart))
  | ternary condition thenValue elseValue =>
      apply infix_enclose
      simp only [Node.parts, List.mem_cons, List.not_mem_nil, or_false] at hpart
      obtain rfl | rfl | rfl := hpart
      · exact ((List.prefix_append ..).trans (List.prefix_append ..)).isInfix
      · exact (infix_cons _).trans ((List.suffix_append ..).isInfix.trans
          (List.prefix_append ..).isInfix)
      · exact (infix_cons _).trans (List.suffix_append ..).isInfix
  | like subject pattern ignoreCase =>
      rw [List.mem_singleton.1 hpart, Node.template]
      split <;> exact infix_enclose _ _ (List.prefix_append ..).isInfix
  | regex subject pattern flags =>
      rw [List.mem_singleton.1 hpart]
      exact infix_enclose _ _ (List.prefix_append ..).isInfix
  | quantified quantifier subject condition =>
      apply infix_enclose
      simp only [Node.parts, List.mem_cons, List.not_mem_nil, or_false] at hpart
      obtain rfl | rfl := hpart
      · exact (List.prefix_append ..).isInfix
      · exact ((List.suffix_cons _ _).trans (List.suffix_append ..)).isInfix
  | unset document fields =>
      rw [List.mem_singleton.1 hpart]
      exact infix_enclose _ _ (infix_intercalate ", " List.mem_cons_self)
  | object document =>
      apply Document.infix_template
      rw [Document.parts_map]
      exact hmap hpart
  | array items =>
      exact infix_enclose _ _ (infix_intercalate ", " (hmap hpart))
  | subquery query => exact absurd rfl (hnode query)
  | literal | reference | parameter | old | stray => cases hpart

/-! ## Nested queries -/

theorem Query.infix_template {query : Query} (hraw : query.raw = none)
    (hsound : query.faults = []) {part : Expr}
    (hpart : part ∈ query.renderedParts) : part.template <:+: query.template := by
  rw [template_of_sound hraw hsound]
  apply Record.infix_template
  rw [lineTemplates, Record.renderedParts_map]
  exact List.mem_map_of_mem hpart

namespace Expr

theorem infix_template {node : Node Expr} {part : Expr}
    (hnode : ∀ query, node ≠ .subquery query) (hpart : part ∈ node.parts)
    (hliteral : ∀ value, part ≠ .literal value) :
    part.template <:+: (Expr.of node).template := by
  have htemplate : (Expr.of node).template =
      (node.map (withFold Node.template)).template := by
    rw [template, fold_of]
  rw [htemplate]
  have hmapped : withFold Node.template part ∈
      (node.map (withFold Node.template)).parts := by
    rw [Node.parts_map]
    exact List.mem_map_of_mem hpart
  refine Node.infix_template (fun query hquery => ?_) hmapped hliteral
  cases node with
  | subquery query => exact hnode query rfl
  | _ => cases hquery

/-- Where no nested query has a fault, the template of each of them is a segment
of the whole. -/
theorem infix_of_mem_renderedQueries {expr : Expr} (htyped : expr.isTyped = true)
    (hfaults : ∀ query ∈ expr.renderedQueries, query.faults = [])
    {nested : Query} (hnested : nested ∈ expr.renderedQueries) :
    nested.template <:+: expr.template := by
  revert hfaults hnested
  refine typed_induction ?raw ?rendered ?other expr htyped
  case raw =>
    intro query text hraw hfaults hnested
    rw [renderedQueries_raw hraw] at hnested
    cases hnested
  case rendered =>
    intro query hraw hproper hparts hfaults hnested
    rw [renderedQueries_subquery hraw] at hfaults hnested
    obtain ⟨hsound, hfaults⟩ := List.forall_mem_cons.1 hfaults
    have hquery : query.template <:+: (Expr.subquery query).template := by
      rw [template_subquery]
      exact infix_enclose _ _ List.infix_rfl
    obtain rfl | hnested := List.mem_cons.1 hnested
    · exact hquery
    · obtain ⟨part, hpart, hnested⟩ := List.mem_flatMap.1 hnested
      have hbelow := hparts part hpart (fun other hother =>
        hfaults other (List.mem_flatMap.2 ⟨part, hpart, hother⟩)) hnested
      exact (hbelow.trans (query.infix_template hraw hsound hpart)).trans hquery
  case other =>
    intro node hnode hproper hparts hfaults hnested
    rw [renderedQueries_of hnode] at hfaults hnested
    obtain ⟨part, hpart, hnested⟩ := List.mem_flatMap.1 hnested
    have hbelow := hparts part hpart (fun other hother =>
      hfaults other (List.mem_flatMap.2 ⟨part, hpart, hother⟩)) hnested
    refine hbelow.trans (infix_template hnode hpart ?_)
    rintro value rfl
    cases hnested

end Expr

namespace Template

theorem any_isHalt_of_infix {whole part : Template} (hpart : part <:+: whole)
    (hhalts : whole.any Piece.isHalt = false) :
    part.any Piece.isHalt = false := by
  rw [List.any_eq_false] at hhalts ⊢
  exact fun piece hpiece => hhalts piece (hpart.subset hpiece)

end Template

/-- A query proper without faults, the template of which is a segment of a
whole. -/
structure Query.IsPartOf (nested : Query) (whole : Template) : Prop where
  raw : nested.raw = none
  sound : nested.faults = []
  segment : nested.template <:+: whole

theorem Query.IsPartOf.trans {nested : Query} {inner whole : Template}
    (hpart : nested.IsPartOf inner) (hinner : inner <:+: whole) :
    nested.IsPartOf whole :=
  ⟨hpart.raw, hpart.sound, hpart.segment.trans hinner⟩

/-- If nothing halts a query, it has no faults, and what is a part of its parts is
a part of it. -/
theorem Query.isPartOf_of_parts {query nested : Query} (hraw : query.raw = none)
    (hhalts : query.template.any Piece.isHalt = false)
    (hparts : ∀ part ∈ query.renderedParts,
      part.template.any Piece.isHalt = false →
      nested ∈ part.renderedQueries → nested.IsPartOf part.template)
    (hnested : nested ∈ query.renderedQueries) :
    nested.IsPartOf query.template := by
  have hsound : query.faults = [] := by
    cases hfaults : query.faults with
    | nil => rfl
    | cons fault rest =>
        rw [template_of_fault hraw hfaults] at hhalts
        cases hhalts
  rw [renderedQueries, Expr.renderedQueries_subquery hraw] at hnested
  obtain rfl | hnested := List.mem_cons.1 hnested
  · exact ⟨hraw, hsound, List.infix_rfl⟩
  · obtain ⟨part, hpart, hnested⟩ := List.mem_flatMap.1 hnested
    have hsegment := query.infix_template hraw hsound hpart
    exact (hparts part hpart (Template.any_isHalt_of_infix hsegment hhalts)
      hnested).trans hsegment

/-- If nothing halts an expression, all queries inside are parts of it. -/
theorem Expr.isPartOf_of_mem_renderedQueries {expr : Expr}
    (hhalts : expr.template.any Piece.isHalt = false) {nested : Query}
    (hnested : nested ∈ expr.renderedQueries) :
    nested.IsPartOf expr.template := by
  revert hhalts hnested
  induction expr using Expr.induction with
  | step node hparts =>
      intro hhalts hnested
      by_cases hnode : ∃ query : Query, node = .subquery query
      · obtain ⟨query, rfl⟩ := hnode
        cases hraw : query.raw with
        | some text =>
            rw [renderedQueries_raw hraw] at hnested
            cases hnested
        | none =>
            have hquery : query.template <:+: (Expr.subquery query).template := by
              rw [template_subquery]
              exact infix_enclose _ _ List.infix_rfl
            refine (query.isPartOf_of_parts hraw
              (Template.any_isHalt_of_infix hquery hhalts) ?_ hnested).trans hquery
            exact fun part hpart =>
              hparts part (query.renderedParts_subset hpart)
      · rw [renderedQueries_of (not_exists.1 hnode)] at hnested
        obtain ⟨part, hpart, hnested⟩ := List.mem_flatMap.1 hnested
        have hsegment : part.template <:+: (Expr.of node).template := by
          refine infix_template (not_exists.1 hnode) hpart ?_
          rintro value rfl
          cases hnested
        exact (hparts part hpart (Template.any_isHalt_of_infix hsegment hhalts)
          hnested).trans hsegment

/-- The lines of a query as they stand together in a text, each with the names of
its own bindings. -/
structure Query.StandsIn (query : Query) (text : String)
    (linesOf : ClauseKind → List String) : Prop where
  segment : ∃ before after,
    text = before ++ "\n".intercalate (ClauseKind.all.flatMap linesOf) ++ after
  filled : ∃ first last,
    FillsEach (ClauseKind.all.flatMap query.lineTemplates.linesOf) first
      (ClauseKind.all.flatMap linesOf) last
  length : ∀ kind : ClauseKind,
    (linesOf kind).length = (query.lineTemplates.linesOf kind).length

/-- A segment of a template is filled to a segment of the text. -/
theorem Template.Fills.exists_of_infix {whole part : Template} {text : String}
    {store last : BindingStore String} (hfills : Fills whole store text last)
    (hpart : part <:+: whole) :
    ∃ before middle after first next, Fills part first middle next ∧
      text = before ++ middle ++ after := by
  obtain ⟨front, back, rfl⟩ := hpart
  obtain ⟨opening, after, next, hopening, -, rfl⟩ := fills_append_iff.1 hfills
  obtain ⟨before, middle, first, -, hmiddle, rfl⟩ := fills_append_iff.1 hopening
  exact ⟨before, middle, after, first, next, hmiddle, rfl⟩

theorem Template.Fills.not_halts {template : Template} {text : String}
    {store last : BindingStore String}
    (hfills : Fills template store text last) :
    template.any Piece.isHalt = false := by
  have hreached := List.takeWhile_eq_self_iff.1 hfills.reached_eq
  rw [List.any_eq_false]
  intro piece hpiece hhalt
  simpa [hhalt] using hreached piece hpiece

theorem Expr.raw_of_mem_renderedQueries {expr : Expr}
    (htyped : expr.isTyped = true) {nested : Query}
    (hnested : nested ∈ expr.renderedQueries) : nested.raw = none := by
  revert hnested
  refine typed_induction ?raw ?rendered ?other expr htyped
  case raw =>
    intro query text hraw hnested
    rw [renderedQueries_raw hraw] at hnested
    cases hnested
  case rendered =>
    intro query hraw hproper hparts hnested
    rw [renderedQueries_subquery hraw] at hnested
    obtain rfl | hnested := List.mem_cons.1 hnested
    · exact hraw
    · obtain ⟨part, hpart, hnested⟩ := List.mem_flatMap.1 hnested
      exact hparts part hpart hnested
  case other =>
    intro node hnode hproper hparts hnested
    rw [renderedQueries_of hnode] at hnested
    obtain ⟨part, hpart, hnested⟩ := List.mem_flatMap.1 hnested
    exact hparts part hpart hnested

namespace Query

variable {query nested : Query} {compiled : CompiledQuery}

/-- All queries that a compiled query comes to are compilable, also next to raw
subqueries. -/
theorem isCompilable_of_compile (hraw : query.raw = none)
    (htyped : query.isTyped = true) (hcompile : query.compile = .ok compiled) :
    ∀ rendered ∈ query.renderedQueries, rendered.IsCompilable := by
  obtain ⟨last, hfills, -⟩ := (compile_eq_ok_iff hraw).1 hcompile
  have hhalts := hfills.not_halts
  by_contra hfaulty
  rw [(any_isHalt_template_iff htyped).2 hfaulty] at hhalts
  cases hhalts

theorem IsPartOf.exists_standsIn {whole : Template} {text : String}
    {store last : BindingStore String} (hpart : nested.IsPartOf whole)
    (hfills : Fills whole store text last) :
    ∃ linesOf, nested.StandsIn text linesOf := by
  obtain ⟨before, middle, after, first, next, hmiddle, htext⟩ :=
    hfills.exists_of_infix hpart.segment
  rw [template_of_sound hpart.raw hpart.sound, Record.template_eq,
    fills_intercalate_iff] at hmiddle
  obtain ⟨texts, htexts, rfl⟩ := hmiddle
  have hkinds : ClauseKind.all.Nodup := by decide
  obtain ⟨linesOf, rfl, hlengths⟩ := htexts.exists_families hkinds
  exact ⟨linesOf, ⟨before, after, htext⟩, ⟨first, next, htexts⟩,
    fun kind => hlengths kind (by cases kind <;> decide)⟩

/-- The lines of every query that is rendered stand together in the text. -/
theorem exists_standsIn (hraw : query.raw = none)
    (htyped : query.isTyped = true) (hcompile : query.compile = .ok compiled)
    (hnested : nested ∈ query.renderedQueries) :
    ∃ linesOf, nested.StandsIn compiled.text linesOf := by
  have hfaults : ∀ rendered ∈ query.renderedQueries, rendered.faults = [] :=
    fun rendered hrendered =>
      (faults_eq_nil_iff (Expr.isProper_of_renderedQueries _ htyped rendered
        hrendered)).2 (isCompilable_of_compile hraw htyped hcompile rendered
          hrendered)
  have hsegment : nested.template <:+: query.template := by
    rw [renderedQueries, Expr.renderedQueries_subquery hraw] at hnested hfaults
    obtain ⟨hsound, hfaults⟩ := List.forall_mem_cons.1 hfaults
    obtain rfl | hnested := List.mem_cons.1 hnested
    · exact List.infix_rfl
    · obtain ⟨part, hpart, hnested⟩ := List.mem_flatMap.1 hnested
      have hparts : part.isTyped = true := by
        rw [isTyped, Expr.isTyped_of, Bool.and_eq_true, List.all_eq_true]
          at htyped
        exact htyped.2 part (query.renderedParts_subset hpart)
      exact (Expr.infix_of_mem_renderedQueries hparts (fun other hother =>
        hfaults other (List.mem_flatMap.2 ⟨part, hpart, hother⟩)) hnested).trans
          (query.infix_template hraw hsound hpart)
  obtain ⟨last, hfills, -⟩ := (compile_eq_ok_iff hraw).1 hcompile
  have hpart : nested.IsPartOf query.template :=
    ⟨Expr.raw_of_mem_renderedQueries htyped hnested, hfaults nested hnested,
      hsegment⟩
  exact hpart.exists_standsIn hfills

/-- All queries inside a compiled query are parts of it, also where some fields
hold values that are not of their types. -/
theorem isPartOf_of_compile (hraw : query.raw = none)
    (hcompile : query.compile = .ok compiled)
    (hnested : nested ∈ query.renderedQueries) :
    nested.IsPartOf query.template := by
  obtain ⟨last, hfills, -⟩ := (compile_eq_ok_iff hraw).1 hcompile
  refine isPartOf_of_parts hraw hfills.not_halts ?_ hnested
  exact fun part _ hhalts hnested =>
    Expr.isPartOf_of_mem_renderedQueries hhalts hnested

end Query

end ArangoQuery
