import ArangoQuery.Proofs.Substitution
import ArangoQuery.Proofs.WrittenLines
import Mathlib.Data.List.Chain

/-!
# Separators around placeholders

Expressions and clauses write their own texts around the texts of others, and
these begin and end with separators wherever a value may come to stand.  So
nothing next to a placeholder is part of a name (`Query.template_spaced`).
-/

namespace ArangoQuery

namespace Word

def beginsApart (text : List Char) : Bool :=
  text.head?.any isSeparator

def endsApart (text : List Char) : Bool :=
  text.getLast?.any isSeparator

theorem isSeparator_of_endsApart {text : List Char} (hends : endsApart text) :
    ∀ character ∈ text.getLast?, isSeparator character = true := by
  intro character hlast
  rwa [endsApart, Option.mem_def.1 hlast] at hends

theorem isSeparator_of_beginsApart {text : List Char}
    (hbegins : beginsApart text) :
    ∀ character ∈ text.head?, isSeparator character = true := by
  intro character hhead
  rwa [beginsApart, Option.mem_def.1 hhead] at hbegins

theorem endsApart_append (front : String) {back : String}
    (hback : endsApart back.toList) : endsApart (front ++ back).toList := by
  obtain ⟨separator, hlast, hseparator⟩ := (Option.any_eq_true ..).1 hback
  rw [endsApart, String.toList_append, List.getLast?_append, hlast]
  exact hseparator

theorem beginsApart_append {front : String} (back : String)
    (hfront : beginsApart front.toList) :
    beginsApart (front ++ back).toList := by
  obtain ⟨separator, hhead, hseparator⟩ := (Option.any_eq_true ..).1 hfront
  rw [beginsApart, String.toList_append, List.head?_append, hhead]
  exact hseparator

end Word

open Record (members)
open Word (IsWord beginsApart endsApart)

/-! ## Pieces next to each other -/

namespace Piece

def beginsApart : Piece → Bool
  | .text content => Word.beginsApart content.toList
  | _ => false

def endsApart : Piece → Bool
  | .text content => Word.endsApart content.toList
  | _ => false

/-- A hole stands only next to a text with a separator on its side. -/
def IsApart (left right : Piece) : Prop :=
  (right.call?.isSome → left.endsApart) ∧
    (left.call?.isSome → right.beginsApart)

theorem isApart_of_endsApart {content : String}
    (hends : Word.endsApart content.toList) (right : Piece) :
    IsApart (.text content) right :=
  ⟨fun _ => hends, fun hhole => absurd hhole Bool.false_ne_true⟩

theorem isApart_of_beginsApart {content : String}
    (hbegins : Word.beginsApart content.toList) (left : Piece) :
    IsApart left (.text content) :=
  ⟨fun hhole => absurd hhole Bool.false_ne_true, fun _ => hbegins⟩

end Piece

namespace Template

/-- Every hole stands between separators and has a stem of word characters. -/
structure Spaced (template : Template) : Prop where
  apart : template.IsChain Piece.IsApart
  stems : ∀ call ∈ template.calls, IsWord call.1.toList

namespace Spaced

variable {left right inner : Template} {opening closing : String}

theorem nil : Spaced [] :=
  ⟨.nil, List.forall_mem_nil _⟩

theorem text (content : String) : Spaced (ofText content) :=
  ⟨.singleton _, List.forall_mem_nil _⟩

theorem hole {stem : String} (hstem : IsWord stem.toList) (value : Value) :
    Spaced [.hole stem value] :=
  ⟨.singleton _, List.forall_mem_singleton.2 hstem⟩

theorem halt (error : Error) : Spaced [.halt error] :=
  ⟨.singleton _, List.forall_mem_nil _⟩

theorem text_cons (hends : endsApart opening.toList) (hinner : Spaced inner) :
    Spaced (.text opening :: inner) :=
  ⟨List.isChain_cons.2
      ⟨fun piece _ => Piece.isApart_of_endsApart hends piece, hinner.apart⟩,
    hinner.stems⟩

theorem append_text (hbegins : beginsApart closing.toList)
    (hleft : Spaced left) (hright : Spaced (.text closing :: right)) :
    Spaced (left ++ .text closing :: right) where
  apart := by
    refine List.isChain_append.2 ⟨hleft.apart, hright.apart, ?_⟩
    intro piece _ next hnext
    obtain rfl := Option.mem_some.1 hnext
    exact Piece.isApart_of_beginsApart hbegins piece
  stems := by
    rw [calls, List.filterMap_append]
    exact List.forall_mem_append.2 ⟨hleft.stems, hright.stems⟩

theorem enclose (hopening : endsApart opening.toList)
    (hclosing : beginsApart closing.toList) (hinner : Spaced inner) :
    Spaced (Template.enclose opening inner closing) :=
  (hinner.text_cons hopening).append_text hclosing (text closing)

theorem intercalate {separator : String}
    (hbegins : beginsApart separator.toList)
    (hends : endsApart separator.toList) {templates : List Template}
    (htemplates : ∀ template ∈ templates, Spaced template) :
    Spaced (Template.intercalate separator templates) := by
  induction templates with
  | nil => exact nil
  | cons template rest hrest =>
      obtain ⟨htemplate, htail⟩ := List.forall_mem_cons.1 htemplates
      cases rest with
      | nil => exact htemplate
      | cons next rest =>
          exact htemplate.append_text hbegins ((hrest htail).text_cons hends)

end Spaced

end Template

open Template (Spaced)
open Template.Spaced

/-! ## Clauses -/

section Clauses

variable {template : Template}

theorem Document.template_spaced {document : Document Template}
    (hparts : ∀ part ∈ Document.parts document, Spaced part) :
    Spaced (Document.template document) := by
  apply enclose (by decide) (by decide)
  apply intercalate (by decide) (by decide)
  refine List.forall_mem_map.2 fun member hmember => ?_
  exact (hparts member.2 (List.mem_map_of_mem hmember)).text_cons
    (Word.endsApart_append _ (by decide))

theorem append_options {left : Template} (hleft : Spaced left)
    {options : Option (Document Template)}
    (hparts : ∀ part ∈ Document.parts (members options), Spaced part) :
    Spaced (left ++ optionsTemplate options) := by
  cases options with
  | none => simpa [optionsTemplate] using hleft
  | some options =>
      exact hleft.append_text (by decide)
        ((Document.template_spaced hparts).text_cons (by decide))

theorem loopLine_spaced {loop : String} {source : Slot (Source Template)}
    (hparts : ∀ part ∈ Slot.parts (some source), Spaced part) :
    Spaced (loopLine loop source) := by
  apply text_cons (Word.endsApart_append _ (by decide))
  rcases source with ⟨name | _ | traversal⟩ | content
  · exact text name
  · exact text _
  · exact append_options (text traversal.head) hparts
  · exact text _

theorem Join.spaced_of_mem_lines {join : Join Template}
    (hparts : ∀ part ∈ join.parts, Spaced part)
    (hline : template ∈ join.lines) : Spaced template := by
  obtain ⟨loop, source⟩ := join
  cases source with
  | none => cases hline
  | some source =>
      simp only [Join.lines] at hline
      split at hline
      · rw [List.mem_singleton.1 hline]
        exact loopLine_spaced hparts
      · cases hline

theorem spaced_of_mem_letLines {lets : Option (Document Template)}
    (hparts : ∀ part ∈ Document.parts (members lets), Spaced part)
    (hline : template ∈ letLines lets) : Spaced template := by
  obtain ⟨member, hmember, rfl⟩ := List.mem_map.1 hline
  exact (hparts member.2 (List.mem_map_of_mem hmember)).text_cons
    (Word.endsApart_append _ (by decide))

/-- The lines of a keyword and a condition each. -/
theorem spaced_of_mem_conditions {keyword : String}
    (hkeyword : endsApart keyword.toList) {conditions : List Template}
    (hparts : ∀ part ∈ conditions, Spaced part)
    (hline : template ∈ conditions.map (Piece.text keyword :: ·)) :
    Spaced template := by
  obtain ⟨condition, hcondition, rfl⟩ := List.mem_map.1 hline
  exact (hparts condition hcondition).text_cons hkeyword

theorem Search.spaced_of_mem_lines {search : Search Template}
    (hparts : ∀ part ∈ search.parts, Spaced part)
    (hline : template ∈ search.lines) : Spaced template := by
  obtain ⟨hconditions, hoptions⟩ := List.forall_mem_append.1 hparts
  rw [Search.lines] at hline
  split at hline
  · cases hline
  · rw [List.mem_singleton.1 hline]
    exact append_options ((intercalate (by decide) (by decide)
      hconditions).text_cons (by decide)) hoptions

theorem assignments_spaced {document : Document Template}
    (hparts : ∀ part ∈ Document.parts document, Spaced part) :
    Spaced (assignments document) := by
  apply intercalate (by decide) (by decide)
  refine List.forall_mem_map.2 fun member hmember => ?_
  exact (hparts member.2 (List.mem_map_of_mem hmember)).text_cons
    (Word.endsApart_append _ (by decide))

theorem Collect.spaced_of_mem_lines {collect : Collect Template}
    (hparts : ∀ part ∈ collect.parts, Spaced part)
    (hline : template ∈ collect.lines) : Spaced template := by
  obtain ⟨hkeys, haggregates⟩ := List.forall_mem_append.1 hparts
  simp only [Collect.lines, List.mem_append, List.mem_singleton] at hline
  obtain (rfl | hline) | hline := hline
  · split
    · exact text _
    · exact (assignments_spaced hkeys).text_cons (by decide)
  · split at hline
    · cases hline
    · rw [List.mem_singleton.1 hline]
      exact (assignments_spaced haggregates).text_cons (by decide)
  · split at hline
    · cases hline
    split at hline
    · cases hline
    obtain rfl | hline := List.mem_cons.1 hline
    · exact text _
    split at hline
    · cases hline
    · cases hline
    · rw [List.mem_singleton.1 hline]
      exact text _

theorem Window.spaced_of_mem_lines {window : Window Template}
    (hparts : ∀ part ∈ window.parts, Spaced part)
    (hline : template ∈ window.lines) : Spaced template := by
  obtain ⟨preceding, following, aggregation, name⟩ := window
  simp only [Window.lines, List.mem_cons, List.not_mem_nil, or_false] at hline
  obtain rfl | rfl := hline
  · exact text _
  · apply text_cons _ (hparts aggregation List.mem_cons_self)
    cases name with
    | none => decide
    | some name =>
        simp only
        split
        · decide
        · rw [← String.append_assoc]
          exact Word.endsApart_append _ (by decide)

theorem Operation.line_spaced {operation : Operation Template}
    (hparts : ∀ part ∈ operation.parts, Spaced part) :
    Spaced operation.line := by
  obtain ⟨kind, document, collection, target⟩ := operation
  have hwritten {keyword relation : String} {document : Template}
      (hkeyword : endsApart keyword.toList)
      (hrelation : beginsApart relation.toList) (hdocument : Spaced document) :
      Spaced (.text keyword :: document ++ .text (relation ++
        (collection.map Slot.displayText).getD "None") :: []) :=
    (hdocument.text_cons hkeyword).append_text
      (Word.beginsApart_append _ hrelation) (text _)
  cases document with
  | none =>
      cases kind with
      | insert =>
          exact hwritten (by decide) (by decide) (text _)
      | _ => exact text _
  | some document =>
      have hdocument := hparts document List.mem_cons_self
      cases kind with
      | insert =>
          exact hwritten (by decide) (by decide) hdocument
      | remove => exact text _
      | _ =>
          exact hwritten (Word.endsApart_append _ (by decide))
            (by decide) hdocument

theorem Upsert.spaced_of_mem_lines {upsert : Upsert Template}
    (hparts : ∀ part ∈ upsert.parts, Spaced part)
    (hline : template ∈ upsert.lines) : Spaced template := by
  simp only [Upsert.parts, List.forall_mem_cons] at hparts
  obtain ⟨hsearch, hinsert, hupdate, -⟩ := hparts
  simp only [Upsert.lines, List.mem_cons, List.not_mem_nil, or_false] at hline
  obtain rfl | rfl | rfl | rfl := hline
  · exact hsearch.text_cons (by decide)
  · exact hinsert.text_cons (by decide)
  · exact hupdate.text_cons (by decide)
  · exact text _

theorem Update.spaced_of_mem_lines {hasResult : Bool} {update : Update Template}
    (hparts : ∀ part ∈ update.parts, Spaced part)
    (hline : template ∈ update.lines hasResult) : Spaced template := by
  simp only [Update.parts, List.forall_mem_cons] at hparts
  obtain ⟨hdocument, hfields, -⟩ := hparts
  simp only [Update.lines, List.mem_append, List.mem_cons, List.not_mem_nil,
    or_false] at hline
  obtain (rfl | rfl | rfl) | hline := hline
  · exact hdocument.text_cons (by decide)
  · exact hfields.text_cons (by decide)
  · exact text _
  · split at hline
    · rw [List.mem_singleton.1 hline]
      exact text _
    · cases hline

end Clauses

/-! ## Records and nodes -/

namespace Record

variable {record : Record Template} {template : Template}

theorem spaced_of_mem_withLines (hline : template ∈ record.withLines) :
    Spaced template := by
  unfold withLines at hline
  split at hline
  · cases hline
  · split at hline
    · rw [List.mem_singleton.1 hline]
      exact text _
    · rw [List.mem_singleton.1 hline]
      exact halt _

theorem spaced_of_mem_loopLines
    (hparts : ∀ part ∈ Slot.parts record.source, Spaced part)
    (hline : template ∈ record.loopLines) : Spaced template := by
  unfold loopLines at hline
  split at hline
  · cases hline
  · rename_i source hsource
    rw [hsource] at hparts
    have hloop {loop : String} (hmem : template ∈ [loopLine loop source]) :
        Spaced template := by
      rw [List.mem_singleton.1 hmem]
      exact loopLine_spaced hparts
    split at hline
    · split at hline
      · exact hloop hline
      · split at hline
        · exact hloop hline
        · cases hline
      · cases hline
    · cases hline

theorem spaced_of_mem_sortLines (hline : template ∈ record.sortLines) :
    Spaced template := by
  unfold sortLines at hline
  split at hline
  · cases hline
  · rw [List.mem_singleton.1 hline]
    exact text _

theorem spaced_of_mem_limitLines (hline : template ∈ record.limitLines) :
    Spaced template := by
  unfold limitLines at hline
  split at hline
  · cases hline
  all_goals
    rw [List.mem_singleton.1 hline]
    exact text _

theorem spaced_of_mem_resultLines
    (hparts : ∀ part ∈ record.result.toList, Spaced part)
    (hline : template ∈ record.resultLines) : Spaced template := by
  unfold resultLines at hline
  split at hline
  · cases hline
  · rename_i result hresult
    rw [hresult] at hparts
    rw [List.mem_singleton.1 hline]
    apply (hparts result List.mem_cons_self).text_cons
    split <;> decide

/-- The lines of clauses of one kind. -/
theorem spaced_of_mem_flatMap {F : Type} {clauses : List F}
    {linesOf partsOf : F → List Template}
    (hclause : ∀ clause, (∀ part ∈ partsOf clause, Spaced part) →
      template ∈ linesOf clause → Spaced template)
    (hparts : ∀ part ∈ clauses.flatMap partsOf, Spaced part)
    (hline : template ∈ clauses.flatMap linesOf) : Spaced template := by
  obtain ⟨clause, hmem, hline⟩ := List.mem_flatMap.1 hline
  exact hclause clause (fun part hpart =>
    hparts part (List.mem_flatMap.2 ⟨clause, hmem, hpart⟩)) hline

theorem spaced_of_mem_linesOf (hparts : ∀ part ∈ record.parts, Spaced part)
    {kind : ClauseKind} (hline : template ∈ record.linesOf kind) :
    Spaced template := by
  simp only [parts, List.forall_mem_flatten, List.forall_mem_cons] at hparts
  obtain ⟨hsource, hfilters, hfiltersAfter, hjoins, hletsAfter, hletsBefore,
    hcollects, hresult, hoperations, hupserts, hupdates, hsearches, hprunes,
    hwindows, -⟩ := hparts
  cases kind with
  | collections => exact spaced_of_mem_withLines hline
  | loop => exact spaced_of_mem_loopLines hsource hline
  | nestedLoop =>
      exact spaced_of_mem_flatMap (fun _ => Join.spaced_of_mem_lines) hjoins
        hline
  | earlyLet => exact spaced_of_mem_letLines hletsBefore hline
  | search =>
      exact spaced_of_mem_flatMap (fun _ => Search.spaced_of_mem_lines)
        hsearches hline
  | earlyFilter =>
      exact spaced_of_mem_conditions (by decide) hfilters hline
  | grouping =>
      exact spaced_of_mem_flatMap (fun _ => Collect.spaced_of_mem_lines)
        hcollects hline
  | traversal =>
      obtain ⟨traversal, -, rfl⟩ := List.mem_map.1 hline
      exact text _
  | prune => exact spaced_of_mem_conditions (by decide) hprunes hline
  | lateLet => exact spaced_of_mem_letLines hletsAfter hline
  | lateFilter =>
      exact spaced_of_mem_conditions (by decide) hfiltersAfter hline
  | order => exact spaced_of_mem_sortLines hline
  | window =>
      exact spaced_of_mem_flatMap (fun _ => Window.spaced_of_mem_lines)
        hwindows hline
  | page => exact spaced_of_mem_limitLines hline
  | operation =>
      obtain ⟨operation, hoperation, rfl⟩ := List.mem_map.1 hline
      exact Operation.line_spaced fun part hpart =>
        hoperations part (List.mem_flatMap.2 ⟨operation, hoperation, hpart⟩)
  | upsert =>
      exact spaced_of_mem_flatMap (fun _ => Upsert.spaced_of_mem_lines)
        hupserts hline
  | update =>
      exact spaced_of_mem_flatMap (fun _ => Update.spaced_of_mem_lines)
        hupdates hline
  | result => exact spaced_of_mem_resultLines hresult hline

theorem template_spaced (hparts : ∀ part ∈ record.parts, Spaced part) :
    Spaced record.template := by
  rw [template_eq]
  apply intercalate (by decide) (by decide)
  intro line hline
  obtain ⟨kind, -, hline⟩ := List.mem_flatMap.1 hline
  exact spaced_of_mem_linesOf hparts hline

end Record

theorem subqueryTemplate_spaced {query : Record (Expr × Template)}
    (hparts : ∀ part ∈ query.parts, part.2.Spaced) :
    Spaced (subqueryTemplate query) := by
  unfold subqueryTemplate
  split
  · refine ⟨?_, List.forall_mem_nil _⟩
    refine .cons_cons ⟨fun hhole => ?_, fun hhole => ?_⟩ (.singleton _) <;>
      exact absurd hhole Bool.false_ne_true
  · split
    · exact halt _
    · apply Record.template_spaced
      rw [Record.parts_map]
      exact List.forall_mem_map.2 hparts

theorem isWord_literalStem (value : Value) :
    IsWord (literalStem value).toList := by
  have harray : IsWord "array".toList := by decide
  have hvalue : IsWord "value".toList := by decide
  cases value with
  | list items => exact harray
  | _ => exact hvalue

theorem rightTemplate_spaced (operator : BinaryOperator)
    {right : Expr × Template} (hright : right.2.Spaced) :
    Spaced (rightTemplate operator right) := by
  unfold rightTemplate
  split
  · exact hole (by decide) _
  · exact hright

theorem Node.template_spaced {node : Node (Expr × Template)}
    (hparts : ∀ part ∈ node.parts, part.2.Spaced) :
    Spaced (Node.template node) := by
  have hcomma {templates : List Template}
      (htemplates : ∀ template ∈ templates, Spaced template) :
      Spaced (Template.intercalate ", " templates) :=
    intercalate (by decide) (by decide) htemplates
  cases node with
  | literal value => exact hole (isWord_literalStem value) value
  | reference path | old path => exact text path
  | parameter placeholder => exact text _
  | binary operator left right =>
      simp only [parts, List.forall_mem_cons] at hparts
      obtain ⟨hleft, hright, -⟩ := hparts
      have hoperand := rightTemplate_spaced operator hright
      refine enclose (by decide) (by decide)
        (hleft.append_text ?_ (hoperand.text_cons ?_))
      · cases operator <;> decide
      · cases operator <;> decide
  | unary operator operand =>
      apply (hparts operand List.mem_cons_self).text_cons
      cases operator <;> decide
  | call function arguments =>
      exact enclose (Word.endsApart_append _ (by decide))
        (by decide) (hcomma (List.forall_mem_map.2 hparts))
  | ternary condition thenValue elseValue =>
      simp only [parts, List.forall_mem_cons] at hparts
      obtain ⟨hcondition, hthen, helse, -⟩ := hparts
      exact enclose (by decide) (by decide)
        ((hcondition.append_text (by decide)
            (hthen.text_cons (by decide))).append_text
          (by decide) (helse.text_cons (by decide)))
  | like subject pattern ignoreCase =>
      have hsubject := hparts subject List.mem_cons_self
      have hpattern : Spaced [.hole "likePattern" (.text pattern)] :=
        hole (by decide) _
      cases ignoreCase <;>
        exact enclose (by decide) (by decide)
          (hsubject.append_text (by decide)
            (hpattern.text_cons (by decide)))
  | regex subject pattern flags =>
      have hsubject := hparts subject List.mem_cons_self
      have hpattern : Spaced [.hole "regexPattern" (.text pattern)] :=
        hole (by decide) _
      refine enclose (by decide) ?_
        (hsubject.append_text (by decide)
          (hpattern.text_cons (by decide)))
      split <;> decide
  | quantified quantifier subject condition =>
      simp only [parts, List.forall_mem_cons] at hparts
      obtain ⟨hsubject, hcondition, -⟩ := hparts
      refine enclose (by decide) ?_
        (hsubject.append_text (by decide)
          (hcondition.text_cons (by decide)))
      cases quantifier <;> decide
  | unset document fields =>
      have hdocument := hparts document List.mem_cons_self
      refine enclose (by decide) (by decide) (hcomma
        (List.forall_mem_cons.2 ⟨hdocument, List.forall_mem_map.2 ?_⟩))
      exact fun field _ => hole (by decide) _
  | object members =>
      apply Document.template_spaced
      rw [Document.parts_map]
      exact List.forall_mem_map.2 hparts
  | array items =>
      exact enclose (by decide) (by decide)
        (hcomma (List.forall_mem_map.2 hparts))
  | subquery query =>
      exact enclose (by decide) (by decide)
        (subqueryTemplate_spaced hparts)
  | stray content => exact halt _

theorem Expr.template_spaced (expr : Expr) : expr.template.Spaced := by
  induction expr using Expr.induction with
  | step node hparts =>
      rw [Expr.template, Expr.fold_of]
      apply Node.template_spaced
      rw [Node.parts_map]
      exact List.forall_mem_map.2 hparts

theorem Query.template_spaced (query : Query) : query.template.Spaced := by
  apply subqueryTemplate_spaced
  rw [Record.parts_map]
  exact List.forall_mem_map.2 fun part _ => part.template_spaced

end ArangoQuery
