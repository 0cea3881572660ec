import ArangoQuery.Proofs.Nesting
import ArangoQuery.Proofs.Typed

/-!
# Closed texts

Most texts of a query are the library's own, and so are the quoted ones.  The
others are written as their callers give them: names, paths and raw texts
(`Record.verbatim`, `Node.isClosed`).  If in each of these all brackets and
quotations are closed, and no comma stands outside of them where one would count,
then the same is true of the text of every expression, with subqueries at any depth
(`Expr.template_leads`).
-/

namespace ArangoQuery

open Nesting (Leads leads_quote leads_toString_int)
open Record (members)

variable {α β : Type}

/-! ## Texts written as they are given -/

def Document.names (document : Document α) : List String :=
  List.map Prod.fst document

theorem Document.names_map (f : α → β) (document : Document α) :
    names (Document.map f document) = names document := by
  simp [names, Document.map]

/-- The start vertex of a traversal is among them unless it is quoted. -/
def Source.verbatim : Source α → List String
  | .text name => [name]
  | .range _ _ => []
  | .graph traversal => [vertexText traversal.startVertex]

def Slot.verbatim : Slot (Source α) → List String
  | .proper source => source.verbatim
  | .stray content => [content.display]

def Join.verbatim (join : Join α) : List String :=
  join.loop :: join.source.toList.flatMap Slot.verbatim

def Collect.verbatim (collect : Collect α) : List String :=
  Document.names collect.keys ++ Document.names collect.aggregates ++
    collect.into.toList ++ members collect.keep

def Traversal.verbatim (traversal : Traversal) : List String :=
  [traversal.loop, traversal.path]

def Operation.verbatim (operation : Operation α) : List String :=
  operation.collection.toList.map Slot.displayText ++ operation.target.toList

/-- A number of results that is none. -/
def Slot.verbatimCount : Slot Int → List String
  | .proper _ => []
  | .stray content => [content.display]

/-- All texts that rendering a record writes as they are given. -/
def Record.verbatim (record : Record α) : List String :=
  [record.raw.toList,
    (members record.withCollections).map Slot.displayText,
    record.loop.toList.map Slot.displayText,
    record.loopNames.toList.flatMap LoopNames.names,
    record.source.toList.flatMap Slot.verbatim,
    (members record.joins).flatMap Join.verbatim,
    Document.names (members record.letsBeforeCollect),
    Document.names (members record.letsAfterCollect),
    (members record.collects).flatMap Collect.verbatim,
    (members record.traversals).flatMap Traversal.verbatim,
    (members record.sorts).map SortKey.field,
    (members record.windows).flatMap fun window => window.name.toList,
    record.offset.toList.flatMap Slot.verbatimCount,
    record.limit.toList.flatMap Slot.verbatimCount,
    (members record.operations).flatMap Operation.verbatim,
    (members record.upserts).map Upsert.collection,
    (members record.updates).flatMap fun update =>
      update.collection.toList].flatten

theorem Slot.verbatim_map (f : α → β) (source : Slot (Source α)) :
    (source.map (Source.map f)).verbatim = source.verbatim := by
  rcases source with ⟨_ | _ | _⟩ | _ <;> rfl

theorem Record.verbatim_map (f : α → β) (record : Record α) :
    (record.map f).verbatim = record.verbatim := by
  have hsource (source : Option (Slot (Source α))) :
      (source.map (Slot.map (Source.map f))).toList.flatMap Slot.verbatim =
        source.toList.flatMap Slot.verbatim := by
    cases source with
    | none => rfl
    | some source => simp [Slot.verbatim_map]
  have hjoin (join : Join α) : (join.map f).verbatim = join.verbatim :=
    congrArg (join.loop :: ·) (hsource join.source)
  have hcollect (collect : Collect α) :
      (collect.map f).verbatim = collect.verbatim := by
    simp only [Collect.verbatim, Collect.map, Document.names_map]
  simp only [verbatim, Record.map, members_map, members_document_map,
    Document.names_map, List.flatMap_map, hsource, hjoin, hcollect]
  rw [List.map_map]
  rfl

/-- Is everything closed that a node writes as it is given?  In a subquery, which
stands in brackets, there may be commas. -/
def Node.isClosed : Node α → Bool
  | .reference path => decide (Leads 0 path 0)
  | .old path => decide (Leads 0 path 0)
  | .call function _ => decide (Leads 0 function 0)
  | .subquery query => query.verbatim.all fun text => decide (Leads 1 text 1)
  | _ => true

theorem Node.isClosed_map (f : α → β) (node : Node α) :
    (node.map f).isClosed = node.isClosed := by
  cases node with
  | subquery query =>
      simp only [Node.map, isClosed, Record.verbatim_map]
  | _ => rfl

def Expr.isClosed : Expr → Bool :=
  everywhere Node.isClosed

theorem Expr.isClosed_of (node : Node Expr) :
    (Expr.of node).isClosed = (node.isClosed && node.parts.all isClosed) := by
  rw [isClosed, everywhere_of, Node.isClosed_map]

/-! ## Clauses -/

section Clauses

/-- Every member of a document is inside of its braces. -/
theorem Document.template_leads {document : Document Template}
    (hparts : ∀ part ∈ Document.parts document, part.Leads 1 1) :
    (Document.template document).Leads 0 0 := by
  refine .enclose 1 (by decide) (.intercalate (by decide) ?_) (by decide)
  refine List.forall_mem_map.2 fun member hmember => ?_
  have hpart := hparts member.2 (List.mem_map_of_mem hmember)
  exact .text_cons ((leads_quote member.1 1).append (by decide)) hpart

variable {line : Template}

theorem optionsTemplate_leads {options : Option (Document Template)}
    (hparts : ∀ part ∈ Document.parts (members options), part.Leads 1 1) :
    (optionsTemplate options).Leads 1 1 := by
  cases options with
  | none => exact .nil 1
  | some options =>
      exact .text_cons (by decide) ((Document.template_leads hparts).under 1)

theorem GraphSource.depthRange_leads {ε : Type} (traversal : GraphSource ε)
    (depth : Nat) : Leads depth traversal.depthRange depth :=
  ((leads_toString_int traversal.minDepth depth).append
    (Nesting.leads_of_isPlain rfl depth)).append
      (leads_toString_int _ depth)

theorem GraphSource.head_leads {ε : Type} {traversal : GraphSource ε}
    (hvertex : Leads 1 (vertexText traversal.startVertex) 1) :
    Leads 1 traversal.head 1 := by
  have hdirection : Leads 1 traversal.direction.text 1 := by
    cases traversal.direction <;> decide
  have hspace : Leads 1 " " 1 := by decide
  have hgraph : Leads 1 " GRAPH " 1 := by decide
  exact ((((((traversal.depthRange_leads 1).append hspace).append
    hdirection).append hspace).append hvertex).append hgraph).append
      (leads_quote traversal.graph 1)

theorem Slot.sourceTemplate_leads {source : Slot (Source Template)}
    (hverbatim : ∀ text ∈ source.verbatim, Leads 1 text 1)
    (hparts : ∀ part ∈ Slot.parts (some source), part.Leads 1 1) :
    source.sourceTemplate.Leads 1 1 := by
  rcases source with ⟨name | ⟨first, last⟩ | traversal⟩ | content
  · exact .ofText (hverbatim name (List.mem_singleton_self name))
  · exact .ofText (((leads_toString_int first 1).append (by decide)).append
      (leads_toString_int last 1))
  · have hvertex := hverbatim _ (List.mem_singleton_self _)
    exact .text_cons (GraphSource.head_leads hvertex)
      (optionsTemplate_leads hparts)
  · exact .ofText (hverbatim _ (List.mem_singleton_self _))

theorem loopLine_leads {loop : String} {source : Slot (Source Template)}
    (hloop : Leads 1 loop 1)
    (hverbatim : ∀ text ∈ source.verbatim, Leads 1 text 1)
    (hparts : ∀ part ∈ Slot.parts (some source), part.Leads 1 1) :
    (loopLine loop source).Leads 1 1 := by
  have hfor : Leads 1 "FOR " 1 := by decide
  exact .text_cons ((hfor.append hloop).append (by decide))
    (Slot.sourceTemplate_leads hverbatim hparts)

theorem Join.leads_of_mem_lines {join : Join Template}
    (hverbatim : ∀ text ∈ join.verbatim, Leads 1 text 1)
    (hparts : ∀ part ∈ join.parts, part.Leads 1 1)
    (hline : line ∈ join.lines) : line.Leads 1 1 := by
  obtain ⟨loop, source⟩ := join
  obtain ⟨hloop, hsource⟩ := List.forall_mem_cons.1 hverbatim
  cases source with
  | none => cases hline
  | some source =>
      simp only [Join.lines] at hline
      split at hline
      · rw [List.mem_singleton.1 hline]
        refine loopLine_leads hloop (fun text htext => ?_) hparts
        exact hsource text (by simpa using htext)
      · cases hline

/-- Named parts, each with a word in front of its name and one behind it. -/
theorem leads_of_mem_named {front back : String} {document : Document Template}
    (hfront : Leads 1 front 1) (hback : Leads 1 back 1)
    (hnames : ∀ name ∈ Document.names document, Leads 1 name 1)
    (hparts : ∀ part ∈ Document.parts document, part.Leads 1 1)
    (hline : line ∈ List.map (fun (name, part) =>
      Piece.text (front ++ name ++ back) :: part) document) :
    line.Leads 1 1 := by
  obtain ⟨member, hmember, rfl⟩ := List.mem_map.1 hline
  have hname := hnames member.1 (List.mem_map_of_mem hmember)
  exact .text_cons ((hfront.append hname).append hback)
    (hparts member.2 (List.mem_map_of_mem hmember))

/-- The lines of a keyword and a condition each. -/
theorem leads_of_mem_conditions {keyword : String}
    (hkeyword : Leads 1 keyword 1) {conditions : List Template}
    (hparts : ∀ part ∈ conditions, part.Leads 1 1)
    (hline : line ∈ conditions.map (Piece.text keyword :: ·)) :
    line.Leads 1 1 := by
  obtain ⟨condition, hcondition, rfl⟩ := List.mem_map.1 hline
  exact .text_cons hkeyword (hparts condition hcondition)

theorem Search.leads_of_mem_lines {search : Search Template}
    (hparts : ∀ part ∈ search.parts, part.Leads 1 1)
    (hline : line ∈ search.lines) : line.Leads 1 1 := by
  obtain ⟨hconditions, hoptions⟩ := List.forall_mem_append.1 hparts
  rw [Search.lines] at hline
  split at hline
  · cases hline
  · rw [List.mem_singleton.1 hline]
    exact .append (.text_cons (by decide)
      (.intercalate (by decide) hconditions)) (optionsTemplate_leads hoptions)

theorem assignments_leads {document : Document Template}
    (hnames : ∀ name ∈ Document.names document, Leads 1 name 1)
    (hparts : ∀ part ∈ Document.parts document, part.Leads 1 1) :
    (assignments document).Leads 1 1 := by
  refine .intercalate (by decide) (List.forall_mem_map.2 ?_)
  intro member hmember
  have hname := hnames member.1 (List.mem_map_of_mem hmember)
  exact .text_cons (hname.append (by decide))
    (hparts member.2 (List.mem_map_of_mem hmember))

theorem Collect.leads_of_mem_lines {collect : Collect Template}
    (hverbatim : ∀ text ∈ collect.verbatim, Leads 1 text 1)
    (hparts : ∀ part ∈ collect.parts, part.Leads 1 1)
    (hline : line ∈ collect.lines) : line.Leads 1 1 := by
  obtain ⟨keys, into, aggregates, keep⟩ := collect
  obtain ⟨hkeyParts, haggregateParts⟩ := List.forall_mem_append.1 hparts
  simp only [Collect.verbatim, List.forall_mem_append] at hverbatim
  obtain ⟨⟨⟨hkeys, haggregates⟩, hinto⟩, hkeep⟩ := hverbatim
  simp only [Collect.lines, List.mem_append, List.mem_singleton] at hline
  obtain (rfl | hline) | hline := hline
  · split
    · exact .ofText (by decide)
    · exact .text_cons (by decide) (assignments_leads hkeys hkeyParts)
  · split at hline
    · cases hline
    · rw [List.mem_singleton.1 hline]
      exact .text_cons (by decide)
        (assignments_leads haggregates haggregateParts)
  · split at hline
    · cases hline
    · next group =>
      split at hline
      · cases hline
      have hgroup : Leads 1 "  INTO " 1 := by decide
      obtain rfl | hline := List.mem_cons.1 hline
      · exact .ofText (hgroup.append (hinto group (by simp)))
      split at hline
      · cases hline
      · cases hline
      · next names _ =>
        have hnames : Leads 1 "  KEEP " 1 := by decide
        rw [List.mem_singleton.1 hline]
        exact .ofText (hnames.append (.intercalate (by decide) hkeep))

theorem Traversal.line_leads {traversal : Traversal}
    (hverbatim : ∀ text ∈ traversal.verbatim, Leads 1 text 1) :
    traversal.line.Leads 1 1 := by
  obtain ⟨loop, path, minDepth, maxDepth⟩ := traversal
  obtain ⟨hloop, hpath⟩ := List.forall_mem_cons.1 hverbatim
  have htraverse : Leads 1 "TRAVERSE " 1 := by decide
  have hin : Leads 1 " IN " 1 := by decide
  have hdepth {word : String} (hword : Leads 1 word 1) (depth : Int) :
      Leads 1 (word ++ toString depth) 1 :=
    hword.append (leads_toString_int depth 1)
  have hfront : Leads 1 ("TRAVERSE " ++ loop ++ " IN " ++ path) 1 :=
    ((htraverse.append hloop).append hin).append
      (hpath path (List.mem_singleton_self path))
  refine .ofText ((hfront.append (?_ : Leads 1 _ 1)).append ?_)
  · cases minDepth with
    | none => exact Nesting.leads_empty 1
    | some depth => exact hdepth (by decide) depth
  · cases maxDepth with
    | none => exact Nesting.leads_empty 1
    | some depth => exact hdepth (by decide) depth

theorem SortKey.text_leads {key : SortKey} (hfield : Leads 1 key.field 1) :
    Leads 1 key.text 1 := by
  have hdirection : Leads 1 key.direction.text 1 := by
    cases key.direction <;> decide
  exact (hfield.append (by decide)).append hdirection

theorem Bound.quotedText_leads (bound : Bound) (depth : Nat) :
    Leads depth bound.quotedText depth := by
  cases bound with
  | unbounded =>
      have hquoted : Leads 0 (Bound.quotedText .unbounded) 0 := by decide
      exact hquoted.under depth
  | rows count => exact leads_toString_int count depth

theorem Window.leads_of_mem_lines {window : Window Template}
    (hname : ∀ name ∈ window.name.toList, Leads 1 name 1)
    (hparts : ∀ part ∈ window.parts, part.Leads 1 1)
    (hline : line ∈ window.lines) : line.Leads 1 1 := by
  obtain ⟨preceding, following, aggregation, name⟩ := window
  have hbound (side : WindowSide) (bound : Bound) :
      ∀ text ∈ [side.text ++ ": " ++ bound.quotedText], Leads 2 text 2 := by
    have hside : Leads 2 side.text 2 := by cases side <;> decide
    exact List.forall_mem_singleton.2
      ((hside.append (by decide)).append (bound.quotedText_leads 2))
  have hopening : Leads 1 "WINDOW \x7b " 2 := by decide
  simp only [Window.lines, List.mem_cons, List.not_mem_nil, or_false] at hline
  obtain rfl | rfl := hline
  · refine .ofText ((hopening.append (.intercalate (by decide)
      (List.forall_mem_append.2 ⟨?_, ?_⟩))).append (by decide))
    · cases preceding with
      | none => exact List.forall_mem_nil _
      | some bound => exact hbound .preceding bound
    · cases following with
      | none => exact List.forall_mem_nil _
      | some bound => exact hbound .following bound
  · have haggregate : Leads 1 "  AGGREGATE " 1 := by decide
    refine .text_cons (haggregate.append ?_)
      (hparts aggregation List.mem_cons_self)
    cases name with
    | none => exact Nesting.leads_empty 1
    | some name =>
        simp only
        split
        · exact Nesting.leads_empty 1
        · exact (hname name (by simp)).append (by decide)

/-- A word stands for a name that is not set. -/
theorem leads_getD {name : Option String}
    (hname : ∀ text ∈ name.toList, Leads 1 text 1) :
    Leads 1 (name.getD "None") 1 := by
  cases name with
  | none => decide
  | some name => exact hname name (by simp)

theorem Operation.line_leads {operation : Operation Template}
    (hverbatim : ∀ text ∈ operation.verbatim, Leads 1 text 1)
    (hparts : ∀ part ∈ operation.parts, part.Leads 1 1) :
    operation.line.Leads 1 1 := by
  obtain ⟨kind, document, collection, target⟩ := operation
  obtain ⟨hcollection, htarget⟩ := List.forall_mem_append.1 hverbatim
  rw [← Option.toList_map] at hcollection
  have hkind : Leads 1 (kind.text ++ " ") 1 := by cases kind <;> decide
  have hplain : (Template.ofText (kind.text ++ " " ++ target.getD "None" ++
      " IN " ++ (collection.map Slot.displayText).getD "None")).Leads 1 1 :=
    .ofText (((hkind.append (leads_getD htarget)).append (by decide)).append
      (leads_getD hcollection))
  have hwritten {keyword relation : String} {document : Template}
      (hkeyword : Leads 1 keyword 1) (hrelation : Leads 1 relation 1)
      (hdocument : document.Leads 1 1) :
      Template.Leads 1 (.text keyword :: document ++ .ofText (relation ++
        (collection.map Slot.displayText).getD "None")) 1 :=
    .append (.text_cons hkeyword hdocument)
      (.ofText (hrelation.append (leads_getD hcollection)))
  cases document with
  | none =>
      cases kind with
      | insert => exact hwritten (by decide) (by decide) (.ofText (by decide))
      | _ => exact hplain
  | some document =>
      have hdocument := hparts document List.mem_cons_self
      cases kind with
      | insert => exact hwritten (by decide) (by decide) hdocument
      | remove => exact hplain
      | _ =>
          exact hwritten ((hkind.append (leads_getD htarget)).append (by decide))
            (by decide) hdocument

theorem Upsert.leads_of_mem_lines {upsert : Upsert Template}
    (hcollection : Leads 1 upsert.collection 1)
    (hparts : ∀ part ∈ upsert.parts, part.Leads 1 1)
    (hline : line ∈ upsert.lines) : line.Leads 1 1 := by
  simp only [Upsert.parts, List.forall_mem_cons] at hparts
  obtain ⟨hsearch, hinsert, hupdate, -⟩ := hparts
  simp only [Upsert.lines, List.mem_cons, List.not_mem_nil, or_false] at hline
  obtain rfl | rfl | rfl | rfl := hline
  · exact .text_cons (by decide) hsearch
  · exact .text_cons (by decide) hinsert
  · exact .text_cons (by decide) hupdate
  · exact .ofText (.append (by decide) hcollection)

theorem Update.leads_of_mem_lines {hasResult : Bool} {update : Update Template}
    (hcollection : ∀ name ∈ update.collection.toList, Leads 1 name 1)
    (hparts : ∀ part ∈ update.parts, part.Leads 1 1)
    (hline : line ∈ update.lines hasResult) : line.Leads 1 1 := by
  simp only [Update.parts, List.forall_mem_cons] at hparts
  obtain ⟨hdocument, hfields, -⟩ := hparts
  simp only [Update.lines, List.mem_append, List.mem_cons, List.not_mem_nil,
    or_false] at hline
  obtain (rfl | rfl | rfl) | hline := hline
  · exact .text_cons (by decide) hdocument
  · exact .text_cons (by decide) hfields
  · exact .ofText (.append (by decide) (leads_getD hcollection))
  · split at hline
    · rw [List.mem_singleton.1 hline]
      exact .ofText (by decide)
    · cases hline

end Clauses

/-! ## Records and nodes -/

namespace Record

variable {record : Record Template} {line : Template}

theorem mem_of_withLine {position : Nat} {collections : List (Slot String)}
    {names : List String} (hnames : withLine position collections = .ok names) :
    ∀ name ∈ names, name ∈ collections.map Slot.displayText := by
  induction collections generalizing position names with
  | nil =>
      obtain rfl := Except.ok.inj hnames
      exact List.forall_mem_nil _
  | cons collection rest hrest =>
      cases collection with
      | stray content => cases hnames
      | proper name =>
          cases hothers : withLine (position + 1) rest with
          | error fault => simp [withLine, hothers, bind, Except.bind] at hnames
          | ok others =>
              simp only [withLine, hothers, bind, Except.bind, pure, Except.pure,
                Except.ok.injEq] at hnames
              subst hnames
              rw [List.map_cons]
              refine List.forall_mem_cons.2 ⟨List.mem_cons_self, ?_⟩
              intro other hother
              exact List.mem_cons_of_mem _ (hrest hothers other hother)

theorem leads_of_mem_withLines
    (hcollections : ∀ text ∈
      (members record.withCollections).map Slot.displayText, Leads 1 text 1)
    (hline : line ∈ record.withLines) : line.Leads 1 1 := by
  unfold withLines at hline
  split at hline
  · cases hline
  · split at hline
    · next names hnames =>
      have hwith : Leads 1 "WITH " 1 := by decide
      rw [List.mem_singleton.1 hline]
      refine .ofText (hwith.append (.intercalate (by decide) ?_))
      exact fun name hname =>
        hcollections name (mem_of_withLine hnames name hname)
    · rw [List.mem_singleton.1 hline]
      exact .halt _ 1 1

theorem leads_of_mem_loopLines
    (hloop : ∀ text ∈ record.loop.toList.map Slot.displayText, Leads 1 text 1)
    (hnames : ∀ text ∈ record.loopNames.toList.flatMap LoopNames.names,
      Leads 1 text 1)
    (hsource : ∀ text ∈ record.source.toList.flatMap Slot.verbatim,
      Leads 1 text 1)
    (hparts : ∀ part ∈ Slot.parts record.source, part.Leads 1 1)
    (hline : line ∈ record.loopLines) : line.Leads 1 1 := by
  unfold loopLines at hline
  split at hline
  · cases hline
  · next source hrecord =>
    rw [hrecord] at hparts hsource
    have hwritten {loop : String} (hloop : Leads 1 loop 1)
        (hmem : line ∈ [loopLine loop source]) : line.Leads 1 1 := by
      rw [List.mem_singleton.1 hmem]
      refine loopLine_leads hloop (fun text htext => ?_) hparts
      exact hsource text (by simpa using htext)
    split at hline
    · split at hline
      · next names hrecordNames =>
        rw [hrecordNames] at hnames
        refine hwritten (.intercalate (by decide) ?_) hline
        exact fun text htext => hnames text (by simpa using htext)
      · next loop _ hrecordLoop =>
        rw [hrecordLoop] at hloop
        split at hline
        · exact hwritten (hloop _ (by simp)) hline
        · cases hline
      · cases hline
    · cases hline

theorem leads_of_mem_sortLines
    (hfields : ∀ text ∈ (members record.sorts).map SortKey.field,
      Leads 1 text 1)
    (hline : line ∈ record.sortLines) : line.Leads 1 1 := by
  unfold sortLines at hline
  split at hline
  · cases hline
  · have hsort : Leads 1 "SORT " 1 := by decide
    rw [List.mem_singleton.1 hline]
    refine .ofText (hsort.append (.intercalate (by decide) ?_))
    refine List.forall_mem_map.2 fun key hkey => ?_
    exact SortKey.text_leads (hfields key.field (List.mem_map_of_mem hkey))

theorem countText_leads {count : Slot Int}
    (hverbatim : ∀ text ∈ count.verbatimCount, Leads 1 text 1) :
    Leads 1 (countText count) 1 := by
  cases count with
  | proper count => exact leads_toString_int count 1
  | stray content => exact hverbatim _ (List.mem_singleton_self _)

theorem leads_of_mem_limitLines
    (hoffset : ∀ text ∈ record.offset.toList.flatMap Slot.verbatimCount,
      Leads 1 text 1)
    (hlimit : ∀ text ∈ record.limit.toList.flatMap Slot.verbatimCount,
      Leads 1 text 1)
    (hline : line ∈ record.limitLines) : line.Leads 1 1 := by
  have hword : Leads 1 "LIMIT " 1 := by decide
  unfold limitLines at hline
  split at hline
  · cases hline
  · next limit offset hrecordLimit hrecordOffset =>
    rw [hrecordLimit] at hlimit
    rw [hrecordOffset] at hoffset
    rw [List.mem_singleton.1 hline]
    exact .ofText (((hword.append (countText_leads (by simpa using hoffset))).append
      (by decide)).append (countText_leads (by simpa using hlimit)))
  · next limit hrecordLimit _ =>
    rw [hrecordLimit] at hlimit
    rw [List.mem_singleton.1 hline]
    exact .ofText (hword.append (countText_leads (by simpa using hlimit)))

theorem leads_of_mem_resultLines
    (hparts : ∀ part ∈ record.result.toList, part.Leads 1 1)
    (hline : line ∈ record.resultLines) : line.Leads 1 1 := by
  unfold resultLines at hline
  split at hline
  · cases hline
  · next result hresult =>
    rw [hresult] at hparts
    rw [List.mem_singleton.1 hline]
    refine .text_cons ?_ (hparts result List.mem_cons_self)
    split <;> decide

/-- The lines of clauses of one kind. -/
theorem leads_of_mem_flatMap {F : Type} {clauses : List F}
    {linesOf partsOf : F → List Template} {verbatimOf : F → List String}
    (hclause : ∀ clause, (∀ text ∈ verbatimOf clause, Leads 1 text 1) →
      (∀ part ∈ partsOf clause, part.Leads 1 1) →
      line ∈ linesOf clause → line.Leads 1 1)
    (hverbatim : ∀ text ∈ clauses.flatMap verbatimOf, Leads 1 text 1)
    (hparts : ∀ part ∈ clauses.flatMap partsOf, part.Leads 1 1)
    (hline : line ∈ clauses.flatMap linesOf) : line.Leads 1 1 := by
  obtain ⟨clause, hmem, hline⟩ := List.mem_flatMap.1 hline
  refine hclause clause (fun text htext => ?_) (fun part hpart => ?_) hline
  · exact hverbatim text (List.mem_flatMap.2 ⟨clause, hmem, htext⟩)
  · exact hparts part (List.mem_flatMap.2 ⟨clause, hmem, hpart⟩)

theorem leads_of_mem_linesOf
    (hverbatim : ∀ text ∈ record.verbatim, Leads 1 text 1)
    (hparts : ∀ part ∈ record.parts, part.Leads 1 1) {kind : ClauseKind}
    (hline : line ∈ record.linesOf kind) : line.Leads 1 1 := by
  simp only [verbatim, List.forall_mem_flatten, List.forall_mem_cons]
    at hverbatim
  obtain ⟨-, hcollections, hloop, hloopNames, hsource, hjoins, hletsBefore,
    hletsAfter, hcollects, htraversals, hsorts, hwindows, hoffset, hlimit,
    hoperations, hupserts, hupdates, -⟩ := hverbatim
  simp only [parts, List.forall_mem_flatten, List.forall_mem_cons] at hparts
  obtain ⟨hsourceParts, hfilterParts, hfilterAfterParts, hjoinParts,
    hletAfterParts, hletBeforeParts, hcollectParts, hresultParts,
    hoperationParts, hupsertParts, hupdateParts, hsearchParts, hpruneParts,
    hwindowParts, -⟩ := hparts
  cases kind with
  | collections => exact leads_of_mem_withLines hcollections hline
  | loop =>
      exact leads_of_mem_loopLines hloop hloopNames hsource hsourceParts hline
  | nestedLoop =>
      exact leads_of_mem_flatMap (fun _ => Join.leads_of_mem_lines) hjoins
        hjoinParts hline
  | earlyLet =>
      exact leads_of_mem_named (by decide) (by decide) hletsBefore
        hletBeforeParts hline
  | search =>
      obtain ⟨search, hsearch, hline⟩ := List.mem_flatMap.1 hline
      exact search.leads_of_mem_lines (fun part hpart => hsearchParts part
        (List.mem_flatMap.2 ⟨search, hsearch, hpart⟩)) hline
  | earlyFilter =>
      exact leads_of_mem_conditions (by decide) hfilterParts hline
  | grouping =>
      exact leads_of_mem_flatMap (fun _ => Collect.leads_of_mem_lines)
        hcollects hcollectParts hline
  | traversal =>
      obtain ⟨traversal, htraversal, rfl⟩ := List.mem_map.1 hline
      exact Traversal.line_leads fun text htext => htraversals text
        (List.mem_flatMap.2 ⟨traversal, htraversal, htext⟩)
  | prune => exact leads_of_mem_conditions (by decide) hpruneParts hline
  | lateLet =>
      exact leads_of_mem_named (by decide) (by decide) hletsAfter
        hletAfterParts hline
  | lateFilter =>
      exact leads_of_mem_conditions (by decide) hfilterAfterParts hline
  | order => exact leads_of_mem_sortLines hsorts hline
  | window =>
      exact leads_of_mem_flatMap (fun _ => Window.leads_of_mem_lines) hwindows
        hwindowParts hline
  | page => exact leads_of_mem_limitLines hoffset hlimit hline
  | operation =>
      obtain ⟨operation, hmem, rfl⟩ := List.mem_map.1 hline
      refine Operation.line_leads (fun text htext => ?_) fun part hpart => ?_
      · exact hoperations text (List.mem_flatMap.2 ⟨operation, hmem, htext⟩)
      · exact hoperationParts part
          (List.mem_flatMap.2 ⟨operation, hmem, hpart⟩)
  | upsert =>
      obtain ⟨upsert, hmem, hline⟩ := List.mem_flatMap.1 hline
      refine upsert.leads_of_mem_lines ?_ (fun part hpart => ?_) hline
      · exact hupserts _ (List.mem_map_of_mem hmem)
      · exact hupsertParts part (List.mem_flatMap.2 ⟨upsert, hmem, hpart⟩)
  | update =>
      exact leads_of_mem_flatMap (fun _ => Update.leads_of_mem_lines) hupdates
        hupdateParts hline
  | result => exact leads_of_mem_resultLines hresultParts hline

theorem template_leads (hverbatim : ∀ text ∈ record.verbatim, Leads 1 text 1)
    (hparts : ∀ part ∈ record.parts, part.Leads 1 1) :
    record.template.Leads 1 1 := by
  rw [template_eq]
  refine .intercalate (by decide) fun line hline => ?_
  obtain ⟨kind, -, hline⟩ := List.mem_flatMap.1 hline
  exact leads_of_mem_linesOf hverbatim hparts hline

end Record

theorem subqueryTemplate_leads {query : Record (Expr × Template)}
    (hverbatim : ∀ text ∈ query.verbatim, Leads 1 text 1)
    (hparts : ∀ part ∈ query.parts, part.2.Leads 1 1) :
    (subqueryTemplate query).Leads 1 1 := by
  unfold subqueryTemplate
  split
  · next raw hraw =>
    have hmem : raw ∈ query.verbatim := by
      simp [Record.verbatim, hraw]
    exact .adopt_cons (.ofText (hverbatim raw hmem))
  · split
    · exact .halt _ 1 1
    · apply Record.template_leads
      · rwa [Record.verbatim_map]
      · rw [Record.parts_map]
        exact List.forall_mem_map.2 hparts

theorem isPlain_literalStem (value : Value) :
    Nesting.isPlain (literalStem value) = true := by
  have harray : Nesting.isPlain "array" = true := by decide
  have hvalue : Nesting.isPlain "value" = true := by decide
  cases value with
  | list items => exact harray
  | _ => exact hvalue

theorem Placeholder.text_leads (placeholder : Placeholder) (depth : Nat) :
    Leads depth placeholder.text depth := by
  obtain ⟨name, collection⟩ := placeholder
  have hmark : Leads depth (if collection then "@@" else "@") depth := by
    cases collection <;> exact Nesting.leads_of_isPlain rfl depth
  have hname : Nesting.isPlain name.text = true :=
    Nesting.isPlain_of_isNameChar (Reading.isNameChar_of_isName name.isName_text)
  exact hmark.append (Nesting.leads_of_isPlain hname depth)

theorem rightTemplate_leads (operator : BinaryOperator) {depth : Nat}
    {right : Expr × Template} (hright : right.2.Leads depth depth) :
    (rightTemplate operator right).Leads depth depth := by
  unfold rightTemplate
  split
  · exact .hole rfl _ depth
  · exact hright

/-- What a node writes around its parts is closed. -/
theorem Node.template_leads {node : Node (Expr × Template)}
    (hclosed : node.isClosed = true)
    (hparts : ∀ part ∈ node.parts, part.2.Leads 0 0) :
    (Node.template node).Leads 0 0 := by
  have hinner : ∀ part ∈ node.parts, part.2.Leads 1 1 :=
    fun part hpart => (hparts part hpart).under 1
  have hcomma {templates : List Template}
      (htemplates : ∀ template ∈ templates, template.Leads 1 1) :
      (Template.intercalate ", " templates).Leads 1 1 :=
    .intercalate (by decide) htemplates
  cases node with
  | literal value => exact .hole (isPlain_literalStem value) value 0
  | reference path | old path => exact .ofText (of_decide_eq_true hclosed)
  | parameter placeholder => exact .ofText (placeholder.text_leads 0)
  | binary operator left right =>
      simp only [parts, List.forall_mem_cons] at hinner
      obtain ⟨hleft, hright, -⟩ := hinner
      have hoperator : Leads 1 (" " ++ operator.text ++ " ") 1 := by
        cases operator <;> decide
      exact .enclose 1 (by decide) (hleft.append
        (.text_cons hoperator (rightTemplate_leads operator hright)))
        (by decide)
  | unary operator operand =>
      have hoperator : Leads 0 operator.text 0 := by cases operator <;> decide
      exact .text_cons hoperator (hparts operand List.mem_cons_self)
  | call function arguments =>
      have hfunction : Leads 0 function 0 := of_decide_eq_true hclosed
      exact .enclose 1 (hfunction.append (by decide))
        (hcomma (List.forall_mem_map.2 hinner)) (by decide)
  | ternary condition thenValue elseValue =>
      simp only [parts, List.forall_mem_cons] at hinner
      obtain ⟨hcondition, hthen, helse, -⟩ := hinner
      exact .enclose 1 (by decide) ((hcondition.append
        (.text_cons (by decide) hthen)).append (.text_cons (by decide) helse))
        (by decide)
  | like subject pattern ignoreCase =>
      have hsubject := hinner subject List.mem_cons_self
      have hpattern : Template.Leads 1 [.hole "likePattern" (.text pattern)] 1 :=
        .hole rfl _ 1
      cases ignoreCase <;>
        exact .enclose 1 (by decide)
          (hsubject.append (.text_cons (by decide) hpattern)) (by decide)
  | regex subject pattern flags =>
      have hsubject := hinner subject List.mem_cons_self
      have hpattern : Template.Leads 1 [.hole "regexPattern" (.text pattern)] 1 :=
        .hole rfl _ 1
      refine .enclose 1 (by decide)
        (hsubject.append (.text_cons (by decide) hpattern)) ?_
      split <;> decide
  | quantified quantifier subject condition =>
      simp only [parts, List.forall_mem_cons] at hinner
      obtain ⟨hsubject, hcondition, -⟩ := hinner
      -- The condition is inside of two brackets, the subject of the first only.
      have hclosing : Leads 2 ("] " ++ quantifier.text ++ " == true)") 0 := by
        cases quantifier <;> decide
      have hopening : Leads 0 "(" 1 := by decide
      have hreturn : Leads 1 "[* RETURN " 2 := by decide
      exact .append (.text_cons hopening
        (hsubject.append (.text_cons hreturn (hcondition.under 1))))
        (.ofText hclosing)
  | unset document fields =>
      have hdocument := hinner document List.mem_cons_self
      refine .enclose 1 (by decide) (hcomma
        (List.forall_mem_cons.2 ⟨hdocument, List.forall_mem_map.2 ?_⟩))
        (by decide)
      exact fun field _ => .hole rfl _ 1
  | object members =>
      apply Document.template_leads
      rw [Document.parts_map]
      exact List.forall_mem_map.2 hinner
  | array items =>
      exact .enclose 1 (by decide) (hcomma (List.forall_mem_map.2 hinner))
        (by decide)
  | subquery query =>
      have hverbatim : ∀ text ∈ query.verbatim, Leads 1 text 1 := by
        simpa [isClosed] using hclosed
      exact .enclose 1 (by decide) (subqueryTemplate_leads hverbatim hinner)
        (by decide)
  | stray content => exact .halt _ 0 0

/-- The text of an expression is closed if all texts are that are written into it
as they are given. -/
theorem Expr.template_leads {expr : Expr} (hclosed : expr.isClosed = true) :
    expr.template.Leads 0 0 := by
  induction expr using Expr.induction with
  | step node hparts =>
      rw [isClosed_of, Bool.and_eq_true, List.all_eq_true] at hclosed
      rw [Expr.template, Expr.fold_of]
      apply Node.template_leads
      · rw [Node.isClosed_map]
        exact hclosed.1
      · rw [Node.parts_map]
        refine List.forall_mem_map.2 fun part hpart => ?_
        exact hparts part hpart (hclosed.2 part hpart)

end ArangoQuery
