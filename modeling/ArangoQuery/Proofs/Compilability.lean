import ArangoQuery.Proofs.LastValue
import ArangoQuery.Proofs.RenderedParts
import Mathlib.Data.List.TakeWhile

/-!
# Compilable queries

A query is compilable if a handful of conditions hold (`Query.IsCompilable`), and
the list of its faults is empty exactly then.  Compiling a query checks every
query that is rendered inside it, at any depth (`Query.renderedQueries`), so that
a typed query without raw subqueries compiles exactly if all of them are
compilable; in all other cases the error says what is wrong with one of them
(`Query.compiles_iff`).
-/

namespace ArangoQuery

open Record (members)

/-! ## When a query is compilable -/

/-- A field that is given and not empty. -/
def Slot.IsNamed (name : Option (Slot String)) : Prop :=
  ∃ text, name = some (.proper text) ∧ text ≠ ""

/-- A source other than an empty name. -/
def Slot.IsGiven (source : Option (Slot (Source Expr))) : Prop :=
  ∃ content, source = some (.proper content) ∧ content ≠ .text ""

/-- Depths are not negative, and the greatest is no less than the smallest. -/
structure AreDepths (minimum maximum : Option Int) : Prop where
  minimum_nonneg : ∀ depth ∈ minimum, 0 ≤ depth
  maximum_nonneg : ∀ depth ∈ maximum, 0 ≤ depth
  ordered : ∀ least ∈ minimum, ∀ greatest ∈ maximum, least ≤ greatest

/-- A name with an at sign is the placeholder of a parameter. -/
def Source.IsSound : Source Expr → Prop
  | .text name =>
      startsWithAt name = true →
        ∃ placeholder : Placeholder, placeholder.text = name
  | .range _ _ => True
  | .graph traversal => AreDepths (some traversal.minDepth) traversal.maxDepth

namespace Query

/-- What a query has to satisfy on its own, whatever its subqueries. -/
structure IsCompilable (query : Query) : Prop where
  loop_source : Slot.IsNamed query.loop ∨ query.loopNames.isSome →
    Slot.IsGiven query.source
  join_source : ∀ join ∈ members query.joins, Slot.IsGiven join.source
  source_sound : ∀ source, query.source = some (.proper source) →
    source.IsSound
  join_sound : ∀ join ∈ members query.joins, ∀ source,
    join.source = some (.proper source) → source.IsSound
  view_is_source : ∀ search ∈ members query.searches,
    ∀ source ∈ query.source, source = .proper (.text search.view)
  traversal_depths : ∀ traversal ∈ members query.traversals,
    AreDepths traversal.minDepth traversal.maxDepth
  operation_collection : ∀ operation ∈ members query.operations,
    Slot.IsNamed operation.collection
  update_collection : ∀ update ∈ members query.updates,
    ∃ name, update.collection = some name ∧ name ≠ ""
  limit_nonneg : ∀ count, query.limit = some (.proper count) → 0 ≤ count
  offset_nonneg : ∀ count, query.offset = some (.proper count) → 0 ≤ count
  offset_limit : query.offset.isSome → query.limit.isSome
  preceding_nonneg : ∀ window ∈ members query.windows, ∀ count,
    window.preceding = some (.rows count) → 0 ≤ count
  following_nonneg : ∀ window ∈ members query.windows, ∀ count,
    window.following = some (.rows count) → 0 ≤ count

end Query

/-! ## Faults -/

section Faults

theorem Slot.isPresentText_iff {name : Option (Slot String)}
    (hproper : name.all Slot.isProper = true) :
    Slot.isPresentText name = true ↔ Slot.IsNamed name := by
  rcases name with _ | text | content
  · simp [Slot.isPresentText, Slot.IsNamed]
  · simp [Slot.isPresentText, Slot.IsNamed]
  · exact absurd hproper Bool.false_ne_true

theorem Slot.isPresentSource_iff {source : Option (Slot (Source Expr))}
    (hproper : source.all Slot.isProper = true) :
    Slot.isPresentSource source = true ↔ Slot.IsGiven source := by
  rcases source with _ | ⟨name | _ | _⟩ | content
  · simp [Slot.isPresentSource, Slot.IsGiven]
  · simp [Slot.isPresentSource, Source.isPresent, Slot.IsGiven]
  · simp [Slot.isPresentSource, Source.isPresent, Slot.IsGiven]
  · simp [Slot.isPresentSource, Source.isPresent, Slot.IsGiven]
  · exact absurd hproper Bool.false_ne_true

theorem ParameterName.text_of_of? {text : String} {name : ParameterName}
    (hread : ParameterName.of? text = some name) : name.text = text := by
  unfold ParameterName.of? at hread
  split at hread
  · obtain rfl := Option.some.inj hread
    rfl
  · cases hread

theorem Placeholder.text_of_ofList? {chars : List Char}
    {placeholder : Placeholder}
    (hread : Placeholder.ofList? chars = some placeholder) :
    placeholder.text = String.ofList chars := by
  unfold Placeholder.ofList? at hread
  split at hread
  · obtain ⟨name, hname, rfl⟩ := Option.map_eq_some_iff.1 hread
    rw [Placeholder.text, ParameterName.text_of_of? hname]
    simp [String.ext_iff]
  · obtain ⟨name, hname, rfl⟩ := Option.map_eq_some_iff.1 hread
    rw [Placeholder.text, ParameterName.text_of_of? hname]
    simp
  · cases hread

theorem isPlaceholder_iff {text : String} :
    isPlaceholder text = true ↔
      ∃ placeholder : Placeholder, placeholder.text = text := by
  rw [isPlaceholder, Option.isSome_iff_exists]
  constructor
  · rintro ⟨placeholder, hread⟩
    have htext := Placeholder.text_of_ofList? hread
    exact ⟨placeholder, htext.trans (String.ofList_toList ..)⟩
  · rintro ⟨placeholder, rfl⟩
    exact ⟨placeholder, placeholder.of?_text⟩

namespace ConfigurationFault

theorem ofDepths_eq_nil_iff (field : SourceField)
    (minimum maximum : Option Int) :
    ofDepths field minimum maximum = [] ↔ AreDepths minimum maximum := by
  have hdepths : AreDepths minimum maximum ↔
      (∀ depth ∈ minimum, 0 ≤ depth) ∧ (∀ depth ∈ maximum, 0 ≤ depth) ∧
        ∀ least ∈ minimum, ∀ greatest ∈ maximum, least ≤ greatest :=
    ⟨fun h => ⟨h.1, h.2, h.3⟩, fun h => ⟨h.1, h.2.1, h.2.2⟩⟩
  rw [hdepths]
  rcases minimum with _ | minimum <;> rcases maximum with _ | maximum <;>
    simp [ofDepths, ofDepth]

theorem ofSource_eq_nil_iff (field : SourceField)
    {source : Option (Slot (Source Expr))} :
    ofSource field source = [] ↔
      ∀ content, source = some (.proper content) → content.IsSound := by
  rcases source with _ | ⟨name | _ | traversal⟩ | content
  · simp [ofSource]
  · simp [ofSource, Source.IsSound, ← isPlaceholder_iff]
  · simp [ofSource, Source.IsSound]
  · simp [ofSource, Source.IsSound, ofDepths_eq_nil_iff]
  · simp [ofSource]

theorem ofCount_eq_nil_iff (field : CountField) {count : Option (Slot Int)}
    (hproper : count.all Slot.isProper = true) :
    ofCount field count = [] ↔
      ∀ content, count = some (.proper content) → 0 ≤ content := by
  rcases count with _ | count | content
  · simp [ofCount]
  · simp [ofCount]
  · exact absurd hproper Bool.false_ne_true

theorem ofBound_eq_nil_iff (side : WindowSide) (bound : Option Bound) :
    ofBound side bound = [] ↔
      ∀ count, bound = some (.rows count) → 0 ≤ count := by
  rcases bound with _ | _ | count <;> simp [ofBound]

end ConfigurationFault

namespace Query

open ConfigurationFault

variable {query : Query}

theorem loopFaults_eq_nil_iff (hproper : query.isProper = true) :
    query.loopFaults = [] ↔
      (Slot.IsNamed query.loop ∨ query.loopNames.isSome →
        Slot.IsGiven query.source) ∧
      ∀ join ∈ members query.joins, Slot.IsGiven join.source := by
  simp only [Record.isProper, Bool.and_eq_true, List.all_eq_true] at hproper
  obtain ⟨⟨⟨⟨⟨⟨hloop, hsource⟩, hjoins⟩, -⟩, -⟩, -⟩, -⟩ := hproper
  have hjoin : (∀ join ∈ members query.joins, Slot.IsGiven join.source) ↔
      ∀ join ∈ members query.joins,
        Slot.isPresentSource join.source = true :=
    forall₂_congr fun join hjoin =>
      (Slot.isPresentSource_iff (hjoins join hjoin)).symm
  rw [hjoin, ← Slot.isPresentText_iff hloop, ← Slot.isPresentSource_iff hsource]
  simp only [loopFaults, List.append_eq_nil_iff, List.flatMap_eq_nil_iff]
  cases Slot.isPresentSource query.source <;>
    rcases query.loop with _ | loop <;> cases query.loopNames <;>
    simp [Slot.isPresentText]

theorem sourceFaults_eq_nil_iff :
    query.sourceFaults = [] ↔
      (∀ source, query.source = some (.proper source) → source.IsSound) ∧
      ∀ join ∈ members query.joins, ∀ source,
        join.source = some (.proper source) → source.IsSound := by
  simp only [sourceFaults, List.append_eq_nil_iff, List.flatMap_eq_nil_iff,
    ofSource_eq_nil_iff]

theorem searchFaults_eq_nil_iff :
    query.searchFaults = [] ↔
      ∀ search ∈ members query.searches, ∀ source ∈ query.source,
        source = .proper (.text search.view) := by
  simp only [searchFaults, List.flatMap_eq_nil_iff]
  refine forall₂_congr fun search _ => ?_
  rcases query.source with _ | ⟨name | _ | _⟩ | _ <;> simp [eq_comm]

theorem traversalFaults_eq_nil_iff :
    query.traversalFaults = [] ↔
      ∀ traversal ∈ members query.traversals,
        AreDepths traversal.minDepth traversal.maxDepth := by
  simp only [traversalFaults, List.flatMap_eq_nil_iff, ofDepths_eq_nil_iff]

theorem modificationFaults_eq_nil_iff (hproper : query.isProper = true) :
    query.modificationFaults = [] ↔
      (∀ operation ∈ members query.operations,
        Slot.IsNamed operation.collection) ∧
      ∀ update ∈ members query.updates,
        ∃ name, update.collection = some name ∧ name ≠ "" := by
  simp only [Record.isProper, Bool.and_eq_true, List.all_eq_true] at hproper
  obtain ⟨⟨-, hoperations⟩, -⟩ := hproper
  have hoperation :
      (∀ operation ∈ members query.operations,
        Slot.IsNamed operation.collection) ↔
      ∀ operation ∈ members query.operations,
        Slot.isPresentText operation.collection = true :=
    forall₂_congr fun operation hoperation =>
      (Slot.isPresentText_iff (hoperations operation hoperation)).symm
  have hupdate (name : Option String) :
      (∃ text, name = some text ∧ text ≠ "") ↔ name.getD "" ≠ "" := by
    cases name <;> simp
  simp only [hoperation, hupdate, modificationFaults,
    List.append_eq_nil_iff, ite_eq_left_iff, List.cons_ne_nil, imp_false,
    not_not, List.all_eq_true, bne_iff_ne]

theorem countFaults_eq_nil_iff (hproper : query.isProper = true) :
    query.countFaults = [] ↔
      (∀ count, query.limit = some (.proper count) → 0 ≤ count) ∧
      (∀ count, query.offset = some (.proper count) → 0 ≤ count) ∧
      (query.offset.isSome → query.limit.isSome) := by
  simp only [Record.isProper, Bool.and_eq_true] at hproper
  obtain ⟨⟨⟨⟨-, hlimit⟩, hoffset⟩, -⟩, -⟩ := hproper
  simp only [countFaults, List.append_eq_nil_iff,
    ofCount_eq_nil_iff _ hlimit, ofCount_eq_nil_iff _ hoffset, and_assoc]
  cases query.limit <;> cases query.offset <;> simp

theorem windowFaults_eq_nil_iff :
    query.windowFaults = [] ↔
      ∀ window ∈ members query.windows,
        (∀ count, window.preceding = some (.rows count) → 0 ≤ count) ∧
        ∀ count, window.following = some (.rows count) → 0 ≤ count := by
  simp only [windowFaults, List.flatMap_eq_nil_iff, List.append_eq_nil_iff,
    ofBound_eq_nil_iff]

/-- A query has no faults exactly if it is compilable. -/
theorem faults_eq_nil_iff (hproper : query.isProper = true) :
    query.faults = [] ↔ query.IsCompilable := by
  simp only [faults, List.append_eq_nil_iff, loopFaults_eq_nil_iff hproper,
    sourceFaults_eq_nil_iff, searchFaults_eq_nil_iff,
    traversalFaults_eq_nil_iff, modificationFaults_eq_nil_iff hproper,
    countFaults_eq_nil_iff hproper, windowFaults_eq_nil_iff]
  constructor
  · rintro ⟨⟨⟨⟨⟨⟨⟨hloop, hjoins⟩, hsource, hjoinSources⟩, hsearches⟩,
      htraversals⟩, hoperations, hupdates⟩, hlimit, hoffset, hboth⟩, hwindows⟩
    exact
      { loop_source := hloop
        join_source := hjoins
        source_sound := hsource
        join_sound := hjoinSources
        view_is_source := hsearches
        traversal_depths := htraversals
        operation_collection := hoperations
        update_collection := hupdates
        limit_nonneg := hlimit
        offset_nonneg := hoffset
        offset_limit := hboth
        preceding_nonneg := fun window hwindow => (hwindows window hwindow).1
        following_nonneg := fun window hwindow => (hwindows window hwindow).2 }
  · intro h
    exact ⟨⟨⟨⟨⟨⟨⟨h.loop_source, h.join_source⟩, h.source_sound, h.join_sound⟩,
      h.view_is_source⟩, h.traversal_depths⟩, h.operation_collection,
      h.update_collection⟩, h.limit_nonneg, h.offset_nonneg, h.offset_limit⟩,
      fun window hwindow => ⟨h.preceding_nonneg window hwindow,
        h.following_nonneg window hwindow⟩⟩

end Query
end Faults

/-! ## Queries that are rendered -/

/-- The queries rendered by a node whose parts render others.  Raw text is taken
over as it is. -/
def Node.renderedQueries (node : Node (Expr × List Query)) : List Query :=
  match node with
  | .subquery query =>
      match query.raw with
      | some _ => []
      | none =>
          query.map Prod.fst ::
            (query.map Prod.snd).renderedParts.flatten
  | node => (node.map Prod.snd).parts.flatten

/-- The queries that rendering an expression comes to, at any depth. -/
def Expr.renderedQueries : Expr → List Query :=
  Expr.fold Node.renderedQueries

namespace Expr

theorem renderedQueries_of {node : Node Expr}
    (hnode : ∀ query, node ≠ .subquery query) :
    (Expr.of node).renderedQueries =
      node.parts.flatMap renderedQueries := by
  have hparts :
      ((node.map (withFold Node.renderedQueries)).map Prod.snd).parts =
        node.parts.map renderedQueries := by
    rw [Node.map_map, Node.parts_map]
    rfl
  rw [renderedQueries, fold_of, ← renderedQueries, List.flatMap_def, ← hparts]
  cases node with
  | subquery query => exact absurd rfl (hnode query)
  | _ => rfl

theorem renderedQueries_raw {query : Query} {raw : String}
    (hraw : query.raw = some raw) :
    (Expr.subquery query).renderedQueries = [] := by
  have hraw' : (query.map (withFold Node.renderedQueries)).raw = some raw :=
    hraw
  rw [renderedQueries, fold_of]
  simp only [Node.map, Node.renderedQueries, hraw']

theorem renderedQueries_subquery {query : Query} (hraw : query.raw = none) :
    (Expr.subquery query).renderedQueries =
      query :: query.renderedParts.flatMap renderedQueries := by
  have hraw' : (query.map (withFold Node.renderedQueries)).raw = none := hraw
  rw [renderedQueries, fold_of]
  simp only [Node.map, Node.renderedQueries, hraw', Query.map_fst_withFold,
    Query.map_snd_withFold, Record.renderedParts_map]
  rfl

end Expr

/-- A query proper and the queries that are rendered inside it, at any depth. -/
def Query.renderedQueries (query : Query) : List Query :=
  (Expr.subquery query).renderedQueries

/-! ## Where rendering halts -/

namespace Piece

/-- Does rendering halt here because something is not of its type? -/
def isTypeHalt : Piece → Bool
  | .halt (.configuration _) => false
  | .halt _ => true
  | _ => false

end Piece

namespace Record

/-- The list of collections of a typed record can be written. -/
theorem any_withLines {test : Piece → Bool}
    (htext : ∀ content, test (.text content) = false)
    {record : Record Template} (hproper : record.isProper = true) :
    (record.withLines.any fun line => line.any test) = false := by
  have hnames (position : Nat) (collections : List (Slot String))
      (hcollections : collections.all Slot.isProper = true) :
      ∃ names, withLine position collections = .ok names := by
    induction collections generalizing position with
    | nil => exact ⟨[], rfl⟩
    | cons collection rest hrest =>
        rw [List.all_cons, Bool.and_eq_true] at hcollections
        obtain ⟨names, hnames⟩ := hrest (position + 1) hcollections.2
        cases collection with
        | proper name => exact ⟨name :: names, by rw [withLine, hnames]; rfl⟩
        | stray content => exact absurd hcollections.1 Bool.false_ne_true
  simp only [isProper, Bool.and_eq_true] at hproper
  obtain ⟨names, hwith⟩ := hnames 0 (members record.withCollections) hproper.2
  rw [withLines]
  cases hcollections : members record.withCollections with
  | nil => rfl
  | cons collection rest =>
      rw [hcollections] at hwith
      simp [hwith, Template.any_ofText htext]

end Record

namespace Expr

section Tests

variable {test : Piece → Bool}
variable (htext : ∀ content, test (.text content) = false)
variable (hhole : ∀ stem value, test (.hole stem value) = false)

include hhole in
theorem any_rightTemplate (operator : BinaryOperator) (right : Expr) :
    (rightTemplate operator (withFold Node.template right)).any test =
      right.template.any test := by
  have hhole' (stem : String) (value : Value) :
      List.any [Piece.hole stem value] test = false := by
    simp [hhole]
  rw [rightTemplate]
  split
  · rename_i hright
    have hliteral : right = .literal (.list _) := hright
    rw [hliteral, hhole']
    exact (hhole' _ _).symm
  · rfl

include htext hhole

/-- Only the parts of a node can halt its template. -/
theorem any_template {node : Node Expr}
    (hnode : ∀ query, node ≠ .subquery query)
    (hproper : node.isProper = true) :
    (Expr.of node).template.any test =
      node.parts.any fun part => part.template.any test := by
  have hparts (parts : List Expr) :
      ((parts.map (withFold Node.template)).map Prod.snd).any
        (fun part => part.any test) =
        parts.any fun part => part.template.any test := by
    simp only [List.any_map]
    rfl
  have hpart (part : Expr) :
      (withFold Node.template part).2 = part.template := rfl
  rw [template, fold_of, ← template]
  cases node with
  | literal value => simp [Node.map, Node.template, Node.parts, hhole]
  | reference path => exact Template.any_ofText htext path
  | parameter placeholder => exact Template.any_ofText htext _
  | binary operator left right =>
      simp [Node.map, Node.template, Node.parts, Template.any_enclose htext,
        htext, hpart, any_rightTemplate hhole]
  | unary operator operand =>
      simp [Node.map, Node.template, Node.parts, htext, hpart]
  | call function arguments =>
      simp only [Node.map, Node.template, Node.parts,
        Template.any_enclose htext, Template.any_intercalate htext, hparts]
  | ternary condition thenValue elseValue =>
      simp [Node.map, Node.template, Node.parts, Template.any_enclose htext,
        htext, hpart]
  | like subject pattern ignoreCase =>
      cases ignoreCase <;>
        simp [Node.map, Node.template, Node.parts,
          Template.any_enclose htext, htext, hhole, hpart]
  | regex subject pattern flags =>
      simp [Node.map, Node.template, Node.parts, Template.any_enclose htext,
        htext, hhole, hpart]
  | old path => exact Template.any_ofText htext path
  | quantified quantifier subject condition =>
      simp [Node.map, Node.template, Node.parts, Template.any_enclose htext,
        htext, hpart]
  | unset document fields =>
      simp [Node.map, Node.template, Node.parts, Template.any_enclose htext,
        Template.any_intercalate htext, hhole, hpart, Function.comp_def]
  | object members =>
      have hmembers : Document.parts (Document.map Prod.snd
          (Document.map (withFold Node.template) members)) =
          ((Document.parts members).map (withFold Node.template)).map
            Prod.snd := by
        rw [Document.parts_map, Document.parts_map]
      simp only [Node.map, Node.template, Node.parts,
        Document.any_template htext, hmembers, hparts]
  | array items =>
      simp only [Node.map, Node.template, Node.parts,
        Template.any_enclose htext, Template.any_intercalate htext, hparts]
  | subquery query => exact absurd rfl (hnode query)
  | stray content => exact absurd hproper Bool.false_ne_true

end Tests

theorem template_subquery (query : Query) :
    (Expr.subquery query).template =
      Template.enclose "(" query.template ")" := by
  rw [template, fold_of]
  rfl

theorem any_template_subquery
    {test : Piece → Bool} (htext : ∀ content, test (.text content) = false)
    (query : Query) :
    (Expr.subquery query).template.any test = query.template.any test := by
  rw [template_subquery, Template.any_enclose htext]

end Expr

namespace Query

variable {query : Query}

/-- A query that has no faults of its own is halted by what is rendered inside. -/
theorem any_template
    {test : Piece → Bool} (htext : ∀ content, test (.text content) = false)
    (hraw : query.raw = none) (hproper : query.isProper = true)
    (hfaults : query.faults = []) :
    query.template.any test =
      query.renderedParts.any fun part => part.template.any test := by
  have hlinesProper : query.lineTemplates.isProper = true := by
    rw [lineTemplates, Record.isProper_map, hproper]
  rw [template_of_sound hraw hfaults, Record.any_template htext,
    Record.any_withLines htext hlinesProper, Bool.false_or, lineTemplates,
    Record.renderedParts_map, List.any_map]
  rfl

end Query

namespace Expr

/-- What halts some of the parts is a fault in one of their queries. -/
theorem any_isHalt_iff {parts : List Expr}
    (hparts : ∀ part ∈ parts, part.template.any Piece.isHalt = true ↔
      ∃ query ∈ part.renderedQueries, query.faults ≠ []) :
    (parts.any fun part => part.template.any Piece.isHalt) = true ↔
      ∃ query ∈ parts.flatMap renderedQueries, query.faults ≠ [] := by
  rw [List.any_eq_true]
  constructor
  · rintro ⟨part, hpart, hhalt⟩
    obtain ⟨query, hquery, hfaults⟩ := (hparts part hpart).1 hhalt
    exact ⟨query, List.mem_flatMap.2 ⟨part, hpart, hquery⟩, hfaults⟩
  · rintro ⟨query, hquery, hfaults⟩
    obtain ⟨part, hpart, hquery⟩ := List.mem_flatMap.1 hquery
    exact ⟨part, hpart, (hparts part hpart).2 ⟨query, hquery, hfaults⟩⟩

/-- What holds of raw subqueries, and holds of queries and of other nodes as soon
as it holds of their parts, holds of every typed expression. -/
@[elab_as_elim]
theorem typed_induction {motive : Expr → Prop}
    (raw : ∀ (query : Query) (text : String), query.raw = some text →
      motive (.subquery query))
    (rendered : ∀ query : Query, query.raw = none → query.isProper = true →
      (∀ part ∈ query.renderedParts, motive part) → motive (.subquery query))
    (other : ∀ node : Node Expr, (∀ query, node ≠ .subquery query) →
      node.isProper = true → (∀ part ∈ node.parts, motive part) →
      motive (.of node))
    (expr : Expr) (htyped : expr.isTyped = true) : motive expr := by
  induction expr using Expr.induction with
  | step node hparts =>
      rw [isTyped_of, Bool.and_eq_true, List.all_eq_true] at htyped
      have hbelow : ∀ part ∈ node.parts, motive part := by
        intro part hpart
        exact hparts part hpart (htyped.2 part hpart)
      by_cases hnode : ∃ query : Query, node = .subquery query
      · obtain ⟨query, rfl⟩ := hnode
        cases hraw : query.raw with
        | some text => exact raw query text hraw
        | none =>
            apply rendered query hraw htyped.1
            intro part hpart
            exact hbelow part (query.renderedParts_subset hpart)
      · apply other node _ htyped.1 hbelow
        intro query hquery
        exact hnode ⟨query, hquery⟩

/-- Rendering a typed expression halts exactly if one of the queries that it
comes to has a fault. -/
theorem isHalt_iff (expr : Expr) (htyped : expr.isTyped = true) :
    expr.template.any Piece.isHalt = true ↔
      ∃ query ∈ expr.renderedQueries, query.faults ≠ [] := by
  have htext (content : String) : Piece.isHalt (.text content) = false := rfl
  have hhole (stem : String) (value : Value) :
      Piece.isHalt (.hole stem value) = false := rfl
  refine typed_induction ?raw ?rendered ?other expr htyped
  case raw =>
    intro query text hraw
    rw [any_template_subquery htext, renderedQueries_raw hraw,
      Query.template_of_raw hraw]
    simp [Piece.isHalt]
  case rendered =>
    intro query hraw hproper hparts
    rw [any_template_subquery htext, renderedQueries_subquery hraw]
    cases hfaults : query.faults with
    | cons fault rest =>
        rw [Query.template_of_fault hraw hfaults]
        simp [Piece.isHalt, hfaults]
    | nil =>
        rw [Query.any_template htext hraw hproper hfaults,
          any_isHalt_iff hparts]
        simp [hfaults]
  case other =>
    intro node hnode hproper hparts
    rw [any_template htext hhole hnode hproper, renderedQueries_of hnode]
    exact any_isHalt_iff hparts

/-- Nothing in a typed expression is of a wrong type. -/
theorem any_isTypeHalt (expr : Expr) (htyped : expr.isTyped = true) :
    expr.template.any Piece.isTypeHalt = false := by
  have htext (content : String) : Piece.isTypeHalt (.text content) = false :=
    rfl
  have hhole (stem : String) (value : Value) :
      Piece.isTypeHalt (.hole stem value) = false := rfl
  refine typed_induction ?raw ?rendered ?other expr htyped
  case raw =>
    intro query text hraw
    rw [any_template_subquery htext, Query.template_of_raw hraw]
    rfl
  case rendered =>
    intro query hraw hproper hparts
    rw [any_template_subquery htext]
    cases hfaults : query.faults with
    | cons fault rest =>
        rw [Query.template_of_fault hraw hfaults]
        rfl
    | nil =>
        rw [Query.any_template htext hraw hproper hfaults, List.any_eq_false]
        intro part hpart
        exact ne_true_of_eq_false (hparts part hpart)
  case other =>
    intro node hnode hproper hparts
    rw [any_template htext hhole hnode hproper, List.any_eq_false]
    intro part hpart
    exact ne_true_of_eq_false (hparts part hpart)

theorem isProper_of_renderedQueries (expr : Expr)
    (htyped : expr.isTyped = true) :
    ∀ query ∈ expr.renderedQueries, query.isProper = true := by
  have hbelow {parts : List Expr} (hparts : ∀ part ∈ parts,
      ∀ query ∈ part.renderedQueries, query.isProper = true) :
      ∀ query ∈ parts.flatMap renderedQueries, query.isProper = true := by
    intro query hquery
    obtain ⟨part, hpart, hquery⟩ := List.mem_flatMap.1 hquery
    exact hparts part hpart query hquery
  refine typed_induction ?raw ?rendered ?other expr htyped
  case raw =>
    intro query text hraw
    rw [renderedQueries_raw hraw]
    exact List.forall_mem_nil _
  case rendered =>
    intro query hraw hproper hparts
    rw [renderedQueries_subquery hraw]
    exact List.forall_mem_cons.2 ⟨hproper, hbelow hparts⟩
  case other =>
    intro node hnode hproper hparts
    rw [renderedQueries_of hnode]
    exact hbelow hparts

end Expr

namespace Query

variable {query : Query}

theorem any_isHalt_template_iff (htyped : query.isTyped = true) :
    query.template.any Piece.isHalt = true ↔
      ¬ ∀ rendered ∈ query.renderedQueries, rendered.IsCompilable := by
  have hfaults (rendered : Query) (hrendered : rendered ∈ query.renderedQueries) :
      rendered.faults = [] ↔ rendered.IsCompilable :=
    faults_eq_nil_iff
      (Expr.isProper_of_renderedQueries _ htyped rendered hrendered)
  rw [← Expr.any_template_subquery (fun _ => rfl), Expr.isHalt_iff _ htyped]
  push Not
  exact exists_congr fun rendered => and_congr_right fun hrendered =>
    (hfaults rendered hrendered).not

/-- A query without raw subqueries is filled exactly if nothing halts it. -/
theorem exists_compile_iff (hraw : query.raw = none)
    (hsubqueries : ¬ query.RendersRawSubquery) :
    (∃ compiled, query.compile = .ok compiled) ↔
      query.template.any Piece.isHalt = false := by
  constructor
  · rintro ⟨compiled, hcompile⟩
    rw [List.any_eq_false]
    intro piece hpiece hhalt
    have hplain := isPlain_of_compile hraw hsubqueries hcompile piece hpiece
    simp [Piece.isPlain, hhalt] at hplain
  · intro hhalts
    rw [List.any_eq_false] at hhalts
    have hreached : query.template.reached = query.template :=
      List.takeWhile_eq_self_iff.2 fun piece hpiece => by
        simpa using hhalts piece hpiece
    have hplain : ∀ piece ∈ query.template, piece.isPlain = true := by
      intro piece hpiece
      have hadopt : piece.isAdopt = false := by
        by_contra hadopt
        rw [← hreached] at hpiece
        exact hsubqueries ⟨hraw, piece, hpiece, by simpa using hadopt⟩
      simp [Piece.isPlain, hadopt, hhalts piece hpiece]
    exact ⟨_, compile_of_isPlain hraw hplain⟩

/-- A typed query fails with a configuration error or not at all. -/
theorem exists_fault_of_error (hraw : query.raw = none)
    (htyped : query.isTyped = true) {error : Error}
    (hcompile : query.compile = .error error) :
    ∃ fault, error = .configuration fault := by
  rw [compile_eq hraw] at hcompile
  cases hfill : Template.fill query.template {} with
  | ok filled => simp [hfill, bind, Except.bind, pure, Except.pure] at hcompile
  | error error' =>
      obtain rfl : error' = error := by
        simpa [hfill, bind, Except.bind] using hcompile
      rcases Template.fill_error_cases hfill with hhalt | ⟨name, rfl⟩
      · have htype := Expr.any_isTypeHalt _ htyped
        rw [Expr.any_template_subquery (fun _ => rfl), List.any_eq_false]
          at htype
        have herror := htype _ hhalt
        cases error' with
        | configuration fault => exact ⟨fault, rfl⟩
        | _ => exact absurd rfl herror
      · exact ⟨_, rfl⟩

/-- A typed query that renders no raw subquery compiles exactly if it and all
queries rendered inside it are compilable.  If one of them is not, compiling ends
in a configuration error. -/
theorem compiles_iff_all_compilable (hraw : query.raw = none)
    (htyped : query.isTyped = true)
    (hsubqueries : ¬ query.RendersRawSubquery) :
    ((∃ compiled, query.compile = .ok compiled) ↔
        ∀ rendered ∈ query.renderedQueries, rendered.IsCompilable) ∧
      ((¬ ∀ rendered ∈ query.renderedQueries, rendered.IsCompilable) →
        ∃ fault, query.compile = .error (.configuration fault)) := by
  have hiff : (∃ compiled, query.compile = .ok compiled) ↔
      ∀ rendered ∈ query.renderedQueries, rendered.IsCompilable := by
    rw [exists_compile_iff hraw hsubqueries, ← Bool.not_eq_true,
      any_isHalt_template_iff htyped, not_not]
  refine ⟨hiff, fun hnot => ?_⟩
  cases hcompile : query.compile with
  | ok compiled => exact absurd (hiff.1 ⟨compiled, hcompile⟩) hnot
  | error error =>
      obtain ⟨fault, rfl⟩ := exists_fault_of_error hraw htyped hcompile
      exact ⟨fault, rfl⟩

/-- The vertices around a given one, with a nested query among the options of the
traversal. -/
def nestedInOptions (nested : Query) : Query where
  loopNames := some { vertex := "v", edge := none, path := none }
  source := some (.proper (.graph
    { graph := "routes", direction := .any, startVertex := "@start",
      minDepth := 1, maxDepth := some 2,
      options := some [("filter", .array [.subquery nested])] }))
  result := some (.reference "v")

/-- A fault is found in a query among the options of a traversal, but not in the
document of a removal, which is not rendered. -/
theorem nestedInOptions_compiles_iff :
    (∃ fault, (nestedInOptions { offset := some (.proper 1) }).compile =
        .error (.configuration fault)) ∧
      ∃ compiled, (nestedInOptions
        { operations := some
            [{ kind := .remove,
               document := some (.subquery { offset := some (.proper 1) }),
               collection := some (.proper "old"),
               target := some "v" }] }).compile = .ok compiled := by
  constructor
  · let skipping : Query := { offset := some (.proper 1) }
    have hrendered : skipping ∈ (nestedInOptions skipping).renderedQueries :=
      List.mem_cons_of_mem _ (List.mem_cons_self ..)
    refine (compiles_iff_all_compilable rfl rfl (by decide +kernel)).2 ?_
    intro hall
    exact absurd ((hall skipping hrendered).offset_limit rfl)
      Bool.false_ne_true
  · refine (compiles_iff_all_compilable rfl rfl (by decide +kernel)).1.2 ?_
    intro rendered hrendered
    have hpair := List.mem_pair.1 hrendered
    rcases hpair with rfl | rfl
    · exact (faults_eq_nil_iff rfl).1 rfl
    · exact (faults_eq_nil_iff rfl).1 rfl

end Query

end ArangoQuery
