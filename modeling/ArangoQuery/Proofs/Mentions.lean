import ArangoQuery.Proofs.Erasure
import ArangoQuery.Snapshot.Parameters

/-!
# Where names may be mentioned

A snapshot asks for a name in a text, in data or in a parameter node.
`Record.leaves` and `Node.leaves` list these places in the order in which the
snapshot shows them, with the expressions below in between.  Put together for all
levels they are the mentions of a query (`Query.mentions`).  Data that is blanked
stays where it is (`Query.mentions_withoutData`).

Words of the library's own, such as tags and operators, ask for nothing and are
left out.
-/

namespace ArangoQuery

open Record (members)

variable {α β : Type}

/-! ## Leaves -/

/-- A place in a clause: a text, data, or an expression below. -/
inductive Leaf (α : Type) where
  | text (content : String)
  | datum (value : Value)
  | part (part : α)

namespace Leaf

@[simp]
def map (f : α → β) : Leaf α → Leaf β
  | .text content => .text content
  | .datum value => .datum value
  | .part expr => .part (f expr)

@[simp]
def parts : Leaf α → List α
  | .part expr => [expr]
  | _ => []

def ofText (content : Option String) : List (Leaf α) :=
  content.toList.map .text

def ofTexts (contents : List String) : List (Leaf α) :=
  contents.map .text

def ofParts (parts : List α) : List (Leaf α) :=
  parts.map .part

/-- The places of named expressions, whose names are shown as texts. -/
def ofNamed (document : Document α) : List (Leaf α) :=
  List.flatMap (fun (name, expr) => [.text name, .part expr]) document

section Lemmas

variable (f : α → β)

@[simp]
theorem map_ofText (content : Option String) :
    (ofText content).map (map f) = ofText content := by
  simp [ofText, Function.comp_def]

@[simp]
theorem map_ofTexts (contents : List String) :
    (ofTexts contents).map (map f) = ofTexts contents := by
  simp [ofTexts, Function.comp_def]

@[simp]
theorem map_ofParts (parts : List α) :
    (ofParts parts).map (map f) = ofParts (parts.map f) := by
  simp [ofParts, Function.comp_def]

@[simp]
theorem map_ofNamed (document : Document α) :
    (ofNamed document).map (map f) = ofNamed (Document.map f document) := by
  simp [ofNamed, Document.map, List.map_flatMap, List.flatMap_map]

@[simp]
theorem parts_ofText (content : Option String) :
    (ofText content : List (Leaf α)).flatMap parts = [] := by
  cases content <;> rfl

@[simp]
theorem parts_ofTexts (contents : List String) :
    (ofTexts contents : List (Leaf α)).flatMap parts = [] := by
  simp [ofTexts, List.flatMap_map]

@[simp]
theorem parts_ofParts (exprs : List α) :
    (ofParts exprs).flatMap parts = exprs := by
  simp [ofParts, List.flatMap_map]

@[simp]
theorem parts_ofNamed (document : Document α) :
    (ofNamed document).flatMap parts = Document.parts document := by
  induction document with
  | nil => rfl
  | cons member rest hrest => exact congrArg (member.2 :: ·) hrest

end Lemmas

end Leaf

open Leaf (ofNamed ofParts ofText ofTexts)

/-! ## Sources and clauses -/

def Source.leaves : Source α → List (Leaf α)
  | .text name => [.text name]
  | .range _ _ => []
  | .graph traversal =>
      .text traversal.graph :: .text traversal.startVertex ::
        ofParts (Document.parts (members traversal.options))

namespace Slot

/-- The places of a field that takes whatever it is given. -/
def leaves {γ : Type} (proper : γ → List (Leaf α)) :
    Option (Slot γ) → List (Leaf α)
  | none => []
  | some (.proper content) => proper content
  | some (.stray content) => [.datum content]

def textLeaves : Option (Slot String) → List (Leaf α) :=
  leaves fun content => [.text content]

end Slot

def Join.leaves (join : Join α) : List (Leaf α) :=
  .text join.loop :: Slot.leaves Source.leaves join.source

def Collect.leaves (collect : Collect α) : List (Leaf α) :=
  [ofNamed collect.keys, ofText collect.into, ofNamed collect.aggregates,
    ofTexts (members collect.keep)].flatten

def SortKey.leaves (key : SortKey) : List (Leaf α) :=
  [.text key.field]

def Operation.leaves (operation : Operation α) : List (Leaf α) :=
  [Leaf.ofParts operation.document.toList, Slot.textLeaves operation.collection,
    ofText operation.target].flatten

def Upsert.leaves (upsert : Upsert α) : List (Leaf α) :=
  [.part upsert.search, .part upsert.insert, .part upsert.update,
    .text upsert.collection]

def Update.leaves (update : Update α) : List (Leaf α) :=
  .part update.document :: .part update.fields ::
    [ofText update.collection, ofText update.loop].flatten

def LoopNames.leaves (loop : LoopNames) : List (Leaf α) :=
  .text loop.vertex :: [ofText loop.edge, ofText loop.path].flatten

def Search.leaves (search : Search α) : List (Leaf α) :=
  .text search.view ::
    [ofParts search.conditions,
      ofParts (Document.parts (members search.options))].flatten

def Traversal.leaves (traversal : Traversal) : List (Leaf α) :=
  [.text traversal.loop, .text traversal.path]

def Window.leaves (window : Window α) : List (Leaf α) :=
  .part window.aggregation :: ofText window.name

/-- The bindings of a raw text as one datum. -/
def Leaf.ofBindings (bindings : Option (List (String × Value))) :
    List (Leaf α) :=
  bindings.toList.map fun bindings =>
    .datum (Description.document bindings)

/-- The places of a record, field by field. -/
def Record.leaves (record : Record α) : List (Leaf α) :=
  [ofText record.collection, Slot.textLeaves record.loop,
    Slot.leaves Source.leaves record.source, ofParts (members record.filters),
    ofParts (members record.filtersAfterCollect),
    (members record.joins).flatMap Join.leaves,
    ofNamed (members record.letsAfterCollect),
    ofNamed (members record.letsBeforeCollect),
    (members record.collects).flatMap Collect.leaves,
    (members record.sorts).flatMap SortKey.leaves,
    ofParts record.result.toList, Slot.leaves (fun _ => []) record.limit,
    Slot.leaves (fun _ => []) record.offset,
    (members record.operations).flatMap Operation.leaves,
    (members record.upserts).flatMap Upsert.leaves,
    (members record.updates).flatMap Update.leaves,
    record.loopNames.toList.flatMap LoopNames.leaves,
    (members record.searches).flatMap Search.leaves,
    (members record.traversals).flatMap Traversal.leaves,
    ofParts (members record.prunes),
    (members record.windows).flatMap Window.leaves,
    (members record.withCollections).flatMap fun name =>
      Slot.textLeaves (some name),
    ofText record.raw, Leaf.ofBindings record.rawBindings].flatten

/-- The places of a node.  A parameter is shown by its name, which asks for as
much as its placeholder does. -/
def Node.leaves : Node α → List (Leaf α)
  | .literal value => [.datum value]
  | .reference path => [.text path]
  | .parameter placeholder => [.text placeholder.text]
  | .binary _ left right => [.part left, .part right]
  | .unary _ operand => [.part operand]
  | .call function arguments => .text function :: ofParts arguments
  | .ternary condition thenValue elseValue =>
      [.part condition, .part thenValue, .part elseValue]
  | .like subject pattern _ => [.part subject, .datum (.text pattern)]
  | .regex subject pattern flags =>
      .part subject :: .datum (.text pattern) :: ofText flags
  | .old path => [.text path]
  | .quantified _ subject condition => [.part subject, .part condition]
  | .unset document fields =>
      .part document :: fields.map fun field => .datum (.text field)
  | .object members => ofParts (Document.parts members)
  | .array items => ofParts items
  | .subquery query => query.leaves
  | .stray content => [.datum content]

/-! ## Leaves under a map -/

section Map

variable (f : α → β)

theorem Source.map_leaves (source : Source α) :
    source.leaves.map (Leaf.map f) = (source.map f).leaves := by
  cases source with
  | text _ => rfl
  | range _ _ => rfl
  | graph traversal =>
      simp [leaves, Source.map, GraphSource.map, Record.members_document_map,
        Document.parts_map]

theorem Slot.map_leaves {γ : Type} {proper : γ → List (Leaf α)}
    {proper' : γ → List (Leaf β)}
    (hproper : ∀ content, (proper content).map (Leaf.map f) = proper' content)
    (slot : Option (Slot γ)) :
    (leaves proper slot).map (Leaf.map f) = leaves proper' slot := by
  rcases slot with _ | content | content
  · rfl
  · exact hproper content
  · rfl

theorem Slot.map_leaves_source (source : Option (Slot (Source α))) :
    (leaves Source.leaves source).map (Leaf.map f) =
      leaves Source.leaves (source.map (Slot.map (Source.map f))) := by
  rcases source with _ | source | content
  · rfl
  · exact source.map_leaves f
  · rfl

@[simp]
theorem Slot.map_textLeaves (slot : Option (Slot String)) :
    (textLeaves slot).map (Leaf.map f) = textLeaves slot :=
  map_leaves f (fun _ => rfl) slot

theorem Join.map_leaves (join : Join α) :
    join.leaves.map (Leaf.map f) = (join.map f).leaves := by
  simp [leaves, Join.map, Slot.map_leaves_source]

theorem Collect.map_leaves (collect : Collect α) :
    collect.leaves.map (Leaf.map f) = (collect.map f).leaves := by
  simp [leaves, Collect.map]

theorem SortKey.map_leaves (key : SortKey) :
    key.leaves.map (Leaf.map f) = key.leaves :=
  rfl

theorem Operation.map_leaves (operation : Operation α) :
    operation.leaves.map (Leaf.map f) = (operation.map f).leaves := by
  have hdocument : (operation.document.map f).toList =
      operation.document.toList.map f := by
    cases operation.document <;> rfl
  simp [leaves, Operation.map, hdocument]

theorem Upsert.map_leaves (upsert : Upsert α) :
    upsert.leaves.map (Leaf.map f) = (upsert.map f).leaves :=
  rfl

theorem Update.map_leaves (update : Update α) :
    update.leaves.map (Leaf.map f) = (update.map f).leaves := by
  simp [leaves, Update.map]

theorem LoopNames.map_leaves (loop : LoopNames) :
    loop.leaves.map (Leaf.map f) = loop.leaves := by
  simp [leaves]

theorem Search.map_leaves (search : Search α) :
    search.leaves.map (Leaf.map f) = (search.map f).leaves := by
  simp [leaves, Search.map, Record.members_document_map, Document.parts_map]

theorem Traversal.map_leaves (traversal : Traversal) :
    traversal.leaves.map (Leaf.map f) = traversal.leaves :=
  rfl

theorem Window.map_leaves (window : Window α) :
    window.leaves.map (Leaf.map f) = (window.map f).leaves := by
  simp [leaves, Window.map]

@[simp]
theorem Leaf.map_ofBindings (bindings : Option (List (String × Value))) :
    (ofBindings bindings).map (Leaf.map f) = ofBindings bindings := by
  simp [ofBindings, Function.comp_def]

namespace Record

theorem map_leaves_family {F : Type} {leaves : F → List (Leaf α)}
    {leaves' : F → List (Leaf β)}
    (hleaves : ∀ clause, (leaves clause).map (Leaf.map f) = leaves' clause)
    (clauses : List F) :
    (clauses.flatMap leaves).map (Leaf.map f) = clauses.flatMap leaves' := by
  simp [List.map_flatMap, hleaves]

theorem map_leaves (record : Record α) :
    record.leaves.map (Leaf.map f) = (record.map f).leaves := by
  have hresult : (record.result.map f).toList = record.result.toList.map f := by
    cases record.result <;> rfl
  have hcount (count : Option (Slot Int)) :
      (Slot.leaves (fun _ => []) count).map (Leaf.map f) =
        Slot.leaves (fun _ => []) count :=
    Slot.map_leaves f (fun _ => rfl) count
  have hcollection (name : Slot String) :
      (Slot.textLeaves (some name)).map (Leaf.map f) =
        Slot.textLeaves (some name) :=
    Slot.map_textLeaves f (some name)
  simp only [leaves, Record.map, List.map_flatten, List.map_cons, List.map_nil,
    Leaf.map_ofText, Leaf.map_ofParts, Leaf.map_ofNamed, Leaf.map_ofBindings,
    List.flatMap_map, members_map, members_document_map,
    Slot.map_textLeaves, Slot.map_leaves_source, hresult, hcount,
    map_leaves_family f (Join.map_leaves f),
    map_leaves_family f (Collect.map_leaves f),
    map_leaves_family f (SortKey.map_leaves f),
    map_leaves_family f (Operation.map_leaves f),
    map_leaves_family f (Upsert.map_leaves f),
    map_leaves_family f (Update.map_leaves f),
    map_leaves_family f (LoopNames.map_leaves f),
    map_leaves_family f (Search.map_leaves f),
    map_leaves_family f (Traversal.map_leaves f),
    map_leaves_family f (Window.map_leaves f),
    map_leaves_family f hcollection]

end Record

theorem Node.map_leaves (node : Node α) :
    node.leaves.map (Leaf.map f) = (node.map f).leaves := by
  cases node with
  | subquery query => exact query.map_leaves f
  | _ => simp [leaves, Node.map, Document.parts_map]

end Map

/-! ## Leaves and parts -/

section Parts

theorem Source.parts_leaves (source : Source α) :
    source.leaves.flatMap Leaf.parts = source.parts := by
  cases source <;> simp [leaves, parts]

theorem Slot.parts_leaves_source (source : Option (Slot (Source α))) :
    (leaves Source.leaves source).flatMap Leaf.parts = parts source := by
  rcases source with _ | source | content
  · rfl
  · exact source.parts_leaves
  · rfl

theorem Slot.parts_leaves_silent {γ : Type} {proper : γ → List (Leaf α)}
    (hproper : ∀ content, (proper content).flatMap Leaf.parts = [])
    (slot : Option (Slot γ)) :
    (leaves proper slot).flatMap Leaf.parts = [] := by
  rcases slot with _ | content | content
  · rfl
  · exact hproper content
  · rfl

@[simp]
theorem Slot.parts_textLeaves (slot : Option (Slot String)) :
    (textLeaves slot : List (Leaf α)).flatMap Leaf.parts = [] :=
  parts_leaves_silent (fun _ => rfl) slot

theorem Join.parts_leaves (join : Join α) :
    join.leaves.flatMap Leaf.parts = join.parts := by
  simp [leaves, parts, Slot.parts_leaves_source]

theorem Collect.parts_leaves (collect : Collect α) :
    collect.leaves.flatMap Leaf.parts = collect.parts := by
  simp [leaves, parts]

theorem SortKey.parts_leaves (key : SortKey) :
    (key.leaves : List (Leaf α)).flatMap Leaf.parts = [] :=
  rfl

theorem Operation.parts_leaves (operation : Operation α) :
    operation.leaves.flatMap Leaf.parts = operation.parts := by
  simp [leaves, parts]

theorem Upsert.parts_leaves (upsert : Upsert α) :
    upsert.leaves.flatMap Leaf.parts = upsert.parts :=
  rfl

theorem Update.parts_leaves (update : Update α) :
    update.leaves.flatMap Leaf.parts = update.parts := by
  simp [leaves, parts]

theorem LoopNames.parts_leaves (loop : LoopNames) :
    (loop.leaves : List (Leaf α)).flatMap Leaf.parts = [] := by
  simp [leaves]

theorem Search.parts_leaves (search : Search α) :
    search.leaves.flatMap Leaf.parts = search.parts := by
  simp [leaves, parts]

theorem Traversal.parts_leaves (traversal : Traversal) :
    (traversal.leaves : List (Leaf α)).flatMap Leaf.parts = [] :=
  rfl

theorem Window.parts_leaves (window : Window α) :
    window.leaves.flatMap Leaf.parts = window.parts := by
  simp [leaves, parts]

@[simp]
theorem Leaf.parts_ofBindings (bindings : Option (List (String × Value))) :
    (ofBindings bindings : List (Leaf α)).flatMap parts = [] := by
  cases bindings <;> rfl

namespace Record

variable {F : Type}

theorem parts_leaves_family {leaves : F → List (Leaf α)} {parts : F → List α}
    (hleaves : ∀ clause, (leaves clause).flatMap Leaf.parts = parts clause)
    (clauses : List F) :
    (clauses.flatMap leaves).flatMap Leaf.parts = clauses.flatMap parts := by
  simp [List.flatMap_assoc, hleaves]

theorem parts_leaves_silent {leaves : F → List (Leaf α)}
    (hleaves : ∀ clause, (leaves clause).flatMap Leaf.parts = [])
    (clauses : List F) :
    (clauses.flatMap leaves).flatMap Leaf.parts = [] := by
  simp [List.flatMap_assoc, hleaves]

theorem parts_leaves (record : Record α) :
    record.leaves.flatMap Leaf.parts = record.parts := by
  have hcount (count : Option (Slot Int)) :
      (Slot.leaves (fun _ => []) count).flatMap Leaf.parts = ([] : List α) :=
    Slot.parts_leaves_silent (fun _ => rfl) count
  simp only [leaves, parts, List.flatten_cons, List.flatten_nil,
    List.flatMap_append, Leaf.parts_ofText, Leaf.parts_ofParts, Leaf.parts_ofNamed,
    Leaf.parts_ofBindings, Slot.parts_textLeaves, Slot.parts_leaves_source,
    hcount, parts_leaves_family Join.parts_leaves,
    parts_leaves_family Collect.parts_leaves,
    parts_leaves_silent SortKey.parts_leaves,
    parts_leaves_family Operation.parts_leaves,
    parts_leaves_family Upsert.parts_leaves,
    parts_leaves_family Update.parts_leaves,
    parts_leaves_silent LoopNames.parts_leaves,
    parts_leaves_family Search.parts_leaves,
    parts_leaves_silent Traversal.parts_leaves,
    parts_leaves_family Window.parts_leaves,
    parts_leaves_silent fun name => Slot.parts_textLeaves (some name),
    List.flatMap_nil, List.nil_append]

end Record

theorem Node.parts_leaves (node : Node α) :
    node.leaves.flatMap Leaf.parts = node.parts := by
  cases node with
  | subquery query => exact query.parts_leaves
  | unset document fields =>
      simp [leaves, parts, List.flatMap_map]
  | _ => simp [leaves, parts]

end Parts

/-! ## Mentions -/

/-- A text or data that a snapshot shows. -/
inductive Mention where
  | text (content : String)
  | datum (value : Value)

namespace Mention

def names : Mention → List String
  | .text content => Value.placeholderNames content
  | .datum value => value.mentionedNames

def datum? : Mention → Option Value
  | .text _ => none
  | .datum value => some value

/-- The names asked for, unless they are data. -/
def ownNames : Mention → List String
  | .text content => Value.placeholderNames content
  | .datum _ => []

def blank : Mention → Mention
  | .text content => .text content
  | .datum _ => .datum .null

end Mention

namespace Leaf

/-- The mentions at a place, given those of the expressions. -/
def mentions (below : α → List Mention) : Leaf α → List Mention
  | .text content => [.text content]
  | .datum value => [.datum value]
  | .part expr => below expr

def blank : Leaf α → Leaf α
  | .datum _ => .datum .null
  | leaf => leaf

theorem mentions_map (below : β → List Mention) (f : α → β) (leaf : Leaf α) :
    mentions below (leaf.map f) = mentions (below ∘ f) leaf := by
  cases leaf <;> rfl

/-- The mentions of a clause depend on what its expressions mention. -/
theorem mentions_congr {leaves : List (Leaf α)} {below below' : α → List Mention}
    (hparts : ∀ part ∈ leaves.flatMap parts, below part = below' part) :
    leaves.flatMap (mentions below) = leaves.flatMap (mentions below') := by
  apply List.flatMap_congr
  intro leaf hleaf
  cases leaf with
  | part expr =>
      exact hparts expr (List.mem_flatMap.2 ⟨_, hleaf, List.mem_singleton_self _⟩)
  | _ => rfl

theorem blank_mentions (leaves : List (Leaf α)) (below : α → List Mention) :
    (leaves.flatMap (mentions below)).map Mention.blank =
      (leaves.map blank).flatMap
        (mentions fun expr => (below expr).map Mention.blank) := by
  rw [List.map_flatMap, List.flatMap_map]
  apply List.flatMap_congr
  intro leaf _
  cases leaf <;> rfl

@[simp]
theorem parts_blank (leaves : List (Leaf α)) :
    (leaves.map blank).flatMap parts = leaves.flatMap parts := by
  rw [List.flatMap_map]
  apply List.flatMap_congr
  intro leaf _
  cases leaf <;> rfl

end Leaf

/-- Everything in an expression that its snapshot shows as a text or as data. -/
def Expr.mentions : Expr → List Mention :=
  reduce fun node => node.leaves.flatMap (Leaf.mentions id)

theorem Expr.mentions_of (node : Node Expr) :
    (Expr.of node).mentions =
      node.leaves.flatMap (Leaf.mentions Expr.mentions) := by
  rw [Expr.mentions, reduce_of, ← Node.map_leaves, List.flatMap_map]
  simp only [Leaf.mentions_map, Function.id_comp]

/-- Everything in a query that its snapshot shows as a text or as data. -/
def Query.mentions (query : Query) : List Mention :=
  query.leaves.flatMap (Leaf.mentions Expr.mentions)

theorem Query.mentions_subquery (query : Query) :
    (Expr.subquery query).mentions = query.mentions :=
  Expr.mentions_of (.subquery query)

namespace Query

/-- The names that a query asks for outside its data. -/
def ownNames (query : Query) : List String :=
  query.mentions.flatMap Mention.ownNames

/-- The data of a query at all depths: literals, patterns, the names of unset
fields and raw bindings. -/
def data (query : Query) : List Value :=
  query.mentions.filterMap Mention.datum?

end Query

/-- A name is mentioned outside the data or in it. -/
theorem mem_flatMap_names {mentions : List Mention} {name : String} :
    name ∈ mentions.flatMap Mention.names ↔
      name ∈ mentions.flatMap Mention.ownNames ∨
        ∃ datum ∈ mentions.filterMap Mention.datum?,
          name ∈ datum.mentionedNames := by
  induction mentions with
  | nil => simp
  | cons mention rest hrest =>
      rw [List.flatMap_cons, List.flatMap_cons, List.mem_append,
        List.mem_append, hrest]
      cases mention with
      | text content => exact or_assoc.symm
      | datum value =>
          have hdata : (Mention.datum value :: rest).filterMap Mention.datum? =
              value :: rest.filterMap Mention.datum? := rfl
          rw [hdata, List.exists_mem_cons_iff]
          simp only [Mention.names, Mention.ownNames, List.not_mem_nil,
            false_or]
          exact or_left_comm

/-! ## Mentions without data -/

/-- Nothing remains of a literal, not even whether it is a list. -/
def Node.skeleton : Node α → Node α
  | .literal _ => .literal .null
  | node => node.withoutData

def Expr.skeleton : Expr → Expr :=
  reduce fun node => .of node.skeleton

/-- All of a query but its data. -/
def Query.skeleton (query : Query) : Query :=
  (query.map Expr.skeleton).withoutRawData

theorem Node.skeleton_map (f : α → β) (node : Node α) :
    (node.map f).skeleton = node.skeleton.map f := by
  cases node <;> rfl

theorem Expr.skeleton_of (node : Node Expr) :
    (Expr.of node).skeleton = .of (node.skeleton.map Expr.skeleton) := by
  rw [skeleton, reduce_of, Node.skeleton_map]

theorem Record.blank_leaves (record : Record α) :
    record.withoutRawData.leaves.map Leaf.blank =
      record.leaves.map Leaf.blank := by
  have hbindings :
      (Leaf.ofBindings (record.rawBindings.map blankBindings)).map Leaf.blank =
        (Leaf.ofBindings record.rawBindings).map (Leaf.blank (α := α)) := by
    cases record.rawBindings <;> rfl
  simp only [leaves, withoutRawData, List.map_flatten, List.map_cons,
    hbindings]

theorem Node.blank_leaves (node : Node α) :
    node.skeleton.leaves.map Leaf.blank = node.leaves.map Leaf.blank := by
  cases node with
  | subquery query => exact query.blank_leaves
  | unset document fields =>
      simp [leaves, skeleton, withoutData, Leaf.blank, Function.comp_def]
  | _ => rfl

theorem Expr.blank_mentions (expr : Expr) :
    expr.skeleton.mentions.map Mention.blank =
      expr.mentions.map Mention.blank := by
  induction expr using Expr.induction with
  | step node hparts =>
      rw [skeleton_of, mentions_of, mentions_of, ← Node.map_leaves,
        List.flatMap_map]
      simp only [Leaf.mentions_map]
      rw [Leaf.blank_mentions, Node.blank_leaves, Leaf.blank_mentions]
      apply Leaf.mentions_congr
      rw [Leaf.parts_blank, Node.parts_leaves]
      exact hparts

namespace Query

theorem blank_mentions (query : Query) :
    query.skeleton.mentions.map Mention.blank =
      query.mentions.map Mention.blank := by
  have hsubquery : Expr.subquery query.skeleton =
      (Expr.subquery query).skeleton :=
    (Expr.skeleton_of (.subquery query)).symm
  rw [← mentions_subquery, ← mentions_subquery, hsubquery,
    Expr.blank_mentions]

/-- Blanking data leaves every text and every datum where it is. -/
theorem mentions_of_skeleton_eq {left right : Query}
    (hdata : left.skeleton = right.skeleton) :
    left.mentions.map Mention.blank = right.mentions.map Mention.blank := by
  rw [← left.blank_mentions, ← right.blank_mentions, hdata]

end Query

end ArangoQuery
