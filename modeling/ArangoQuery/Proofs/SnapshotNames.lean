import ArangoQuery.Proofs.Mentions
import ArangoQuery.Proofs.SnapshotRoundTrip

/-!
# Names asked for by snapshots

A snapshot asks for the names that are mentioned in its query and for no others
(`Query.mentionedNames_snapshot`).  As snapshots are made from descriptions, this
is shown of one description after the other: `Asks` says that the dump of a
description asks for what the given places ask for.  The mapping that a typed
record is dumped to asks for nothing by itself, unless it is a parameter, and
neither does a document, whose members are typed records.
-/

namespace ArangoQuery

open Record (members)
open Leaf (ofNamed ofParts ofText ofTexts)

variable {α : Type}

/-! ## Texts and mappings that ask for nothing -/

namespace Value

theorem placeholderNames_eq_nil {content : String}
    (hcontent : startsWithAt content = false) :
    placeholderNames content = [] := by
  have hhead : content.toList.head? ≠ some '@' := of_decide_eq_false hcontent
  have hplaceholder : Placeholder.of? content = none := by
    rw [Placeholder.of?]
    unfold Placeholder.ofList?
    split
    · next hlist => exact absurd (hlist ▸ rfl) hhead
    · next hlist => exact absurd (hlist ▸ rfl) hhead
    · rfl
  rw [placeholderNames, hplaceholder]

theorem placeholderNames_text (placeholder : Placeholder) :
    placeholderNames placeholder.text =
      if placeholder.collection then [] else [placeholder.name.text] := by
  rw [placeholderNames, Placeholder.of?_text]

/-- The name of a parameter is not the placeholder of another. -/
theorem placeholderNames_name (name : ParameterName) :
    placeholderNames name.text = [] :=
  placeholderNames_eq_nil (decide_eq_false name.head_ne_at)

theorem mentionedNames_asCount (value : Value) :
    value.asCount.mentionedNames = value.mentionedNames := by
  unfold asCount
  split <;> rfl

theorem eq_null_of_isNull {value : Value} (hnull : value.isNull = true) :
    value = .null := by
  unfold isNull at hnull
  split at hnull
  · rfl
  · cases hnull

/-- The member of a mapping that tells whether it is a parameter. -/
def typeMember (entries : List (Scalar × Value)) : Value :=
  (lookupEntry Scalar.same (.text "type") entries).getD .null

theorem nodeNames_eq_nil {entries : List (Scalar × Value)}
    (htype : (typeMember entries).isTextOf "parameter" = false) :
    nodeNames entries = [] := by
  unfold typeMember at htype
  simp only [nodeNames, htype, Bool.false_and, Bool.false_eq_true, if_false]

end Value

/-! ## Fields of typed records -/

/-- What is dumped for a first field: nothing if it is unset. -/
theorem Value.dumpFields?_cons {label : Label} {value : Value}
    {rest : List (Label × Value)} {entries : Members}
    (hdump : dumpFields? .setFields ((label, value) :: rest) = some entries) :
    (value.isNull = true ∧ dumpFields? .setFields rest = some entries) ∨
      ∃ dumped others, value.dump? .setFields = some dumped ∧
        dumpFields? .setFields rest = some others ∧
        entries = (.text label.snapshot,
          if label.isCount then dumped.asCount else dumped) :: others := by
  cases hnull : value.isNull with
  | true =>
      rw [dumpFields?, hnull] at hdump
      exact .inl ⟨rfl, hdump⟩
  | false =>
      simp only [dumpFields?, hnull, Bool.and_false, Bool.false_eq_true,
        if_false, Option.bind_eq_bind, Option.bind_eq_some_iff,
        Option.pure_def, Option.some.injEq] at hdump
      obtain ⟨dumped, hvalue, others, hothers, rfl⟩ := hdump
      exact .inr ⟨dumped, others, hvalue, hothers, rfl⟩

/-- A field that could be taken for a tag holds one, and not that of a
parameter. -/
def Label.TagsApart (fields : List (Label × Value)) : Prop :=
  ∀ field ∈ fields, field.1.snapshot = "type" →
    ∃ tag, field.2 = .text tag ∧ tag ≠ "parameter"

theorem Label.tagsApart_of_labels {fields : List (Label × Value)}
    {labels : List Label} (hlabels : fields.map Prod.fst = labels)
    (huntagged : ∀ label ∈ labels, label.snapshot ≠ "type") :
    TagsApart fields := by
  subst hlabels
  intro field hfield htype
  exact absurd htype (huntagged field.1 (List.mem_map_of_mem hfield))

theorem typeMember_of_dumpFields? {fields : List (Label × Value)}
    {entries : Members} (htags : Label.TagsApart fields)
    (hdump : Value.dumpFields? .setFields fields = some entries) :
    (Value.typeMember entries).isTextOf "parameter" = false := by
  induction fields generalizing entries with
  | nil =>
      obtain rfl := Option.some.inj hdump
      rfl
  | cons field rest hrest =>
      obtain ⟨label, value⟩ := field
      obtain ⟨htag, htags⟩ := List.forall_mem_cons.1 htags
      rcases Value.dumpFields?_cons hdump with
        ⟨-, hdump⟩ | ⟨dumped, others, hvalue, hothers, rfl⟩
      · exact hrest htags hdump
      · by_cases htype : label.snapshot = "type"
        · obtain ⟨tag, rfl, hne⟩ := htag htype
          obtain rfl := Option.some.inj hvalue
          have htagged : (Value.text tag).isTextOf "parameter" = false :=
            beq_false_of_ne hne
          have hcount : (if label.isCount then (Value.text tag).asCount
              else .text tag) = .text tag := ite_self _
          have hsame : Scalar.same (.text label.snapshot) (.text "type") =
              true := by
            rw [htype]
            exact beq_self_eq_true _
          rw [Value.typeMember, lookupEntry, if_pos hsame]
          exact hcount ▸ htagged
        · have hother : Scalar.same (.text label.snapshot) (.text "type") =
              false := beq_false_of_ne htype
          have hlookup := hrest htags hothers
          rw [Value.typeMember] at hlookup ⊢
          rw [lookupEntry, hother]
          exact hlookup

/-! ## Descriptions and their places -/

/-- The names asked for at a place, given those that the expressions ask for. -/
def Leaf.names (below : α → List String) : Leaf α → List String
  | .text content => Value.placeholderNames content
  | .datum value => value.mentionedNames
  | .part expr => below expr

section Asking

variable {below : α → List String} {describe : α → Value}

/-- The dump of a description asks for the names at the given places. -/
def Asks (below : α → List String) (described : Value)
    (leaves : List (Leaf α)) : Prop :=
  ∀ dumped, described.dump? .setFields = some dumped →
    dumped.mentionedNames = leaves.flatMap (Leaf.names below)

/-- An expression is described as a typed record and asks for its names. -/
structure AsksAsNode (described : Value) (names : List String) : Prop where
  isModel : ∃ name fields, described = .model name fields
  asks : ∀ dumped, described.dump? .setFields = some dumped →
    dumped.mentionedNames = names

theorem asks_text (content : String) :
    Asks below (.text content) [.text content] := by
  intro dumped hdump
  obtain rfl := Option.some.inj hdump
  exact (List.append_nil _).symm

/-- A word of the library's own. -/
theorem asks_word {word : String} (hword : startsWithAt word = false) :
    Asks below (.text word) [] := by
  intro dumped hdump
  obtain rfl := Option.some.inj hdump
  exact Value.placeholderNames_eq_nil hword

theorem asks_null : Asks below .null [] := by
  intro dumped hdump
  obtain rfl := Option.some.inj hdump
  rfl

theorem asks_int (number : Int) : Asks below (.int number) [] := by
  intro dumped hdump
  obtain rfl := Option.some.inj hdump
  rfl

theorem asks_bool (value : Bool) : Asks below (.bool value) [] := by
  intro dumped hdump
  obtain rfl := Option.some.inj hdump
  rfl

theorem asks_someBool (value : Option Bool) :
    Asks below (.ofOption .bool value) [] := by
  cases value with
  | none => exact asks_null
  | some value => exact asks_bool value

theorem asks_datum {value : Value} (hdata : value.isJsonData = true) :
    Asks below value [.datum value] := by
  intro dumped hdump
  rw [Value.dump?_of_isJsonData _ hdata] at hdump
  obtain rfl := Option.some.inj hdump
  simp [Leaf.names]

theorem asks_part {part : α} {described : Value}
    (hpart : AsksAsNode described (below part)) :
    Asks below described [.part part] := by
  intro dumped hdump
  simp [Leaf.names, hpart.asks dumped hdump]

theorem asks_option {β : Type} {describe : β → Value}
    {leaves : β → List (Leaf α)} {option : Option β}
    (hasks : ∀ value ∈ option, Asks below (describe value) (leaves value)) :
    Asks below (.ofOption describe option) (option.toList.flatMap leaves) := by
  cases option with
  | none =>
      intro dumped hdump
      obtain rfl := Option.some.inj hdump
      rfl
  | some value =>
      intro dumped hdump
      simpa using hasks value rfl dumped hdump

theorem asks_items {β : Type} {describe : β → Value}
    {leaves : β → List (Leaf α)} {items : List β}
    (hasks : ∀ item ∈ items, Asks below (describe item) (leaves item))
    {dumped : List Value}
    (hdump : Value.dumpList? .setFields (items.map describe) = some dumped) :
    Value.mentionedInList dumped =
      (items.flatMap leaves).flatMap (Leaf.names below) := by
  induction items generalizing dumped with
  | nil =>
      obtain rfl := Option.some.inj hdump
      rfl
  | cons item rest hrest =>
      obtain ⟨hitem, htail⟩ := List.forall_mem_cons.1 hasks
      simp only [List.map_cons, Value.dumpList?, Option.bind_eq_bind,
        Option.bind_eq_some_iff, Option.pure_def, Option.some.injEq] at hdump
      obtain ⟨first, hfirst, others, hothers, rfl⟩ := hdump
      rw [Value.mentionedInList, hitem first hfirst, hrest htail hothers,
        List.flatMap_cons, List.flatMap_append]

theorem asks_list {β : Type} {describe : β → Value}
    {leaves : β → List (Leaf α)} {items : List β}
    (hasks : ∀ item ∈ items, Asks below (describe item) (leaves item)) :
    Asks below (.list (items.map describe)) (items.flatMap leaves) := by
  intro dumped hdump
  obtain ⟨dumped, hitems, rfl⟩ := Option.map_eq_some_iff.1 hdump
  exact asks_items hasks hitems

/-- A tuple is dumped as a list. -/
theorem asks_tuple {β : Type} {describe : β → Value}
    {leaves : β → List (Leaf α)} {items : List β}
    (hasks : ∀ item ∈ items, Asks below (describe item) (leaves item)) :
    Asks below (.tuple (items.map describe)) (items.flatMap leaves) := by
  intro dumped hdump
  obtain ⟨dumped, hitems, rfl⟩ := Option.map_eq_some_iff.1 hdump
  exact asks_items hasks hitems

/-- The members of a family. -/
theorem asks_family {β : Type} {describe : β → Value}
    {leaves : β → List (Leaf α)} {clauses : Option (List β)}
    (hasks : ∀ clause ∈ members clauses,
      Asks below (describe clause) (leaves clause)) :
    Asks below (describeFamily describe clauses)
      ((members clauses).flatMap leaves) := by
  cases clauses with
  | none =>
      intro dumped hdump
      obtain rfl := Option.some.inj hdump
      rfl
  | some clauses => exact asks_list hasks

/-! ### Typed records -/

theorem asks_entries {fields : List (Label × Value)}
    {leaves : List (List (Leaf α))}
    (hfields : List.Forall₂ (fun field => Asks below field.2) fields leaves)
    {entries : Members}
    (hdump : Value.dumpFields? .setFields fields = some entries) :
    Value.mentionedInEntries entries =
      leaves.flatten.flatMap (Leaf.names below) := by
  induction hfields generalizing entries with
  | nil =>
      obtain rfl := Option.some.inj hdump
      rfl
  | @cons field first fields leaves hfield _ hrest =>
      obtain ⟨label, value⟩ := field
      rw [List.flatten_cons, List.flatMap_append]
      rcases Value.dumpFields?_cons hdump with
        ⟨hnull, hdump⟩ | ⟨dumped, others, hvalue, hothers, rfl⟩
      · obtain rfl := Value.eq_null_of_isNull hnull
        rw [hrest hdump, ← hfield .null rfl]
        rfl
      · have hcount : (if label.isCount then dumped.asCount
            else dumped).mentionedNames = dumped.mentionedNames := by
          split
          · exact dumped.mentionedNames_asCount
          · rfl
        rw [Value.mentionedInEntries, hrest hothers, hcount,
          hfield dumped hvalue]

/-- A typed record asks for what its fields ask for. -/
theorem asks_model {name : String} {fields : List (Label × Value)}
    {places : List (List (Leaf α))} {leaves : List (Leaf α)}
    (htags : Label.TagsApart fields)
    (hfields : List.Forall₂ (fun field => Asks below field.2) fields places)
    (hleaves : places.flatten = leaves) :
    Asks below (.model name fields) leaves := by
  intro dumped hdump
  obtain ⟨entries, hentries, rfl⟩ := Option.map_eq_some_iff.1 hdump
  have htype := typeMember_of_dumpFields? htags hentries
  rw [Value.mentionedNames, Value.nodeNames_eq_nil htype, List.nil_append,
    asks_entries hfields hentries, hleaves]

/-! ### Documents -/

theorem AsksAsNode.isTextOf {described dumped : Value} {names : List String}
    (hasks : AsksAsNode described names)
    (hdump : described.dump? .setFields = some dumped) (word : String) :
    dumped.isTextOf word = false := by
  obtain ⟨name, fields, rfl⟩ := hasks.isModel
  obtain ⟨entries, -, rfl⟩ := Option.map_eq_some_iff.1 hdump
  rfl

/-- The members of a document are dumped under their names. -/
theorem asks_members {document : Document α}
    (hparts : ∀ part ∈ document.parts,
      AsksAsNode (describe part) (below part))
    {entries : Members}
    (hdump : Value.dumpEntries? .setFields (List.map (fun member =>
      (Scalar.text member.1, describe member.2)) document) = some entries) :
    entries.map Prod.fst = List.map (fun member => .text member.1) document ∧
      Value.mentionedInEntries entries = document.parts.flatMap below ∧
      ∀ entry ∈ entries, entry.2.isTextOf "parameter" = false := by
  induction document generalizing entries with
  | nil =>
      obtain rfl := Option.some.inj hdump
      exact ⟨rfl, rfl, fun _ hentry => absurd hentry List.not_mem_nil⟩
  | cons member rest hrest =>
      obtain ⟨hmember, htail⟩ := List.forall_mem_cons.1 hparts
      simp only [List.map_cons, Value.dumpEntries?, Option.bind_eq_bind,
        Option.bind_eq_some_iff, Option.pure_def, Option.some.injEq] at hdump
      obtain ⟨first, hfirst, others, hothers, rfl⟩ := hdump
      obtain ⟨hkeys, hnames, htypes⟩ := hrest htail hothers
      refine ⟨?_, ?_, ?_⟩
      · rw [List.map_cons, hkeys]
        rfl
      · rw [Value.mentionedInEntries, hmember.asks first hfirst, hnames]
        rfl
      · exact List.forall_mem_cons.2
          ⟨hmember.isTextOf hfirst _, htypes⟩

/-- No member makes a document a parameter, whatever its name is. -/
theorem asks_document {document : Document α}
    (hmapping : document.isMapping = true)
    (hparts : ∀ part ∈ document.parts,
      AsksAsNode (describe part) (below part)) :
    Asks below (Description.document (Document.map describe document))
      (ofParts document.parts) := by
  intro dumped hdump
  rw [Description.document, Document.map, List.map_map] at hdump
  obtain ⟨entries, hentries, rfl⟩ := Option.map_eq_some_iff.1 hdump
  obtain ⟨hkeys, hnames, htypes⟩ := asks_members hparts hentries
  have hapart : entries.Pairwise fun left right =>
      Scalar.same left.1 right.1 = false := by
    have hdistinct : (entries.map Prod.fst).Pairwise fun left right =>
        Scalar.same left right = false := by
      rw [hkeys]
      exact List.pairwise_map.2
        (List.pairwise_map.1 (pairwise_textKeys (of_decide_eq_true hmapping)))
    exact List.pairwise_map.1 hdistinct
  have htype : (Value.typeMember entries).isTextOf "parameter" = false := by
    rw [Value.typeMember]
    cases hlookup : lookupEntry Scalar.same (.text "type") entries with
    | none => rfl
    | some value =>
        obtain ⟨key, -, hentry⟩ := exists_of_lookupEntry hlookup
        exact htypes _ hentry
  rw [entriesOf_eq_self hapart, Value.mentionedNames,
    Value.nodeNames_eq_nil htype, List.nil_append, hnames, ofParts,
    List.flatMap_map]
  rfl

end Asking

section Clauses

attribute [local simp] Label.TagsApart Label.same Label.count Label.camel
  Label.camelChars

variable {below : α → List String} {describe : α → Value}

/-! ## Fields of texts and of expressions -/

theorem asks_someText (content : Option String) :
    Asks below (Description.someText content) (ofText content) := by
  rw [ofText, List.map_eq_flatMap]
  exact asks_option fun content _ => asks_text content

theorem asks_someInt (number : Option Int) :
    Asks below (Description.someInt number) [] := by
  cases number with
  | none => exact asks_null
  | some number => exact asks_int number

theorem asks_texts (contents : List String) :
    Asks below (Description.texts contents) (ofTexts contents) := by
  rw [ofTexts, List.map_eq_flatMap]
  exact asks_list fun content _ => asks_text content

/-- An expression, unless there is none. -/
theorem asks_somePart {part : Option α}
    (hpart : ∀ part' ∈ part, AsksAsNode (describe part') (below part')) :
    Asks below (.ofOption id (part.map describe)) (ofParts part.toList) := by
  rw [ofParts, List.map_eq_flatMap]
  cases part with
  | none => exact asks_null
  | some part => exact asks_part (hpart part rfl)

theorem asks_parts {parts : List α}
    (hparts : ∀ part ∈ parts, AsksAsNode (describe part) (below part)) :
    Asks below (.list (parts.map describe)) (ofParts parts) := by
  rw [ofParts, List.map_eq_flatMap (f := Leaf.part)]
  exact asks_list fun part hpart => asks_part (hparts part hpart)

theorem asks_partTuple {parts : List α}
    (hparts : ∀ part ∈ parts, AsksAsNode (describe part) (below part)) :
    Asks below (.tuple (parts.map describe)) (ofParts parts) := by
  rw [ofParts, List.map_eq_flatMap (f := Leaf.part)]
  exact asks_tuple fun part hpart => asks_part (hparts part hpart)

theorem asks_someParts {parts : Option (List α)}
    (hparts : ∀ part ∈ members parts,
      AsksAsNode (describe part) (below part)) :
    Asks below (describeFamily id (parts.map (List.map describe)))
      (ofParts (members parts)) := by
  cases parts with
  | none => exact asks_null
  | some parts =>
      show Asks below (.list ((parts.map describe).map id)) (ofParts parts)
      rw [List.map_id]
      exact asks_parts hparts

/-- A family of clauses, each of which asks for what its parts ask for. -/
theorem asks_clauses {F G : Type} {parts : F → List α} {f : F → G}
    {describeClause : G → Value} {leaves : F → List (Leaf α)}
    {family : Option (List F)}
    (hclause : ∀ clause ∈ members family,
      (∀ part ∈ parts clause, AsksAsNode (describe part) (below part)) →
      Asks below (describeClause (f clause)) (leaves clause))
    (hparts : ∀ part ∈ (members family).flatMap parts,
      AsksAsNode (describe part) (below part)) :
    Asks below (describeFamily describeClause (family.map (List.map f)))
      ((members family).flatMap leaves) := by
  cases family with
  | none => exact asks_null
  | some clauses =>
      show Asks below (.list ((clauses.map f).map describeClause))
        (clauses.flatMap leaves)
      rw [List.map_map]
      apply asks_list
      intro clause hmember
      apply hclause clause hmember
      intro part hpart
      exact hparts part (List.mem_flatMap.2 ⟨clause, hmember, hpart⟩)

/-- Named expressions, each under the names of the two fields. -/
theorem asks_named {name nameField partField : String}
    (hname : nameField ≠ "type") (hpart : partField ≠ "type")
    {document : Document α}
    (hparts : ∀ part ∈ document.parts,
      AsksAsNode (describe part) (below part)) :
    Asks below
      (.list (List.map (describeNamed name (.same nameField) (.same partField))
        (document.map describe)))
      (ofNamed document) := by
  rw [Document.map, List.map_map]
  apply asks_list
  intro member hmember
  exact asks_model (by simp [hname, hpart])
    (.cons (asks_text member.1) <| .cons (asks_part
      (hparts member.2 (List.mem_map_of_mem hmember))) .nil) rfl

theorem asks_lets {lets : Option (Document α)}
    (hparts : ∀ part ∈ Document.parts (members lets),
      AsksAsNode (describe part) (below part)) :
    Asks below
      (describeFamily describeLet (lets.map (Document.map describe)))
      (ofNamed (members lets)) := by
  cases lets with
  | none => exact asks_null
  | some document => exact asks_named (by simp) (by simp) hparts

/-- The bindings of a raw text. -/
theorem asks_bindings {bindings : Option (Document Value)}
    (hdata : bindings.all (fun bindings => bindings.isMapping &&
      bindings.parts.all Value.isJsonData) = true) :
    Asks below (.ofOption Description.document bindings)
      (Leaf.ofBindings bindings) := by
  cases bindings with
  | none => exact asks_null
  | some bindings =>
      obtain ⟨hmapping, hvalues⟩ := Bool.and_eq_true_iff.1 hdata
      exact asks_datum (Document.isJsonData_document hmapping hvalues)

/-! ## Sources -/

theorem Document.asks {document : Document α}
    (hmapping : document.isMapping = true)
    (hparts : ∀ part ∈ document.parts,
      AsksAsNode (describe part) (below part)) :
    Asks below (Description.object (document.map describe))
      (ofParts document.parts) :=
  asks_model (by simp)
    (.cons (asks_word rfl) <| .cons (asks_document hmapping hparts) .nil)
    (by simp)

theorem asks_someObject {options : Option (Document α)}
    (hmapping : options.all Document.isMapping = true)
    (hparts : ∀ part ∈ Document.parts (members options),
      AsksAsNode (describe part) (below part)) :
    Asks below (Description.someObject (options.map (Document.map describe)))
      (ofParts (Document.parts (members options))) := by
  cases options with
  | none => exact asks_null
  | some document => exact Document.asks hmapping hparts

theorem Source.asks {source : Source α} (hdata : source.isJsonData = true)
    (hparts : ∀ part ∈ source.parts,
      AsksAsNode (describe part) (below part)) :
    Asks below (source.map describe).describe source.leaves := by
  cases source with
  | text name => exact asks_text name
  | range first last =>
      exact asks_model (by simp)
        (.cons (asks_word rfl) <| .cons (asks_int first) <|
          .cons (asks_int last) .nil) rfl
  | graph traversal =>
      have hdirection : startsWithAt traversal.direction.text = false := by
        cases traversal.direction <;> rfl
      exact asks_model (by simp)
        (.cons (asks_word rfl) <| .cons (asks_text traversal.graph) <|
          .cons (asks_word hdirection) <|
          .cons (asks_text traversal.startVertex) <|
          .cons (asks_int traversal.minDepth) <|
          .cons (asks_someInt traversal.maxDepth) <|
          .cons (asks_someObject hdata hparts) .nil) (by simp [leaves])

/-- A field for a source that holds one or is unset. -/
theorem asks_source {source : Option (Source α)}
    (hdata : (source.map Slot.proper).all Slot.isJsonData = true)
    (hparts : ∀ part ∈ Slot.parts (source.map .proper),
      AsksAsNode (describe part) (below part)) :
    Asks below
      (.ofOption (Slot.describe Source.describe)
        ((source.map .proper).map (Slot.map (Source.map describe))))
      (Slot.leaves Source.leaves (source.map .proper)) := by
  cases source with
  | none => exact asks_null
  | some source => exact Source.asks hdata hparts

/-- A field for a name that holds one or is unset. -/
theorem asks_name (name : Option String) :
    Asks below (.ofOption (Slot.describe .text) (name.map .proper))
      (Slot.textLeaves (name.map .proper)) := by
  cases name with
  | none => exact asks_null
  | some name => exact asks_text name

theorem asks_names (names : Option (List String)) :
    Asks below
      (describeFamily (Slot.describe .text) (names.map (List.map .proper)))
      ((members (names.map (List.map .proper))).flatMap fun name =>
        Slot.textLeaves (some name)) := by
  apply asks_family
  intro name hname
  cases names with
  | none => exact absurd hname List.not_mem_nil
  | some names =>
      obtain ⟨name, -, rfl⟩ := List.mem_map.1 hname
      exact asks_text name

/-- A field for a count that holds one or is unset. -/
theorem asks_count (number : Option Int) :
    Asks below (.ofOption (Slot.describe .int) (number.map .proper))
      (Slot.leaves (fun _ => []) (number.map .proper)) := by
  cases number with
  | none => exact asks_null
  | some number => exact asks_int number

/-! ## Clauses -/

theorem Join.asks {join : Join α}
    (hproper : join.source.all Slot.isProper = true)
    (hdata : join.source.all Slot.isJsonData = true)
    (hparts : ∀ part ∈ join.parts, AsksAsNode (describe part) (below part)) :
    Asks below (join.map describe).describe join.leaves := by
  obtain ⟨loop, source⟩ := join
  obtain ⟨source, rfl⟩ := Slot.exists_content hproper
  exact asks_model (by simp)
    (.cons (asks_text loop) <| .cons (asks_source hdata hparts) .nil)
    (by simp [leaves])

theorem Collect.asks {collect : Collect α}
    (hparts : ∀ part ∈ collect.parts,
      AsksAsNode (describe part) (below part)) :
    Asks below (collect.map describe).describe collect.leaves := by
  obtain ⟨hkeys, haggregates⟩ := List.forall_mem_append.1 hparts
  have hkeep : Asks below (.ofOption Description.texts collect.keep)
      (ofTexts (members collect.keep)) := by
    cases collect.keep with
    | none => exact asks_null
    | some names => exact asks_texts names
  exact asks_model (by simp)
    (.cons (asks_named (by simp) (by simp) hkeys) <|
      .cons (asks_someText collect.into) <|
      .cons (asks_named (by simp) (by simp) haggregates) <|
      .cons hkeep .nil) rfl

theorem SortKey.asks (key : SortKey) : Asks below key.describe key.leaves := by
  have hdirection : startsWithAt key.direction.text = false := by
    cases key.direction <;> rfl
  exact asks_model (by simp)
    (.cons (asks_text key.field) <| .cons (asks_word hdirection) .nil) rfl

theorem Operation.asks {operation : Operation α}
    (hproper : operation.collection.all Slot.isProper = true)
    (hparts : ∀ part ∈ operation.parts,
      AsksAsNode (describe part) (below part)) :
    Asks below (operation.map describe).describe operation.leaves := by
  obtain ⟨kind, document, collection, target⟩ := operation
  obtain ⟨collection, rfl⟩ := Slot.exists_content hproper
  have hkind : startsWithAt kind.text = false ∧ kind.text ≠ "parameter" := by
    cases kind <;> exact ⟨rfl, by simp [OperationKind.text]⟩
  have hdocument : ∀ part ∈ document,
      AsksAsNode (describe part) (below part) := by
    intro part hpart
    exact hparts part (Option.mem_toList.2 hpart)
  exact asks_model (by simp [map, hkind.2])
    (.cons (asks_word hkind.1) <| .cons (asks_somePart hdocument) <|
      .cons (asks_name collection) <| .cons (asks_someText target) .nil) rfl

theorem Upsert.asks {upsert : Upsert α}
    (hparts : ∀ part ∈ upsert.parts,
      AsksAsNode (describe part) (below part)) :
    Asks below (upsert.map describe).describe upsert.leaves := by
  simp only [parts, List.forall_mem_cons] at hparts
  obtain ⟨hsearch, hinsert, hupdate, -⟩ := hparts
  exact asks_model (by simp)
    (.cons (asks_word rfl) <| .cons (asks_part hsearch) <|
      .cons (asks_part hinsert) <| .cons (asks_part hupdate) <|
      .cons (asks_text upsert.collection) .nil) rfl

theorem Update.asks {update : Update α}
    (hparts : ∀ part ∈ update.parts,
      AsksAsNode (describe part) (below part)) :
    Asks below (update.map describe).describe update.leaves := by
  simp only [parts, List.forall_mem_cons] at hparts
  obtain ⟨hdocument, hfields, -⟩ := hparts
  exact asks_model (by simp)
    (.cons (asks_word rfl) <| .cons (asks_part hdocument) <|
      .cons (asks_part hfields) <| .cons (asks_someText update.collection) <|
      .cons (asks_someText update.loop) <|
      .cons (asks_bool update.oldReference) .nil) rfl

theorem LoopNames.asks (loop : LoopNames) :
    Asks below loop.describe loop.leaves :=
  asks_model (by simp)
    (.cons (asks_text loop.vertex) <| .cons (asks_someText loop.edge) <|
      .cons (asks_someText loop.path) .nil) rfl

theorem Search.asks {search : Search α}
    (hmapping : search.options.all Document.isMapping = true)
    (hparts : ∀ part ∈ search.parts,
      AsksAsNode (describe part) (below part)) :
    Asks below (search.map describe).describe search.leaves := by
  obtain ⟨hconditions, hoptions⟩ := List.forall_mem_append.1 hparts
  exact asks_model (by simp)
    (.cons (asks_word rfl) <| .cons (asks_text search.view) <|
      .cons (asks_parts hconditions) <|
      .cons (asks_someObject hmapping hoptions) .nil) rfl

theorem Traversal.asks (traversal : Traversal) :
    Asks below traversal.describe traversal.leaves :=
  asks_model (by simp)
    (.cons (asks_word rfl) <| .cons (asks_text traversal.loop) <|
      .cons (asks_text traversal.path) <|
      .cons (asks_someInt traversal.minDepth) <|
      .cons (asks_someInt traversal.maxDepth) .nil) rfl

theorem asks_prune {condition : α}
    (hcondition : AsksAsNode (describe condition) (below condition)) :
    Asks below (describePrune (describe condition)) [.part condition] :=
  asks_model (by simp)
    (.cons (asks_word rfl) <| .cons (asks_part hcondition) .nil) rfl

theorem asks_prunes {conditions : Option (List α)}
    (hparts : ∀ part ∈ members conditions,
      AsksAsNode (describe part) (below part)) :
    Asks below
      (describeFamily describePrune (conditions.map (List.map describe)))
      (ofParts (members conditions)) := by
  cases conditions with
  | none => exact asks_null
  | some conditions =>
      show Asks below (.list ((conditions.map describe).map describePrune))
        (ofParts conditions)
      rw [List.map_map, ofParts, List.map_eq_flatMap (f := Leaf.part)]
      exact asks_list fun condition hcondition =>
        asks_prune (hparts condition hcondition)

theorem asks_bound (bound : Option Bound) :
    Asks below (.ofOption Bound.describe bound) [] := by
  rcases bound with _ | _ | count
  · exact asks_null
  · exact asks_word rfl
  · exact asks_int count

theorem Window.asks {window : Window α}
    (hparts : ∀ part ∈ window.parts,
      AsksAsNode (describe part) (below part)) :
    Asks below (window.map describe).describe window.leaves := by
  have haggregation := hparts window.aggregation (List.mem_singleton_self _)
  exact asks_model (by simp)
    (.cons (asks_word rfl) <| .cons (asks_bound window.preceding) <|
      .cons (asks_bound window.following) <|
      .cons (asks_part haggregation) <|
      .cons (asks_someText window.name) .nil) (by simp [leaves])

/-! ## Records and nodes -/

theorem Record.untagged_labels :
    ∀ label ∈ labels, label.snapshot ≠ "type" := by
  decide +kernel

theorem Record.asks {record : Record α} (hproper : record.isProper = true)
    (hdata : record.isJsonData = true)
    (hparts : ∀ part ∈ record.parts,
      AsksAsNode (describe part) (below part)) :
    Asks below (record.map describe).describe record.leaves := by
  obtain ⟨collection, loop, source, filters, filtersAfterCollect, joins,
    letsAfterCollect, letsBeforeCollect, collects, sorts, result, distinct,
    limit, offset, operations, upserts, updates, loopNames, searches,
    traversals, prunes, windows, withCollections, raw, rawBindings⟩ := record
  simp only [isProper, Bool.and_eq_true, List.all_eq_true] at hproper
  obtain ⟨⟨⟨⟨⟨⟨hloop, hsource⟩, hjoins⟩, hlimit⟩, hoffset⟩, hoperations⟩,
    hcollections⟩ := hproper
  obtain ⟨loop, rfl⟩ := Slot.exists_content hloop
  obtain ⟨source, rfl⟩ := Slot.exists_content hsource
  obtain ⟨limit, rfl⟩ := Slot.exists_content hlimit
  obtain ⟨offset, rfl⟩ := Slot.exists_content hoffset
  obtain ⟨collections, rfl⟩ :=
    Slot.exists_contents (List.all_eq_true.2 hcollections)
  simp only [isJsonData, Bool.and_eq_true, List.all_eq_true] at hdata
  obtain ⟨⟨⟨hsourceData, hjoinsData⟩, hsearchesData⟩, hbindings⟩ := hdata
  simp only [parts, List.forall_mem_flatten, List.forall_mem_cons] at hparts
  obtain ⟨hsourceParts, hfilters, hfiltersAfter, hjoinParts, hletsAfter,
    hletsBefore, hcollects, hresult, hoperationParts, hupserts, hupdates,
    hsearches, hprunes, hwindows, -⟩ := hparts
  have hresult' : ∀ part ∈ result,
      AsksAsNode (describe part) (below part) := by
    intro part hpart
    exact hresult part (Option.mem_toList.2 hpart)
  exact asks_model (Label.tagsApart_of_labels rfl untagged_labels)
    (.cons (asks_someText collection) <| .cons (asks_name loop) <|
      .cons (asks_source hsourceData hsourceParts) <|
      .cons (asks_someParts hfilters) <| .cons (asks_someParts hfiltersAfter) <|
      .cons (asks_clauses (fun join hjoin =>
          Join.asks (hjoins join hjoin) (hjoinsData join hjoin)) hjoinParts) <|
      .cons (asks_lets hletsAfter) <| .cons (asks_lets hletsBefore) <|
      .cons (asks_clauses (fun _ _ => Collect.asks) hcollects) <|
      .cons (asks_family fun key _ => key.asks) <|
      .cons (asks_somePart hresult') <|
      .cons (asks_someBool distinct) <|
      .cons (asks_count limit) <| .cons (asks_count offset) <|
      .cons (asks_clauses (fun operation hoperation =>
          Operation.asks (hoperations operation hoperation)) hoperationParts) <|
      .cons (asks_clauses (fun _ _ => Upsert.asks) hupserts) <|
      .cons (asks_clauses (fun _ _ => Update.asks) hupdates) <|
      .cons (asks_option fun loop _ => loop.asks) <|
      .cons (asks_clauses (fun search hsearch =>
          Search.asks (hsearchesData search hsearch)) hsearches) <|
      .cons (asks_family fun traversal _ => traversal.asks) <|
      .cons (asks_prunes hprunes) <|
      .cons (asks_clauses (fun _ _ => Window.asks) hwindows) <|
      .cons (asks_names collections) <| .cons (asks_someText raw) <|
      .cons (asks_bindings hbindings) .nil)
    rfl

/-- A parameter is shown by its name. -/
theorem asks_parameter (placeholder : Placeholder) :
    Asks below (Node.describe (.parameter placeholder))
      [.text placeholder.text] := by
  obtain ⟨name, collection⟩ := placeholder
  intro dumped hdump
  have hdumped : (Node.describe (.parameter ⟨name, collection⟩)).dump?
      .setFields = some (.map
        [(.text "type", .text "parameter"), (.text "name", .text name.text),
          (.text "isCollectionParam", .bool collection)]) := rfl
  obtain rfl := Option.some.inj (hdumped.symm.trans hdump)
  have hset : name.text ≠ "" := by
    intro hempty
    have hvalid := name.isName_text
    rw [hempty] at hvalid
    cases hvalid
  have hnode : Value.nodeNames
      [(.text "type", .text "parameter"), (.text "name", .text name.text),
        (.text "isCollectionParam", .bool collection)] =
      if collection then [] else [name.text] := by
    cases collection <;>
      simp [Value.nodeNames, lookupEntry, Scalar.same, Value.isTextOf,
        Value.isTrue, Scalar.isTrue, hset]
  have htag : Value.placeholderNames "parameter" = [] :=
    Value.placeholderNames_eq_nil rfl
  simp [Value.mentionedNames, Value.mentionedInEntries, hnode, htag,
    Value.placeholderNames_name, Leaf.names, Value.placeholderNames_text]

theorem Node.asks {node : Node α} (hproper : node.isProper = true)
    (hdata : node.isJsonData = true)
    (hparts : ∀ part ∈ node.parts, AsksAsNode (describe part) (below part)) :
    Asks below (node.map describe).describe node.leaves := by
  cases node with
  | literal value =>
      exact asks_model (by simp)
        (.cons (asks_word rfl) <| .cons (asks_datum hdata) .nil) rfl
  | reference path =>
      exact asks_model (by simp)
        (.cons (asks_word rfl) <| .cons (asks_text path) .nil) rfl
  | parameter placeholder => exact asks_parameter placeholder
  | binary operator left right =>
      have hoperator : startsWithAt operator.text = false := by
        cases operator <;> rfl
      simp only [parts, List.forall_mem_cons] at hparts
      obtain ⟨hleft, hright, -⟩ := hparts
      exact asks_model (by simp)
        (.cons (asks_word rfl) <| .cons (asks_word hoperator) <|
          .cons (asks_part hleft) <| .cons (asks_part hright) .nil) rfl
  | unary operator operand =>
      have hoperator : startsWithAt operator.text = false := by
        cases operator <;> rfl
      have hoperand := hparts operand (List.mem_singleton_self _)
      exact asks_model (by simp)
        (.cons (asks_word rfl) <| .cons (asks_word hoperator) <|
          .cons (asks_part hoperand) .nil) rfl
  | call function arguments =>
      exact asks_model (by simp)
        (.cons (asks_word rfl) <| .cons (asks_text function) <|
          .cons (asks_partTuple hparts) .nil) (by simp [leaves])
  | ternary condition thenValue elseValue =>
      simp only [parts, List.forall_mem_cons] at hparts
      obtain ⟨hcondition, hthen, helse, -⟩ := hparts
      exact asks_model (by simp)
        (.cons (asks_word rfl) <| .cons (asks_part hcondition) <|
          .cons (asks_part hthen) <| .cons (asks_part helse) .nil) rfl
  | like subject pattern ignoreCase =>
      have hsubject := hparts subject (List.mem_singleton_self _)
      exact asks_model (by simp)
        (.cons (asks_word rfl) <| .cons (asks_part hsubject) <|
          .cons (asks_datum rfl) <| .cons (asks_bool ignoreCase) .nil) rfl
  | regex subject pattern flags =>
      have hsubject := hparts subject (List.mem_singleton_self _)
      exact asks_model (by simp)
        (.cons (asks_word rfl) <| .cons (asks_part hsubject) <|
          .cons (asks_datum rfl) <| .cons (asks_someText flags) .nil)
        (by simp [leaves])
  | old path =>
      exact asks_model (by simp)
        (.cons (asks_word rfl) <| .cons (asks_text path) .nil) rfl
  | quantified quantifier subject condition =>
      simp only [parts, List.forall_mem_cons] at hparts
      obtain ⟨hsubject, hcondition, -⟩ := hparts
      cases quantifier with
      | all =>
          exact asks_model (by simp)
            (.cons (asks_word rfl) <| .cons (asks_part hsubject) <|
              .cons (asks_part hcondition) .nil) rfl
      | any =>
          exact asks_model (by simp)
            (.cons (asks_word rfl) <| .cons (asks_part hsubject) <|
              .cons (asks_part hcondition) .nil) rfl
  | unset document fields =>
      have hdocument := hparts document (List.mem_singleton_self _)
      have hfields : Asks below (.tuple (fields.map .text))
          (fields.map fun field => .datum (.text field)) := by
        rw [List.map_eq_flatMap (f := fun field => Leaf.datum (.text field))]
        exact asks_tuple fun field _ => asks_datum rfl
      exact asks_model (by simp [Label.unsetDocument])
        (.cons (asks_word rfl) <| .cons (asks_part hdocument) <|
          .cons hfields .nil) (by simp [leaves])
  | object members => exact Document.asks hdata hparts
  | array items =>
      exact asks_model (by simp)
        (.cons (asks_word rfl) <| .cons (asks_partTuple hparts) .nil)
        (by simp [leaves])
  | subquery query =>
      exact asks_model (by simp)
        (.cons (asks_word rfl) <|
          .cons (Record.asks hproper hdata hparts) .nil)
        (by simp [leaves])
  | stray content => cases hproper

end Clauses

/-! ## Expressions and queries -/

theorem Leaf.names_mentions (leaves : List (Leaf α))
    (below : α → List Mention) :
    (leaves.flatMap (mentions below)).flatMap Mention.names =
      leaves.flatMap (names fun expr => (below expr).flatMap Mention.names) := by
  rw [List.flatMap_assoc]
  apply List.flatMap_congr
  intro leaf _
  cases leaf with
  | part expr => rfl
  | _ => simp [mentions, names, Mention.names]

theorem Node.exists_model {node : Node Value} (hproper : node.isProper = true) :
    ∃ name fields, node.describe = .model name fields := by
  cases node with
  | quantified quantifier subject condition =>
      cases quantifier <;> exact ⟨_, _, rfl⟩
  | stray content => cases hproper
  | _ => exact ⟨_, _, rfl⟩

/-- By induction over expressions: a node asks for what its parts ask for and
for what it mentions itself. -/
theorem Expr.asks (expr : Expr) (htyped : expr.isTyped = true)
    (hdata : expr.holdsData = true) :
    AsksAsNode expr.describe (expr.mentions.flatMap Mention.names) := by
  induction expr using Expr.induction with
  | step node hparts =>
      rw [isTyped_of, Bool.and_eq_true, List.all_eq_true] at htyped
      rw [holdsData_of, Bool.and_eq_true, List.all_eq_true] at hdata
      have hproper : (node.map describe).isProper = true :=
        (Node.isProper_map ..).trans htyped.1
      rw [describe_of, mentions_of, Leaf.names_mentions]
      refine ⟨Node.exists_model hproper, ?_⟩
      apply Node.asks htyped.1 hdata.1
      intro part hpart
      exact hparts part hpart (htyped.2 part hpart) (hdata.2 part hpart)

namespace Query

variable {query : Query} {snapshot : Value}

/-- The snapshot of a query asks for the names that the query mentions. -/
theorem mentionedNames_snapshot (htyped : query.isTyped = true)
    (hdata : query.holdsData = true)
    (hsnapshot : query.snapshot? = some snapshot) :
    snapshot.mentionedNames = query.mentions.flatMap Mention.names := by
  rw [isTyped, Expr.isTyped_of, Bool.and_eq_true, List.all_eq_true] at htyped
  rw [holdsData, Expr.holdsData_of, Bool.and_eq_true,
    List.all_eq_true] at hdata
  have hasks := Record.asks htyped.1 hdata.1 fun part hpart =>
    part.asks (htyped.2 part hpart) (hdata.2 part hpart)
  rw [hasks snapshot hsnapshot, mentions, Leaf.names_mentions]

theorem parameterNames?_eq (htyped : query.isTyped = true)
    (hdata : query.holdsData = true) :
    query.parameterNames? =
      some (query.mentions.flatMap Mention.names).eraseDups := by
  obtain ⟨snapshot, hsnapshot, -⟩ := restores htyped hdata
  rw [parameterNames?, hsnapshot, Option.map_some, Value.parameterNames,
    mentionedNames_snapshot htyped hdata hsnapshot]

end Query

end ArangoQuery
