import ArangoQuery.Proofs.SnapshotFields
import ArangoQuery.Proofs.Typed

/-!
# Snapshots of clauses

Every clause is restored from its description as soon as the expressions in it
are.  Records are made of clauses, and nodes of expressions and records, so the
same holds of them: each lemma lists how the fields are read, in the order of
the description.  Documents have to give every name once, and literal data has to
be data.
-/

namespace ArangoQuery

open Check
open Record (members)

variable {α ε : Type}

/-! ## Records of data -/

/-- Does a document give every name once, as a mapping does? -/
def Document.isMapping (document : Document α) : Bool :=
  decide (List.map Prod.fst document).Nodup

def Source.isJsonData : Source α → Bool
  | .graph traversal => traversal.options.all Document.isMapping
  | _ => true

def Slot.isJsonData : Slot (Source α) → Bool
  | .proper source => source.isJsonData
  | .stray _ => true

/-- Are the options mappings, and the bindings of a raw text JSON data? -/
def Record.isJsonData (record : Record α) : Bool :=
  record.source.all Slot.isJsonData &&
    (members record.joins).all (fun join => join.source.all Slot.isJsonData) &&
    (members record.searches).all
      (fun search => search.options.all Document.isMapping) &&
    record.rawBindings.all fun bindings =>
      Document.isMapping bindings &&
        (Document.parts bindings).all Value.isJsonData

def Node.isJsonData : Node α → Bool
  | .literal value => value.isJsonData
  | .object members => Document.isMapping members
  | .subquery query => query.isJsonData
  | _ => true

/-- A field whose content is of its type. -/
theorem Slot.exists_content {option : Option (Slot α)}
    (hproper : option.all Slot.isProper = true) :
    ∃ content : Option α, option = content.map .proper := by
  rcases option with _ | content | _
  · exact ⟨none, rfl⟩
  · exact ⟨some content, rfl⟩
  · cases hproper

theorem Slot.exists_contents {family : Option (List (Slot α))}
    (hproper : (members family).all Slot.isProper = true) :
    ∃ contents : Option (List α), family = contents.map (List.map .proper) := by
  have hlist (slots : List (Slot α)) (hslots : slots.all isProper = true) :
      ∃ contents, slots = List.map .proper contents := by
    induction slots with
    | nil => exact ⟨[], rfl⟩
    | cons slot rest hrest =>
        rw [List.all_cons, Bool.and_eq_true] at hslots
        obtain ⟨contents, rfl⟩ := hrest hslots.2
        cases slot with
        | proper content => exact ⟨content :: contents, rfl⟩
        | stray content => cases hslots.1
  cases family with
  | none => exact ⟨none, rfl⟩
  | some slots =>
      obtain ⟨contents, rfl⟩ := hlist slots hproper
      exact ⟨some contents, rfl⟩

section Clauses

attribute [local simp] Label.AreApart Label.same Label.count Label.camel
  Label.camelChars

variable {check : Nat → Value → Checked ε} {describe : ε → Value}

/-! ## Fields of expressions and of names -/

namespace ReadsBack

variable {own snapshot : String}

/-- An expression, unless there is none. -/
theorem part {part : Option ε}
    (hpart : ∀ part' ∈ part, Restores check (describe part') part') :
    ReadsBack [({ own, snapshot }, .ofOption id (part.map describe))]
      (fun bound members => members.optional { own, snapshot } (check bound))
      part :=
  optional_map hpart

theorem parts {parts : Option (List ε)}
    (hparts : ∀ part ∈ members parts, Restores check (describe part) part) :
    ReadsBack
      [({ own, snapshot }, describeFamily id (parts.map (List.map describe)))]
      (fun bound members => members.family { own, snapshot } (check bound))
      parts :=
  family_map hparts

/-- A name in a field that takes whatever it is given. -/
theorem name (name : Option String) :
    ReadsBack [({ own, snapshot },
        .ofOption (Slot.describe Value.text) (name.map .proper))]
      (fun _ members => members.optional { own, snapshot } text) name :=
  optional_map fun name _ => restores_text name

theorem names (names : Option (List String)) :
    ReadsBack [({ own, snapshot },
        describeFamily (Slot.describe Value.text)
          (names.map (List.map .proper)))]
      (fun _ members => members.family { own, snapshot } text) names :=
  family_map fun name _ => restores_text name

/-- A count in a field that takes whatever it is given. -/
theorem limit {name : String} (number : Option Int) :
    ReadsBack [(.count name,
        .ofOption (Slot.describe Value.int) (number.map .proper))]
      (fun _ members => members.optional (.count name) int) number := by
  cases number with
  | none => exact count name none
  | some number => exact count name (some number)

end ReadsBack

/-! ## Sources -/

theorem Document.restores {document : Document ε}
    (hmapping : document.isMapping = true)
    (hparts : ∀ part ∈ document.parts, Restores check (describe part) part) :
    RestoresBelow 1 (fun bound => Document.check (check bound))
      (Description.object (document.map describe)) document := by
  have hnames := of_decide_eq_true hmapping
  exact restores_model (by simp) rfl
    (ReadsBack.map _ (.tag "object")
      |>.seq (.withDefault (restores_document hnames hparts))) rfl

/-- Options are restored if they are given. -/
theorem ReadsBack.options {own snapshot : String}
    {options : Option (Document ε)}
    (hmapping : options.all Document.isMapping = true)
    (hparts : ∀ part ∈ Document.parts (members options),
      Restores check (describe part) part) :
    ReadsBack [({ own, snapshot },
        Description.someObject (options.map (Document.map describe)))]
      (fun bound members =>
        members.optional { own, snapshot } (Document.check (check bound)))
      options := by
  apply optional_map
  rintro document rfl
  exact (Document.restores hmapping hparts).restores

theorem Direction.ofText?_text (direction : Direction) :
    ofText? direction.text = some direction := by
  cases direction <;> simp [ofText?, all, text]

theorem Source.check_of_checkTagged {sub : Value → Checked ε}
    {entries : List (Scalar × Value)} {source : Source ε}
    (htagged : checkTagged sub (.map entries) = .ok source) :
    Source.check sub (.map entries) = .ok source := by
  simp only [Source.check, htagged]

theorem Source.restores {source : Source ε} (hdata : source.isJsonData = true)
    (hparts : ∀ part ∈ source.parts, Restores check (describe part) part) :
    Restores (fun bound => Source.check (check bound))
      (source.map describe).describe source := by
  cases source with
  | text name => exact ⟨.text name, rfl, rfl, fun _ _ => rfl⟩
  | range first last =>
      apply RestoresBelow.restores
      refine restores_tagged (fun _ => checkRange) (fun _ => rfl)
        (by simp) rfl List.mem_cons_self ?_
        (ReadsBack.map _ (.tag "range")
          |>.seq (.required (restores_int first))
          |>.seq (.required (restores_int last))) rfl
      intro bound members htag hmodel
      apply check_of_checkTagged
      rw [checkTagged, htag]
      exact hmodel
  | graph traversal =>
      apply RestoresBelow.restores
      refine restores_tagged (fun bound => checkGraph (check bound))
        (fun _ => rfl) (by simp) rfl List.mem_cons_self ?_
        (ReadsBack.map _ (.tag "graph")
          |>.seq (.required (restores_text traversal.graph))
          |>.seq (.required (restores_word traversal.direction.ofText?_text))
          |>.seq (.required (restores_text traversal.startVertex))
          |>.seq (.withDefault (restores_int traversal.minDepth))
          |>.seq (.someInt traversal.maxDepth)
          |>.seq (.options hdata hparts)) rfl
      intro bound members htag hmodel
      apply check_of_checkTagged
      rw [checkTagged, htag]
      exact hmodel

/-- A field for a source that holds one or is unset. -/
theorem ReadsBack.source {own snapshot : String} {source : Option (Source ε)}
    (hdata : (source.map Slot.proper).all Slot.isJsonData = true)
    (hparts : ∀ part ∈ Slot.parts (source.map .proper),
      Restores check (describe part) part) :
    ReadsBack
      [({ own, snapshot }, .ofOption (Slot.describe Source.describe)
        ((source.map .proper).map (Slot.map (Source.map describe))))]
      (fun bound members =>
        members.optional { own, snapshot } (Source.check (check bound)))
      source := by
  rw [Option.map_map]
  apply optional_map
  rintro source rfl
  exact Source.restores hdata hparts

/-! ## Clauses -/

theorem Join.restores {join : Join ε}
    (hproper : join.source.all Slot.isProper = true)
    (hdata : join.source.all Slot.isJsonData = true)
    (hparts : ∀ part ∈ join.parts, Restores check (describe part) part) :
    RestoresBelow 1 (fun bound => Join.check (check bound))
      (join.map describe).describe join := by
  obtain ⟨loop, source⟩ := join
  obtain ⟨source, rfl⟩ := Slot.exists_content hproper
  exact restores_model (by simp) rfl
    (ReadsBack.map _ (.required (restores_text loop))
      |>.seq (.source hdata hparts)) rfl

/-- A name with an expression, under the names of the two fields. -/
theorem restores_named {name nameField partField : String}
    (hapart : Label.AreApart [.same nameField, .same partField])
    {member : String × ε}
    (hpart : Restores check (describe member.2) member.2) :
    RestoresBelow 1
      (fun bound =>
        checkNamed name (.same nameField) (.same partField) (check bound))
      (describeNamed name (.same nameField) (.same partField)
        (member.1, describe member.2)) member :=
  restores_model hapart rfl
    (ReadsBack.map _ (.required (restores_text member.1))
      |>.seq (.required hpart)) rfl

/-- The members of a list of named expressions are restored one by one. -/
theorem restores_names {name nameField partField : String}
    (hapart : Label.AreApart [.same nameField, .same partField])
    {document : Document ε}
    (hparts : ∀ part ∈ document.parts, Restores check (describe part) part) :
    Restores
      (fun bound => listOf
        (checkNamed name (.same nameField) (.same partField) (check bound)))
      (.list (List.map (describeNamed name (.same nameField) (.same partField))
        (document.map describe)))
      document := by
  rw [Document.map, List.map_map]
  apply restores_list
  intro member hmember
  exact (restores_named hapart
    (hparts member.2 (List.mem_map_of_mem hmember))).restores

theorem Collect.restores {collect : Collect ε}
    (hparts : ∀ part ∈ collect.parts, Restores check (describe part) part) :
    RestoresBelow 1 (fun bound => Collect.check (check bound))
      (collect.map describe).describe collect := by
  obtain ⟨hkeys, haggregates⟩ := List.forall_mem_append.1 hparts
  exact restores_model (by simp) rfl
    (ReadsBack.map _
        (.withDefault (restores_names (by simp) hkeys))
      |>.seq (.someText collect.into)
      |>.seq (.withDefault (restores_names (by simp) haggregates))
      |>.seq (.optional fun names _ =>
        restores_list fun name _ => restores_text name)) rfl

theorem SortDirection.ofText?_text (direction : SortDirection) :
    ofText? direction.text = some direction := by
  cases direction <;> simp [ofText?, all, text]

theorem SortKey.restores (key : SortKey) :
    RestoresBelow 1 (fun _ => SortKey.check) key.describe key :=
  restores_model (by simp) rfl
    (ReadsBack.map _ (.required (restores_text key.field))
      |>.seq (.withDefault (restores_word key.direction.ofText?_text))) rfl

theorem OperationKind.ofText?_text (kind : OperationKind) :
    ofText? kind.text = some kind := by
  cases kind <;> simp [ofText?, all, text]

theorem Operation.restores {operation : Operation ε}
    (hproper : operation.collection.all Slot.isProper = true)
    (hparts : ∀ part ∈ operation.parts, Restores check (describe part) part) :
    RestoresBelow 1 (fun bound => Operation.check (check bound))
      (operation.map describe).describe operation := by
  obtain ⟨kind, document, collection, target⟩ := operation
  obtain ⟨collection, rfl⟩ := Slot.exists_content hproper
  have hdocument : ∀ part ∈ document, Restores check (describe part) part := by
    intro part hpart
    exact hparts part (Option.mem_toList.2 hpart)
  exact restores_model (by simp) rfl
    (ReadsBack.map _ (.required (restores_word kind.ofText?_text))
      |>.seq (.part hdocument)
      |>.seq (.name collection)
      |>.seq (.someText target)) rfl

theorem Upsert.restores {upsert : Upsert ε}
    (hparts : ∀ part ∈ upsert.parts, Restores check (describe part) part) :
    RestoresBelow 1 (fun bound => Upsert.check (check bound))
      (upsert.map describe).describe upsert := by
  simp only [parts, List.forall_mem_cons] at hparts
  obtain ⟨hsearch, hinsert, hupdate, -⟩ := hparts
  exact restores_model (by simp) rfl
    (ReadsBack.map _ (.tag "UPSERT")
      |>.seq (.required hsearch)
      |>.seq (.required hinsert)
      |>.seq (.required hupdate)
      |>.seq (.required (restores_text upsert.collection))) rfl

theorem Update.restores {update : Update ε}
    (hparts : ∀ part ∈ update.parts, Restores check (describe part) part) :
    RestoresBelow 1 (fun bound => Update.check (check bound))
      (update.map describe).describe update := by
  simp only [parts, List.forall_mem_cons] at hparts
  obtain ⟨hdocument, hfields, -⟩ := hparts
  exact restores_model (by simp) rfl
    (ReadsBack.map _ (.tag "UPDATE")
      |>.seq (.required hdocument)
      |>.seq (.required hfields)
      |>.seq (.someText update.collection)
      |>.seq (.someText update.loop)
      |>.seq (.withDefault (restores_bool update.oldReference))) rfl

theorem LoopNames.restores (loop : LoopNames) :
    RestoresBelow 1 (fun _ => LoopNames.check) loop.describe loop :=
  restores_model (by simp) rfl
    (ReadsBack.map _ (.required (restores_text loop.vertex))
      |>.seq (.someText loop.edge)
      |>.seq (.someText loop.path)) rfl

theorem Search.restores {search : Search ε}
    (hmapping : search.options.all Document.isMapping = true)
    (hparts : ∀ part ∈ search.parts, Restores check (describe part) part) :
    RestoresBelow 1 (fun bound => Search.check (check bound))
      (search.map describe).describe search := by
  obtain ⟨hconditions, hoptions⟩ := List.forall_mem_append.1 hparts
  exact restores_model (by simp) rfl
    (ReadsBack.map _ (.tag "search")
      |>.seq (.required (restores_text search.view))
      |>.seq (.withDefault (restores_list hconditions))
      |>.seq (.options hmapping hoptions)) rfl

theorem Traversal.restores (traversal : Traversal) :
    RestoresBelow 1 (fun _ => Traversal.check) traversal.describe traversal :=
  restores_model (by simp) rfl
    (ReadsBack.map _ (.tag "traverse")
      |>.seq (.required (restores_text traversal.loop))
      |>.seq (.required (restores_text traversal.path))
      |>.seq (.someInt traversal.minDepth)
      |>.seq (.someInt traversal.maxDepth)) rfl

theorem restores_prune {condition : ε}
    (hcondition : Restores check (describe condition) condition) :
    RestoresBelow 1 (fun bound => checkPrune (check bound))
      (describePrune (describe condition)) condition :=
  restores_model (by simp) rfl
    (ReadsBack.map _ (.tag "prune") |>.seq (.required hcondition)) rfl

theorem Bound.restores (bound : Bound) :
    Restores (fun _ => Bound.check) bound.describe bound := by
  cases bound with
  | unbounded => exact restores_of_isJsonData rfl rfl rfl
  | rows count => exact restores_of_isJsonData rfl rfl rfl

theorem Window.restores {window : Window ε}
    (hparts : ∀ part ∈ window.parts, Restores check (describe part) part) :
    RestoresBelow 1 (fun bound => Window.check (check bound))
      (window.map describe).describe window := by
  have haggregation := hparts window.aggregation (List.mem_singleton_self _)
  exact restores_model (by simp) rfl
    (ReadsBack.map _ (.tag "window")
      |>.seq (.optional fun bound _ => bound.restores)
      |>.seq (.optional fun bound _ => bound.restores)
      |>.seq (.required haggregation)
      |>.seq (.someText window.name)) rfl

/-! ## Records -/

namespace ReadsBack

variable {own snapshot : String}

/-- A family of clauses, each of which is restored if its parts are. -/
theorem clauses {F G : Type} {parts : F → List ε} {f : F → G}
    {describeClause : G → Value} {checkClause : Nat → Value → Checked F}
    {family : Option (List F)}
    (hclause : ∀ clause ∈ members family,
      (∀ part ∈ parts clause, Restores check (describe part) part) →
      RestoresBelow 1 checkClause (describeClause (f clause)) clause)
    (hparts : ∀ part ∈ (members family).flatMap parts,
      Restores check (describe part) part) :
    ReadsBack
      [({ own, snapshot },
        describeFamily describeClause (family.map (List.map f)))]
      (fun bound members =>
        members.family { own, snapshot } (checkClause bound))
      family := by
  apply family_map
  intro clause hmember
  apply (hclause clause hmember _).restores
  intro part hpart
  exact hparts part (List.mem_flatMap.2 ⟨clause, hmember, hpart⟩)

theorem lets {lets : Option (Document ε)}
    (hparts : ∀ part ∈ Document.parts (members lets),
      Restores check (describe part) part) :
    ReadsBack
      [({ own, snapshot },
        describeFamily describeLet (lets.map (Document.map describe)))]
      (fun bound members =>
        members.family { own, snapshot } (checkLet (check bound)))
      lets := by
  apply optional_map
  rintro document rfl
  exact restores_names (by simp) hparts

theorem prunes {conditions : Option (List ε)}
    (hparts : ∀ part ∈ members conditions,
      Restores check (describe part) part) :
    ReadsBack
      [({ own, snapshot },
        describeFamily describePrune (conditions.map (List.map describe)))]
      (fun bound members =>
        members.family { own, snapshot } (checkPrune (check bound)))
      conditions :=
  family_map fun condition hcondition =>
    (restores_prune (hparts condition hcondition)).restores

end ReadsBack

/-- Bindings to data make a mapping that is data. -/
theorem Document.isJsonData_document {bindings : Document Value}
    (hmapping : bindings.isMapping = true)
    (hvalues : bindings.parts.all Value.isJsonData = true) :
    (Description.document bindings).isJsonData = true := by
  have hentries (bindings : Document Value)
      (hvalues : bindings.parts.all Value.isJsonData = true) :
      Value.areJsonEntries (List.map
        (fun binding => (Scalar.text binding.1, binding.2)) bindings) = true := by
    induction bindings with
    | nil => rfl
    | cons binding rest hrest =>
        obtain ⟨hvalue, htail⟩ := Bool.and_eq_true_iff.1 hvalues
        exact Bool.and_eq_true_iff.2 ⟨hvalue, hrest htail⟩
  have hnames : (List.map Prod.fst bindings).Nodup :=
    of_decide_eq_true hmapping
  rw [Description.document, Value.isJsonData, hentries bindings hvalues,
    Bool.true_and, decide_eq_true_eq]
  apply List.pairwise_map.2
  apply List.pairwise_map.2
  apply (List.pairwise_map.1 hnames).imp
  intro left right hne heq
  exact hne (Scalar.text.inj heq)

theorem mapOf_anything {bindings : Document Value}
    (hmapping : bindings.isMapping = true)
    (hvalues : bindings.parts.all Value.isJsonData = true) :
    mapOf Check.anything (Description.document bindings) = .ok bindings := by
  have hnames : (List.map Prod.fst bindings).Nodup :=
    of_decide_eq_true hmapping
  have hentries : Checked.traverse (entry Check.anything)
      (List.map (fun binding => (Scalar.text binding.1, binding.2)) bindings) =
        .ok bindings := by
    apply Checked.traverse_map_ok
    intro binding hbinding
    have hvalue := List.all_eq_true.1 hvalues binding.2
      (List.mem_map_of_mem hbinding)
    rw [entry, Check.anything, Value.withoutRepeats_of_isJsonData hvalue]
    rfl
  show Checked.map _ (Checked.traverse _ _) = _
  rw [hentries, Checked.map_ok]
  apply congrArg Checked.ok
  apply entriesOf_eq_self
  exact (List.pairwise_map.1 hnames).imp beq_false_of_ne

/-- The bindings of a raw text. -/
theorem ReadsBack.bindings {own snapshot : String}
    {bindings : Option (Document Value)}
    (hdata : bindings.all (fun bindings => bindings.isMapping &&
      bindings.parts.all Value.isJsonData) = true) :
    ReadsBack
      [({ own, snapshot }, .ofOption Description.document bindings)]
      (fun _ members =>
        members.optional { own, snapshot } (mapOf Check.anything))
      bindings := by
  apply optional
  rintro bindings rfl
  obtain ⟨hmapping, hvalues⟩ := Bool.and_eq_true_iff.1 hdata
  exact restores_of_isJsonData (mapOf_anything hmapping hvalues)
    (Document.isJsonData_document hmapping hvalues) rfl

theorem Record.areApart_labels : Label.AreApart labels := by
  simp [labels]

theorem Record.restores {record : Record ε} (hproper : record.isProper = true)
    (hdata : record.isJsonData = true)
    (hparts : ∀ part ∈ record.parts, Restores check (describe part) part) :
    RestoresBelow 1 (fun bound => Record.check (check bound))
      (record.map describe).describe record := by
  obtain ⟨collection, loop, source, filters, filtersAfterCollect, joins,
    letsAfterCollect, letsBeforeCollect, collects, sorts, result, distinct,
    limit, offset, operations, upserts, updates, loopNames, searches,
    traversals, prunes, windows, withCollections, raw, rawBindings⟩ := record
  simp only [isProper, Bool.and_eq_true, List.all_eq_true] at hproper
  obtain ⟨⟨⟨⟨⟨⟨hloop, hsource⟩, hjoins⟩, hlimit⟩, hoffset⟩, hoperations⟩,
    hcollections⟩ := hproper
  obtain ⟨loop, rfl⟩ := Slot.exists_content hloop
  obtain ⟨source, rfl⟩ := Slot.exists_content hsource
  obtain ⟨limit, rfl⟩ := Slot.exists_content hlimit
  obtain ⟨offset, rfl⟩ := Slot.exists_content hoffset
  obtain ⟨collections, rfl⟩ :=
    Slot.exists_contents (List.all_eq_true.2 hcollections)
  simp only [isJsonData, Bool.and_eq_true, List.all_eq_true] at hdata
  obtain ⟨⟨⟨hsourceData, hjoinsData⟩, hsearchesData⟩, hbindings⟩ := hdata
  simp only [parts, List.forall_mem_flatten, List.forall_mem_cons] at hparts
  obtain ⟨hsourceParts, hfilters, hfiltersAfter, hjoinParts, hletsAfter,
    hletsBefore, hcollects, hresult, hoperationParts, hupserts, hupdates,
    hsearches, hprunes, hwindows, -⟩ := hparts
  have hresult' : ∀ part ∈ result, Restores check (describe part) part := by
    intro part hpart
    exact hresult part (Option.mem_toList.2 hpart)
  exact restores_model areApart_labels rfl
    (ReadsBack.map _ (.someText collection)
      |>.seq (.name loop)
      |>.seq (.source hsourceData hsourceParts)
      |>.seq (.parts hfilters)
      |>.seq (.parts hfiltersAfter)
      |>.seq (.clauses (fun join hjoin =>
          Join.restores (hjoins join hjoin) (hjoinsData join hjoin))
        hjoinParts)
      |>.seq (.lets hletsAfter)
      |>.seq (.lets hletsBefore)
      |>.seq (.clauses (fun _ _ => Collect.restores) hcollects)
      |>.seq (.family fun key _ => key.restores.restores)
      |>.seq (.part hresult')
      |>.seq (.optional fun value _ => restores_bool value)
      |>.seq (.limit limit)
      |>.seq (.limit offset)
      |>.seq (.clauses (fun operation hoperation =>
          Operation.restores (hoperations operation hoperation))
        hoperationParts)
      |>.seq (.clauses (fun _ _ => Upsert.restores) hupserts)
      |>.seq (.clauses (fun _ _ => Update.restores) hupdates)
      |>.seq (.optional fun loop _ => loop.restores.restores)
      |>.seq (.clauses (fun search hsearch =>
          Search.restores (hsearchesData search hsearch)) hsearches)
      |>.seq (.family fun traversal _ => traversal.restores.restores)
      |>.seq (.prunes hprunes)
      |>.seq (.clauses (fun _ _ => Window.restores) hwindows)
      |>.seq (.names collections)
      |>.seq (.someText raw)
      |>.seq (.bindings hbindings)) rfl

/-! ## Nodes -/

theorem BinaryOperator.ofText?_text (operator : BinaryOperator) :
    ofText? operator.text = some operator := by
  cases operator <;> simp [ofText?, all, text]

theorem UnaryOperator.ofText?_text (operator : UnaryOperator) :
    ofText? operator.text = some operator := by
  cases operator <;> simp [ofText?, all, text]

namespace NodeKind

theorem ofTag?_tag (kind : NodeKind) : ofTag? kind.tag = some kind := by
  cases kind <;> simp [ofTag?, every, tag]

theorem areApart_labels (kind : NodeKind) : Label.AreApart kind.labels := by
  cases kind <;>
    simp [labels, ownLabels, Label.isCollection, Label.unsetDocument]

end NodeKind

/-- A node is restored if the fields of its kind are read back. -/
theorem restores_node {fields : List (Label × Value)} {node built : Node ε}
    (kind : NodeKind) (hlabels : fields.map Prod.fst = kind.ownLabels)
    (hreads : ReadsBack fields.reverse
      (fun bound members => Node.checkFields (check bound) members kind) built)
    (hbuilt : built = node) :
    RestoresBelow 1 (fun bound => Node.check (check bound))
      (.model kind.modelName ((.same "type", .text kind.tag) :: fields))
      node := by
  refine restores_tagged (fun bound => Node.checkKind (check bound) kind)
    (fun _ => rfl) kind.areApart_labels (congrArg (List.cons _) hlabels)
    List.mem_cons_self ?_
    (List.reverse_cons ▸ (ReadsBack.map _ (.tag kind.tag)).seq hreads) hbuilt
  intro bound members htagged hmodel
  rw [Node.check, htagged, Option.bind_some, kind.ofTag?_tag]
  exact hmodel

theorem restores_name (name : ParameterName) :
    Restores (fun _ => Check.name) (.text name.text) name :=
  restores_word name.of?_text

theorem Node.restores {node : Node ε} (hproper : node.isProper = true)
    (hdata : node.isJsonData = true)
    (hparts : ∀ part ∈ node.parts, Restores check (describe part) part) :
    RestoresBelow 1 (fun bound => Node.check (check bound))
      (node.map describe).describe node := by
  cases node with
  | literal value =>
      exact restores_node .literal rfl (.map _ (.anything hdata)) rfl
  | reference path =>
      exact restores_node .reference rfl
        (.map _ (.required (restores_text path))) rfl
  | parameter placeholder =>
      exact restores_node .parameter rfl
        (ReadsBack.map _ (.required (restores_name placeholder.name))
          |>.seq (.withDefault (restores_bool placeholder.collection))) rfl
  | binary operator left right =>
      simp only [parts, List.forall_mem_cons] at hparts
      obtain ⟨hleft, hright, -⟩ := hparts
      exact restores_node .binary rfl
        (ReadsBack.map _ (.required (restores_word operator.ofText?_text))
          |>.seq (.required hleft)
          |>.seq (.required hright)) rfl
  | unary operator operand =>
      have hoperand := hparts operand (List.mem_singleton_self _)
      exact restores_node .unary rfl
        (ReadsBack.map _ (.required (restores_word operator.ofText?_text))
          |>.seq (.required hoperand)) rfl
  | call function arguments =>
      exact restores_node .call rfl
        (ReadsBack.map _ (.required (restores_text function))
          |>.seq (.withDefault (restores_tuple hparts))) rfl
  | ternary condition thenValue elseValue =>
      simp only [parts, List.forall_mem_cons] at hparts
      obtain ⟨hcondition, hthen, helse, -⟩ := hparts
      exact restores_node .ternary rfl
        (ReadsBack.map _ (.required hcondition)
          |>.seq (.required hthen)
          |>.seq (.required helse)) rfl
  | like subject pattern ignoreCase =>
      have hsubject := hparts subject (List.mem_singleton_self _)
      exact restores_node .like rfl
        (ReadsBack.map _ (.required hsubject)
          |>.seq (.required (restores_text pattern))
          |>.seq (.withDefault (restores_bool ignoreCase))) rfl
  | regex subject pattern flags =>
      have hsubject := hparts subject (List.mem_singleton_self _)
      exact restores_node .regex rfl
        (ReadsBack.map _ (.required hsubject)
          |>.seq (.required (restores_text pattern))
          |>.seq (.someText flags)) rfl
  | old path =>
      exact restores_node .old rfl
        (.map _ (.required (restores_text path))) rfl
  | quantified quantifier subject condition =>
      simp only [parts, List.forall_mem_cons] at hparts
      obtain ⟨hsubject, hcondition, -⟩ := hparts
      cases quantifier with
      | all =>
          exact restores_node .all rfl
            (ReadsBack.map _ (.required hsubject)
              |>.seq (.required hcondition)) rfl
      | any =>
          exact restores_node .any rfl
            (ReadsBack.map _ (.required hsubject)
              |>.seq (.required hcondition)) rfl
  | unset document fields =>
      have hdocument := hparts document (List.mem_singleton_self _)
      exact restores_node .unset rfl
        (ReadsBack.map _ (.required hdocument)
          |>.seq (.withDefault (restores_tuple fun name _ =>
            restores_text name))) rfl
  | object members =>
      have hnames : (List.map Prod.fst members).Nodup :=
        of_decide_eq_true hdata
      exact restores_node .object rfl
        (.map _ (.withDefault (restores_document hnames hparts))) rfl
  | array items =>
      exact restores_node .array rfl
        (.map _ (.withDefault (restores_tuple hparts))) rfl
  | subquery query =>
      have hquery := Record.restores hproper hdata hparts
      exact restores_node .subquery rfl
        (.map _ (.required hquery.restores)) rfl
  | stray content => cases hproper

end Clauses

end ArangoQuery
