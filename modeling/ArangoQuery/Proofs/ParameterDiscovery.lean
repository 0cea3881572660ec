import ArangoQuery.Proofs.Hygiene
import ArangoQuery.Proofs.SnapshotNames
import ArangoQuery.Script.Question
import ArangoQuery.Script.Run

/-!
# Discovered parameters

The parameters of a query are read off its snapshot.  None that occurs in the
query is missed, none is listed twice, and they are listed in the order in which
the snapshot first asks for them, whether it is taken from a builder, a record or
a restored query (`Query.parameters_discovered`).

A snapshot is read from the front, each value before what it holds
(`Value.readingOrder`).  As a value asks for one name at most by itself, first
mentions come in the order of the values that make them.
-/

namespace ArangoQuery

open Record (members)

variable {α β : Type}

/-! ## Reading a snapshot -/

namespace Value

/-- The names that a value asks for by itself, apart from what it holds. -/
def askedNames : Value → List String
  | .text content => placeholderNames content
  | .map entries => nodeNames entries
  | _ => []

mutual

/-- A value and all that it holds, in the order of reading. -/
def readingOrder : Value → List Value
  | .list items => .list items :: readingOrderOfList items
  | .tuple items => .tuple items :: readingOrderOfList items
  | .map entries => .map entries :: readingOrderOfEntries entries
  | value => [value]

def readingOrderOfList : List Value → List Value
  | [] => []
  | value :: rest => readingOrder value ++ readingOrderOfList rest

def readingOrderOfEntries : List (Scalar × Value) → List Value
  | [] => []
  | (_, value) :: rest => readingOrder value ++ readingOrderOfEntries rest

end

/-- Where a name is first asked for, counted in values read before. -/
def firstMention (snapshot : Value) (name : String) : Nat :=
  snapshot.readingOrder.findIdx fun value => value.askedNames.contains name

theorem length_placeholderNames (content : String) :
    (placeholderNames content).length ≤ 1 := by
  rw [placeholderNames]
  split
  · split <;> simp
  · simp

theorem length_nodeNames (entries : List (Scalar × Value)) :
    (nodeNames entries).length ≤ 1 := by
  rw [nodeNames]
  split
  · split
    · split <;> simp
    · simp
  · simp

theorem length_askedNames (value : Value) : value.askedNames.length ≤ 1 := by
  unfold askedNames
  split
  · exact length_placeholderNames _
  · exact length_nodeNames _
  · exact Nat.zero_le _

mutual

theorem flatMap_askedNames :
    ∀ value : Value, value.readingOrder.flatMap askedNames =
      value.mentionedNames
  | .scalar (.text _) => List.append_nil _
  | .scalar .null => rfl
  | .scalar (.bool _) => rfl
  | .scalar (.int _) => rfl
  | .scalar (.float _) => rfl
  | .list items => flatMap_askedNames_list items
  | .tuple items => flatMap_askedNames_list items
  | .map entries => congrArg _ (flatMap_askedNames_entries entries)
  | .model .. => rfl
  | .foreign .. => rfl

theorem flatMap_askedNames_list :
    ∀ items : List Value, (readingOrderOfList items).flatMap askedNames =
      mentionedInList items
  | [] => rfl
  | value :: rest => by
      rw [readingOrderOfList, List.flatMap_append, flatMap_askedNames value,
        flatMap_askedNames_list rest, mentionedInList]

theorem flatMap_askedNames_entries :
    ∀ entries : List (Scalar × Value),
      (readingOrderOfEntries entries).flatMap askedNames =
        mentionedInEntries entries
  | [] => rfl
  | (_, value) :: rest => by
      rw [readingOrderOfEntries, List.flatMap_append,
        flatMap_askedNames value, flatMap_askedNames_entries rest,
        mentionedInEntries]

end

end Value

/-! ## First mentions -/

section FirstMentions

variable [BEq β] [LawfulBEq β]

theorem contains_filter_of_ne {things : List β} {first other : β}
    (hne : (other == first) = false) :
    (things.filter fun thing => !thing == first).contains other =
      things.contains other := by
  rw [Bool.eq_iff_iff]
  simp [hne]

/-- If every element of a list stands for one thing at most, then the things come
without repetitions in the order in which they are first stood for. -/
theorem pairwise_findIdx_eraseDups {elements : List α} {own : α → List β}
    (hown : ∀ element, (own element).length ≤ 1) :
    (elements.flatMap own).eraseDups.Pairwise fun earlier later =>
      (elements.findIdx fun element => (own element).contains earlier) <
        elements.findIdx fun element => (own element).contains later := by
  induction elements generalizing own with
  | nil => exact .nil
  | cons element rest hrest =>
      have hsucc (other : β) (hother : (own element).contains other = false) :
          ((element :: rest).findIdx fun element =>
              (own element).contains other) =
            (rest.findIdx fun element => (own element).contains other) + 1 := by
        simp only [List.findIdx_cons, hother, cond_false]
      rw [List.flatMap_cons]
      rcases hown' : own element with _ | ⟨first, _ | _⟩
      · rw [List.nil_append]
        refine (hrest hown).imp ?_
        intro earlier later hlt
        rw [hsucc earlier (by simp [hown']), hsucc later (by simp [hown'])]
        exact Nat.succ_lt_succ hlt
      · -- The first thing drops out of all that follows; the induction goes on
        -- with what the other elements stand for besides it.
        let others element := (own element).filter fun other => !other == first
        have hfilter : (rest.flatMap own).filter (fun other => !other == first) =
            rest.flatMap others := List.filter_flatMap ..
        have hothers (element : α) : (others element).length ≤ 1 :=
          Nat.le_trans (List.length_filter_le ..) (hown element)
        have hne : ∀ other ∈ (rest.flatMap others).eraseDups,
            (other == first) = false := by
          intro other hother
          rw [List.mem_eraseDups, ← hfilter, List.mem_filter] at hother
          simpa using hother.2
        have hfind : ∀ other ∈ (rest.flatMap others).eraseDups,
            ((element :: rest).findIdx fun element =>
                (own element).contains other) =
              (rest.findIdx fun element => (others element).contains other) +
                1 := by
          intro other hother
          have hfresh := hne other hother
          rw [hsucc other (by simp [hown', hfresh])]
          simp only [others, contains_filter_of_ne hfresh]
        rw [List.singleton_append, List.eraseDups_cons, hfilter]
        refine .cons ?_ ?_
        · intro other hother
          have hzero : ((element :: rest).findIdx fun element =>
              (own element).contains first) = 0 := by
            simp [List.findIdx_cons, hown']
          rw [hzero, hfind other hother]
          exact Nat.succ_pos _
        · refine (hrest hothers).imp_of_mem ?_
          intro earlier later hearlier hlater hlt
          rw [hfind earlier hearlier, hfind later hlater]
          exact Nat.succ_lt_succ hlt
      · have hlength := hown element
        rw [hown'] at hlength
        simp at hlength

end FirstMentions

/-! ## Parameters are mentioned -/

theorem Leaf.mem_of_mem_parts {leaves : List (Leaf α)} {part : α}
    (hpart : part ∈ leaves.flatMap parts) : .part part ∈ leaves := by
  obtain ⟨leaf, hleaf, hpart⟩ := List.mem_flatMap.1 hpart
  cases leaf with
  | part expr =>
      obtain rfl := List.mem_singleton.1 hpart
      exact hleaf
  | _ => exact absurd hpart List.not_mem_nil

/-- A text among the places asks for a name. -/
def Leaf.Shows (leaves : List (Leaf α)) (name : String) : Prop :=
  ∃ content, .text content ∈ leaves ∧ name ∈ Value.placeholderNames content

theorem Source.shows_valueParameters {source : Source α} {name : String}
    (hname : name ∈ source.valueParameters) :
    Leaf.Shows source.leaves name := by
  cases source with
  | text content => exact ⟨content, List.mem_singleton_self _, hname⟩
  | range first last => exact absurd hname List.not_mem_nil
  | graph traversal =>
      exact ⟨traversal.startVertex, .tail _ List.mem_cons_self, hname⟩

theorem Slot.shows_valueParameters {source : Option (Slot (Source α))}
    {name : String} (hname : name ∈ valueParameters source) :
    Leaf.Shows (leaves Source.leaves source) name := by
  rcases source with _ | source | content
  · exact absurd hname List.not_mem_nil
  · exact source.shows_valueParameters hname
  · exact absurd hname List.not_mem_nil

/-- The parameters for the sources of a record are among its texts. -/
theorem Record.shows_sourceParameters {record : Record α} {name : String}
    (hname : name ∈ record.sourceParameters) :
    Leaf.Shows record.leaves name := by
  rcases List.mem_append.1 hname with hsource | hjoins
  · obtain ⟨content, hcontent, hshown⟩ := Slot.shows_valueParameters hsource
    have hleaf : Leaf.text content ∈ record.leaves :=
      List.mem_flatten_of_mem (by simp) hcontent
    exact ⟨content, hleaf, hshown⟩
  · obtain ⟨join, hjoin, hname⟩ := List.mem_flatMap.1 hjoins
    obtain ⟨content, hcontent, hshown⟩ := Slot.shows_valueParameters hname
    have hclause : Leaf.text content ∈ join.leaves := .tail _ hcontent
    have hfamily : Leaf.text content ∈
        (members record.joins).flatMap Join.leaves :=
      List.mem_flatMap.2 ⟨join, hjoin, hclause⟩
    have hleaf : Leaf.text content ∈ record.leaves :=
      List.mem_flatten_of_mem (by simp) hfamily
    exact ⟨content, hleaf, hshown⟩

theorem Slot.valueParameters_map (f : α → β)
    (source : Option (Slot (Source α))) :
    valueParameters (source.map (Slot.map (Source.map f))) =
      valueParameters source := by
  rcases source with _ | ⟨_ | _ | _⟩ | _ <;> rfl

theorem Record.sourceParameters_map (f : α → β) (record : Record α) :
    (record.map f).sourceParameters = record.sourceParameters := by
  simp only [sourceParameters, Record.map, members_map, List.flatMap_map,
    Join.map, Slot.valueParameters_map]

/-- A parameter of a node is one of its texts or occurs in one of its parts. -/
theorem Node.shows_valueParameters {node : Node α}
    {below : α → List String} {name : String}
    (hname : name ∈ valueParameters (node.map below)) :
    Leaf.Shows node.leaves name ∨ ∃ part ∈ node.parts, name ∈ below part := by
  rcases List.mem_append.1 hname with hown | hparts
  · left
    cases node with
    | parameter placeholder =>
        refine ⟨placeholder.text, List.mem_singleton_self _, ?_⟩
        rw [Value.placeholderNames_text]
        exact hown
    | subquery query =>
        have hsource : name ∈ (query.map below).sourceParameters := hown
        rw [Record.sourceParameters_map] at hsource
        exact query.shows_sourceParameters hsource
    | _ => exact absurd hown List.not_mem_nil
  · right
    rw [Node.parts_map] at hparts
    obtain ⟨names, hnames, hname⟩ := List.mem_flatten.1 hparts
    obtain ⟨part, hpart, rfl⟩ := List.mem_map.1 hnames
    exact ⟨part, hpart, hname⟩

/-- Parameters are asked for outside the data. -/
theorem Expr.valueParameters_subset (expr : Expr) :
    expr.valueParameters ⊆ expr.mentions.flatMap Mention.ownNames := by
  induction expr using Expr.induction with
  | step node hparts =>
      intro name hname
      rw [valueParameters, reduce_of] at hname
      rw [mentions_of, List.mem_flatMap]
      rcases Node.shows_valueParameters hname with
        ⟨content, hcontent, hshown⟩ | ⟨part, hpart, hname⟩
      · have hmention : Mention.text content ∈
            node.leaves.flatMap (Leaf.mentions mentions) :=
          List.mem_flatMap.2 ⟨_, hcontent, List.mem_singleton_self _⟩
        exact ⟨_, hmention, hshown⟩
      · obtain ⟨mention, hmention, hshown⟩ :=
          List.mem_flatMap.1 (hparts part hpart hname)
        have hleaf := Leaf.mem_of_mem_parts (node.parts_leaves ▸ hpart)
        exact ⟨mention, List.mem_flatMap.2 ⟨_, hleaf, hmention⟩, hshown⟩

theorem Query.valueParameters_subset (query : Query) :
    query.valueParameters ⊆ query.ownNames := by
  have hsubquery : (Expr.subquery query).valueParameters =
      query.valueParameters := by
    rw [Expr.valueParameters, Expr.reduce_of]
    show Record.sourceParameters (query.map Expr.valueParameters) ++
      (query.map Expr.valueParameters).parts.flatten = _
    rw [Record.sourceParameters_map, Record.parts_map]
    rfl
  rw [← hsubquery, ownNames, ← mentions_subquery]
  exact (Expr.subquery query).valueParameters_subset

/-! ## Snapshots as operands -/

namespace Operand

mutual

/-- An operand made from data is stored as that data. -/
theorem raw_ofValue : ∀ value : Value, (ofValue value).raw = value
  | .scalar _ => rfl
  | .list items => congrArg Value.list (rawList_ofValues items)
  | .tuple items => congrArg Value.tuple (rawList_ofValues items)
  | .map entries => congrArg Value.map (rawEntries_ofEntries entries)
  | .model .. => rfl
  | .foreign .. => rfl

theorem rawList_ofValues : ∀ items : List Value,
    rawList (ofValues items) = items
  | [] => rfl
  | value :: rest => by
      rw [ofValues, rawList, raw_ofValue value, rawList_ofValues rest]

theorem rawEntries_ofEntries : ∀ entries : List (Scalar × Value),
    rawEntries (ofEntries entries) = entries
  | [] => rfl
  | (key, value) :: rest => by
      rw [ofEntries, rawEntries, raw_ofValue value, rawEntries_ofEntries rest]

end

end Operand

namespace Query

variable {query : Query} {snapshot : Value}

/-- The parameters of a snapshot, of its record and of its builder are the same. -/
theorem parameterNames_of_snapshot (hsnapshot : query.snapshot? = some snapshot)
    (look : Nat → Query) :
    Script.parameterNames look (.ofValue snapshot) =
        .ok snapshot.parameterNames ∧
      Script.parameterNames look (.other query.describe) =
        .ok snapshot.parameterNames ∧
      ∀ number, look number = query →
        Script.parameterNames look (.query number) =
          .ok snapshot.parameterNames := by
  refine ⟨?_, ?_, ?_⟩
  · obtain ⟨entries, -, rfl⟩ := Option.map_eq_some_iff.1 hsnapshot
    show Except.ok (Value.map (Operand.rawEntries
      (Operand.ofEntries entries))).parameterNames = _
    rw [Operand.rawEntries_ofEntries]
  · have hdump : query.describe.dump? .setFields = some snapshot := hsnapshot
    obtain ⟨name, fields, hmodel⟩ : ∃ name fields,
        query.describe = .model name fields := ⟨_, _, rfl⟩
    rw [hmodel] at hdump ⊢
    simp only [Script.parameterNames, Operand.raw, hdump]
    rfl
  · intro number hnumber
    simp only [Script.parameterNames, hnumber, parameterNames?, hsnapshot]
    rfl

theorem readSnapshot_ofValue (hsnapshot : query.snapshot? = some snapshot) :
    Script.readSnapshot (.ofValue snapshot) = check snapshot := by
  obtain ⟨entries, -, rfl⟩ := Option.map_eq_some_iff.1 hsnapshot
  show check (.map (Operand.rawEntries (Operand.ofEntries entries))) = _
  rw [Operand.rawEntries_ofEntries]

/-- Every value parameter of a typed query is discovered, at whatever depth it
occurs.  Nothing is listed that the snapshot does not ask for, no name is listed
twice, and the names come in the order in which the snapshot asks for them first.
The snapshot, the record, the builder and the query that is read back from the
snapshot have the same parameters. -/
theorem parameters_discovered (htyped : query.isTyped = true)
    (hdata : query.holdsData = true) :
    ∃ snapshot names,
      query.snapshot? = some snapshot ∧ query.parameterNames? = some names ∧
        (∀ name ∈ query.valueParameters, name ∈ names) ∧
        (∀ name, name ∈ names ↔
          ∃ value ∈ snapshot.readingOrder, name ∈ value.askedNames) ∧
        names.Nodup ∧
        (names.Pairwise fun earlier later =>
          snapshot.firstMention earlier < snapshot.firstMention later) ∧
        (∀ look, Script.parameterNames look (.ofValue snapshot) = .ok names ∧
          Script.parameterNames look (.other query.describe) = .ok names ∧
          ∀ number, look number = query →
            Script.parameterNames look (.query number) = .ok names) ∧
        ∃ restored, Script.readSnapshot (.ofValue snapshot) = .ok restored ∧
          restored.parameterNames? = some names := by
  obtain ⟨snapshot, hsnapshot, hcheck⟩ := restores htyped hdata
  have hnames : query.parameterNames? = some snapshot.parameterNames := by
    rw [parameterNames?, hsnapshot, Option.map_some]
  have horder : snapshot.parameterNames.Pairwise fun earlier later =>
      snapshot.firstMention earlier < snapshot.firstMention later := by
    rw [Value.parameterNames, ← snapshot.flatMap_askedNames]
    exact pairwise_findIdx_eraseDups Value.length_askedNames
  refine ⟨snapshot, snapshot.parameterNames, hsnapshot, hnames, ?_, ?_, ?_,
    horder, parameterNames_of_snapshot hsnapshot, query, ?_, hnames⟩
  · intro name hname
    have hown := query.valueParameters_subset hname
    rw [Value.parameterNames, List.mem_eraseDups,
      mentionedNames_snapshot htyped hdata hsnapshot, mem_flatMap_names]
    exact .inl hown
  · intro name
    rw [Value.parameterNames, List.mem_eraseDups,
      ← snapshot.flatMap_askedNames, List.mem_flatMap]
  · refine horder.imp ?_
    rintro earlier later hlt rfl
    exact Nat.lt_irrefl _ hlt
  · rw [readSnapshot_ofValue hsnapshot, hcheck]

/-- Friends of a vertex with invoices, where parameters stand for a start vertex,
in options, for a source, in a subquery, in a key and in an array.  The result is
a document with the member names of a parameter. -/
def friendsWithInvoices : Query where
  loop := some (.proper "v")
  source := some (.proper (.graph
    { graph := "friends", direction := .any, startVertex := "@start",
      minDepth := 1, maxDepth := some 2,
      options := some
        [("weight", .parameter ⟨⟨"weight", by decide⟩, false⟩)] }))
  joins := some
    [{ loop := "i", source := some (.proper (.text "@invoices")) }]
  letsBeforeCollect := some
    [("orders", .subquery
      { loop := some (.proper "o"),
        source := some (.proper (.text "@@orders")),
        filters := some
          [.of (.binary .equal (.reference "o.state")
            (.parameter ⟨⟨"state", by decide⟩, false⟩))],
        result := some (.reference "o") })]
  collects := some
    [{ keys := [("key", .parameter ⟨⟨"start", by decide⟩, false⟩)],
       into := none, aggregates := [], keep := none }]
  result := some (.object
    [("type", .literal (.text "parameter")),
      ("name", .array
        [.parameter ⟨⟨"page", by decide⟩, false⟩,
          .parameter ⟨⟨"state", by decide⟩, false⟩])])

theorem friendsWithInvoices_parameters_discovered :
    friendsWithInvoices.isTyped = true ∧ friendsWithInvoices.holdsData = true ∧
      ∃ snapshot names,
        friendsWithInvoices.snapshot? = some snapshot ∧
          names = ["start", "weight", "invoices", "state", "page"] ∧
          (∀ name ∈ friendsWithInvoices.valueParameters, name ∈ names) ∧
          (names.Pairwise fun earlier later =>
            snapshot.firstMention earlier < snapshot.firstMention later) ∧
          ∃ restored,
            Script.readSnapshot (.ofValue snapshot) = .ok restored ∧
              restored.parameterNames? = some names := by
  have htyped : friendsWithInvoices.isTyped = true := by decide +kernel
  have hdata : friendsWithInvoices.holdsData = true := by decide +kernel
  have hlist : friendsWithInvoices.parameterNames? =
      some ["start", "weight", "invoices", "state", "page"] := by
    decide +kernel
  obtain ⟨snapshot, names, hsnapshot, hnames, hlisted, -, -, horder, -,
    hrestored⟩ := parameters_discovered htyped hdata
  exact ⟨htyped, hdata, snapshot, names, hsnapshot,
    Option.some.inj (hnames.symm.trans hlist), hlisted, horder, hrestored⟩

end Query

end ArangoQuery
