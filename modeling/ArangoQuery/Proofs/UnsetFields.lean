import ArangoQuery.Proofs.NestedText

/-!
# Fields that are not set

A text shows an optional field that is not set by a word of its own, `None`.
`Record.linesShowing` spells out every place where a line shows an optional field,
behind the guards of the line and with that word as a parameter; with the word
itself these are the lines as they are written (`Record.linesShowing_none`).  A
guard keeps the word out of every line but those of operations and updates.  Of
these a query that compiles has given all collections, but not the variable that
an operation replaces, removes or updates (`Query.operations_name_targets`).
-/

namespace ArangoQuery

open Record (members)
open Template (Fills FillsEach exists_of_fills_text fills_append_iff ofText)

/-! ## Lines that show optional fields -/

section Showing

variable {α ε : Type} (word : String)

/-- An optional field in a text. -/
def shown (display : α → String) (field : Option α) : String :=
  (field.map display).getD word

def GraphSource.depthRangeShowing (source : GraphSource ε) : String :=
  toString source.minDepth ++ ".." ++
    if source.maxDepth.isSome then shown word toString source.maxDepth
    else toString source.minDepth

def Source.templateShowing : Source Template → Template
  | .graph traversal =>
      Piece.text (traversal.depthRangeShowing word ++ " " ++
        traversal.direction.text ++ " " ++ vertexText traversal.startVertex ++
        " GRAPH " ++ Quoted.quote traversal.graph) ::
          optionsTemplate traversal.options
  | source => source.template

def Slot.sourceTemplateShowing :
    Option (Slot (Source Template)) → Template
  | none => ofText word
  | some (.proper source) => source.templateShowing word
  | some (.stray content) => ofText content.display

def loopLineShowing (loop : String)
    (source : Option (Slot (Source Template))) : Template :=
  Piece.text ("FOR " ++ loop ++ " IN ") :: Slot.sourceTemplateShowing word source

def Join.linesShowing (join : Join Template) : List Template :=
  if Slot.isPresentSource join.source then
    [loopLineShowing word join.loop join.source]
  else []

def Collect.linesShowing (collect : Collect Template) : List Template :=
  [if collect.keys.isEmpty then ofText "COLLECT"
    else Piece.text "COLLECT " :: assignments collect.keys] ++
  (if collect.aggregates.isEmpty then []
    else [Piece.text "  AGGREGATE " :: assignments collect.aggregates]) ++
  if collect.into.getD "" != "" then
    ofText ("  INTO " ++ shown word id collect.into) ::
      if (members collect.keep).isEmpty then []
      else [ofText ("  KEEP " ++ shown word ", ".intercalate collect.keep)]
  else []

def Traversal.lineShowing (traversal : Traversal) : Template :=
  let depth (clause : String) (depth : Option Int) : String :=
    if depth.isSome then clause ++ shown word toString depth else ""
  ofText ("TRAVERSE " ++ traversal.loop ++ " IN " ++ traversal.path ++
    depth " MINDEPTH " traversal.minDepth ++
    depth " MAXDEPTH " traversal.maxDepth)

def Window.linesShowing (window : Window Template) : List Template :=
  let bound (side : WindowSide) (bound : Option Bound) : List String :=
    if bound.isSome then [side.text ++ ": " ++ shown word Bound.quotedText bound]
    else []
  let bounds :=
    bound .preceding window.preceding ++ bound .following window.following
  let name :=
    if window.name.getD "" != "" then shown word id window.name ++ " = " else ""
  [ofText ("WINDOW \x7b " ++ ", ".intercalate bounds ++ " \x7d"),
    Piece.text ("  AGGREGATE " ++ name) :: window.aggregation]

def Operation.lineShowing (operation : Operation Template) : Template :=
  let collection := shown word Slot.displayText operation.collection
  let target := shown word id operation.target
  match operation.kind, operation.document with
  | .insert, document =>
      Piece.text "INSERT " :: document.getD (ofText "\x7b\x7d") ++
        ofText (" INTO " ++ collection)
  | .remove, _ | _, none =>
      ofText (operation.kind.text ++ " " ++ target ++ " IN " ++ collection)
  | kind, some document =>
      Piece.text (kind.text ++ " " ++ target ++ " WITH ") :: document ++
        ofText (" IN " ++ collection)

def Update.linesShowing (hasResult : Bool) (update : Update Template) :
    List Template :=
  [Piece.text "UPDATE " :: update.document,
    Piece.text "WITH " :: update.fields,
    ofText ("IN " ++ shown word id update.collection)] ++
  if update.oldReference && !hasResult then
    [ofText "RETURN \x7b old: OLD, new: NEW \x7d"]
  else []

namespace Record

def loopLinesShowing (record : Record Template) : List Template :=
  if record.loopNames.isSome && Slot.isPresentSource record.source then
    [loopLineShowing word
      (shown word (fun loop => ", ".intercalate loop.names) record.loopNames)
      record.source]
  else if Slot.isPresentText record.loop &&
      Slot.isPresentSource record.source then
    [loopLineShowing word (shown word Slot.displayText record.loop)
      record.source]
  else []

def limitLinesShowing (record : Record Template) : List Template :=
  if record.limit.isNone then []
  else if record.offset.isSome then
    [ofText ("LIMIT " ++ shown word countText record.offset ++ ", " ++
      shown word countText record.limit)]
  else [ofText ("LIMIT " ++ shown word countText record.limit)]

/-- The lines of one kind of clause.  All others show no optional field. -/
def linesShowing (record : Record Template) : ClauseKind → List Template
  | .loop => record.loopLinesShowing word
  | .nestedLoop => (members record.joins).flatMap (Join.linesShowing word)
  | .grouping => (members record.collects).flatMap (Collect.linesShowing word)
  | .traversal =>
      (members record.traversals).map (Traversal.lineShowing word)
  | .window => (members record.windows).flatMap (Window.linesShowing word)
  | .page => record.limitLinesShowing word
  | .operation => (members record.operations).map (Operation.lineShowing word)
  | .update =>
      (members record.updates).flatMap
        (Update.linesShowing word record.result.isSome)
  | kind => record.linesOf kind

end Record

/-! ## Lines behind guards -/

theorem Source.templateShowing_eq (source : Source Template) :
    source.templateShowing word = source.template := by
  cases source with
  | graph traversal =>
      obtain ⟨graph, direction, vertex, minDepth, maxDepth, options⟩ := traversal
      cases maxDepth <;> rfl
  | _ => rfl

theorem loopLineShowing_eq (loop : String) (source : Slot (Source Template)) :
    loopLineShowing word loop (some source) = loopLine loop source := by
  cases source with
  | proper source =>
      rw [loopLineShowing, Slot.sourceTemplateShowing,
        source.templateShowing_eq word]
      rfl
  | stray content => rfl

theorem Join.linesShowing_eq (join : Join Template) :
    join.linesShowing word = join.lines := by
  obtain ⟨loop, source⟩ := join
  cases source with
  | none => rfl
  | some source => simp [linesShowing, lines, loopLineShowing_eq]

theorem Collect.linesShowing_eq (collect : Collect Template) :
    collect.linesShowing word = collect.lines := by
  obtain ⟨keys, into, aggregates, keep⟩ := collect
  rw [linesShowing, lines]
  congr 1
  rcases into with _ | group
  · rfl
  · by_cases hgroup : group = ""
    · simp [hgroup]
    · rcases keep with _ | _ | ⟨name, names⟩ <;>
        simp [hgroup, shown, members]

theorem Traversal.lineShowing_eq (traversal : Traversal) :
    traversal.lineShowing word = traversal.line := by
  obtain ⟨loop, path, minDepth, maxDepth⟩ := traversal
  cases minDepth <;> cases maxDepth <;> rfl

theorem Window.linesShowing_eq (window : Window Template) :
    window.linesShowing word = window.lines := by
  obtain ⟨preceding, following, aggregation, name⟩ := window
  cases name with
  | none => cases preceding <;> cases following <;> rfl
  | some name =>
      by_cases hempty : name = "" <;>
        cases preceding <;> cases following <;>
          simp [linesShowing, lines, hempty, shown]

theorem Record.loopLinesShowing_eq (record : Record Template) :
    record.loopLinesShowing word = record.loopLines := by
  simp only [loopLinesShowing, loopLines]
  cases hsource : record.source with
  | none => simp [Slot.isPresentSource]
  | some source =>
      cases hpresent : Slot.isPresentSource (some source) with
      | false => simp
      | true =>
          rcases record.loopNames with _ | names
          · rcases record.loop with _ | loop
            · rfl
            · simp [loopLineShowing_eq, shown]
          · simp [loopLineShowing_eq, shown]

theorem Record.limitLinesShowing_eq (record : Record Template) :
    record.limitLinesShowing word = record.limitLines := by
  simp only [limitLinesShowing, limitLines]
  cases record.limit <;> cases record.offset <;> rfl

theorem Update.linesShowing_eq {hasResult : Bool} {update : Update Template}
    (hcollection : update.collection.isSome) :
    update.linesShowing word hasResult = update.lines hasResult := by
  obtain ⟨document, fields, collection, loop, oldReference⟩ := update
  cases collection with
  | none => cases hcollection
  | some collection => rfl

/-- A modification of a document that is there already says which variable holds
it. -/
def Operation.IsAimed (operation : Operation ε) : Prop :=
  operation.kind = .insert ∨ ∃ target, operation.target = some target

theorem Operation.lineShowing_eq {operation : Operation Template}
    (hcollection : operation.collection.isSome) (haimed : operation.IsAimed) :
    operation.lineShowing word = operation.line := by
  obtain ⟨kind, document, collection, target⟩ := operation
  cases collection with
  | none => cases hcollection
  | some collection =>
      obtain rfl | ⟨target, rfl⟩ := haimed
      · rfl
      · cases kind <;> cases document <;> rfl

/-- What a line shows in the place of the variable, whatever the word is. -/
theorem Operation.exists_lineShowing {operation : Operation Template}
    (hkind : operation.kind ≠ .insert)
    (hcollection : operation.collection.isSome) :
    ∃ rest pieces, ∀ word, operation.lineShowing word =
      Piece.text (operation.kind.text ++ " " ++
        shown word id operation.target ++ " " ++ rest) :: pieces := by
  obtain ⟨kind, document, collection, target⟩ := operation
  obtain ⟨collection, rfl⟩ := Option.isSome_iff_exists.1 hcollection
  have hspace (front word : String) :
      front ++ (" " ++ word) = front ++ " " ++ word :=
    (String.append_assoc ..).symm
  cases document with
  | none =>
      refine ⟨"IN " ++ collection.displayText, [], fun word => ?_⟩
      rw [← String.append_assoc, ← hspace]
      cases kind <;> first | exact absurd rfl hkind | rfl
  | some document =>
      cases kind with
      | insert => exact absurd rfl hkind
      | remove =>
          refine ⟨"IN " ++ collection.displayText, [], fun word => ?_⟩
          rw [← String.append_assoc, ← hspace]
          rfl
      | replace | update =>
          refine ⟨"WITH ", document ++ ofText (" IN " ++ collection.displayText),
            fun word => ?_⟩
          rw [← hspace]
          rfl

/-- Where the variable is missing, the line shows the word in its place. -/
theorem Operation.isAimed_of_lineShowing {operation : Operation Template}
    (hcollection : operation.collection.isSome)
    (hline : operation.lineShowing "" = operation.lineShowing "None") :
    operation.IsAimed := by
  by_contra hmissing
  obtain ⟨hkind, htarget⟩ := not_or.1 hmissing
  obtain ⟨rest, pieces, hshowing⟩ := exists_lineShowing hkind hcollection
  have hnone : operation.target = none := by
    simpa [Option.eq_none_iff_forall_ne_some] using htarget
  rw [hshowing, hshowing, hnone] at hline
  have htext := Piece.text.inj (List.cons.inj hline).1
  have hlength := congrArg String.length htext
  simp [shown] at hlength

end Showing

/-! ## The lines of a record -/

theorem Operation.lineShowing_none (operation : Operation Template) :
    operation.lineShowing "None" = operation.line := by
  obtain ⟨kind, document, collection, target⟩ := operation
  cases target <;> cases kind <;> cases document <;> rfl

theorem Update.linesShowing_none (hasResult : Bool) (update : Update Template) :
    update.linesShowing "None" hasResult = update.lines hasResult := by
  obtain ⟨document, fields, collection, loop, oldReference⟩ := update
  cases collection <;> rfl

namespace Record

variable {record : Record Template}

/-- Guards keep the word out of all lines but those of operations and updates. -/
theorem linesShowing_of_modifications {word : String}
    (hoperations : ∀ operation ∈ members record.operations,
      operation.lineShowing word = operation.line)
    (hupdates : ∀ update ∈ members record.updates,
      update.linesShowing word record.result.isSome =
        update.lines record.result.isSome) (kind : ClauseKind) :
    record.linesShowing word kind = record.linesOf kind := by
  cases kind with
  | loop => exact record.loopLinesShowing_eq word
  | nestedLoop =>
      exact List.flatMap_congr fun join _ => join.linesShowing_eq word
  | grouping =>
      exact List.flatMap_congr fun collect _ => collect.linesShowing_eq word
  | traversal =>
      exact List.map_congr_left fun traversal _ => traversal.lineShowing_eq word
  | window =>
      exact List.flatMap_congr fun window _ => window.linesShowing_eq word
  | page => exact record.limitLinesShowing_eq word
  | operation => exact List.map_congr_left hoperations
  | update => exact List.flatMap_congr hupdates
  | _ => rfl

/-- The word for a field that is not set is `None`. -/
theorem linesShowing_none (record : Record Template) (kind : ClauseKind) :
    record.linesShowing "None" kind = record.linesOf kind :=
  linesShowing_of_modifications
    (fun operation _ => operation.lineShowing_none)
    (fun update _ => update.linesShowing_none _) kind

/-- With all collections given, only operations without a variable show a field
that is not set. -/
theorem linesShowing_eq_iff
    (hoperations : ∀ operation ∈ members record.operations,
      operation.collection.isSome)
    (hupdates : ∀ update ∈ members record.updates, update.collection.isSome) :
    (∀ word kind, record.linesShowing word kind = record.linesOf kind) ↔
      ∀ operation ∈ members record.operations, operation.IsAimed := by
  constructor
  · intro hlines operation hoperation
    have hline : operation.lineShowing "" = operation.line :=
      List.map_inj_left.1 (hlines "" .operation) operation hoperation
    apply operation.isAimed_of_lineShowing (hoperations operation hoperation)
    rw [hline, operation.lineShowing_none]
  · intro haimed word
    exact linesShowing_of_modifications
      (fun operation hoperation => operation.lineShowing_eq word
        (hoperations operation hoperation) (haimed operation hoperation))
      (fun update hupdate => update.linesShowing_eq word
        (hupdates update hupdate))

end Record

/-! ## The lines of a compiled query -/

/-- A line names the variable that its operation gives, or has the word for a
missing one in its place. -/
def Operation.Names (operation : Operation ε) (line : String) : Prop :=
  operation.kind ≠ .insert → ∃ rest,
    line = operation.kind.text ++ " " ++ shown "None" id operation.target ++
      " " ++ rest

theorem Operation.names_of_fills (operation : Operation Template)
    (hcollection : operation.collection.isSome) {line : String}
    {store last : BindingStore String}
    (hfills : Fills operation.line store line last) : operation.Names line := by
  intro hkind
  obtain ⟨rest, pieces, hshowing⟩ := exists_lineShowing hkind hcollection
  rw [← lineShowing_none, hshowing] at hfills
  obtain ⟨after, rfl⟩ := exists_of_fills_text hfills
  exact ⟨rest ++ after, String.append_assoc ..⟩

theorem Template.FillsEach.forall₂ {ι : Type} {line : ι → Template}
    {holds : ι → String → Prop} {items : List ι} {texts : List String}
    {store last : BindingStore String}
    (hholds : ∀ item ∈ items, ∀ before text after,
      Fills (line item) before text after → holds item text)
    (hfills : FillsEach (items.map line) store texts last) :
    List.Forall₂ holds items texts := by
  induction items generalizing store texts with
  | nil => cases hfills; exact .nil
  | cons item items hitems =>
      obtain ⟨hitem, hholds⟩ := List.forall_mem_cons.1 hholds
      cases hfills with
      | cons first rest =>
          exact .cons (hitem _ _ _ first) (hitems hholds rest)

namespace Query

variable {query nested : Query} {compiled : CompiledQuery}

theorem IsCompilable.isSome_collection (hsound : query.IsCompilable) :
    ∀ operation ∈ members query.operations, operation.collection.isSome := by
  intro operation hoperation
  obtain ⟨name, hname, -⟩ := hsound.operation_collection operation hoperation
  exact Option.isSome_of_eq_some hname

theorem IsCompilable.linesShowing_eq_iff (hsound : query.IsCompilable) :
    (∀ word kind, query.lineTemplates.linesShowing word kind =
        query.lineTemplates.linesOf kind) ↔
      ∀ operation ∈ members query.operations, operation.IsAimed := by
  rw [Record.linesShowing_eq_iff]
  · show (∀ operation ∈ members (query.map Expr.template).operations, _) ↔ _
    simp only [Record.map, Record.members_map, List.forall_mem_map]
    rfl
  · simp only [lineTemplates, Record.map, Record.members_map,
      List.forall_mem_map]
    exact hsound.isSome_collection
  · simp only [lineTemplates, Record.map, Record.members_map,
      List.forall_mem_map]
    intro update hupdate
    obtain ⟨name, hname, -⟩ := hsound.update_collection update hupdate
    exact Option.isSome_of_eq_some hname

/-- In a compiled query, and in every query rendered inside it, each operation
names the variable that it gives, and the word for a field that is not set stands
in the text only where an operation gives none.  Operations without a variable are
compiled like all others. -/
theorem operations_name_targets (hraw : query.raw = none)
    (htyped : query.isTyped = true) (hcompile : query.compile = .ok compiled)
    (hnested : nested ∈ query.renderedQueries) :
    (∃ linesOf, nested.StandsIn compiled.text linesOf ∧
      List.Forall₂ Operation.Names (members nested.operations)
        (linesOf .operation)) ∧
    (∀ kind, nested.lineTemplates.linesShowing "None" kind =
      nested.lineTemplates.linesOf kind) ∧
    ((∀ word kind, nested.lineTemplates.linesShowing word kind =
        nested.lineTemplates.linesOf kind) ↔
      ∀ operation ∈ members nested.operations, operation.IsAimed) := by
  have hsound := isCompilable_of_compile hraw htyped hcompile nested hnested
  obtain ⟨linesOf, hstands⟩ := exists_standsIn hraw htyped hcompile hnested
  refine ⟨⟨linesOf, hstands, ?_⟩, Record.linesShowing_none _,
    hsound.linesShowing_eq_iff⟩
  obtain ⟨first, last, hfilled⟩ := hstands.filled
  obtain ⟨before, after, hlines⟩ := hfilled.of_family hstands.length
    (show ClauseKind.operation ∈ ClauseKind.all by decide)
  simp only [lineTemplates, Record.linesOf, Record.map, Record.members_map,
    List.map_map] at hlines
  refine hlines.forall₂ fun operation hoperation before line after hfills => ?_
  exact Operation.names_of_fills (operation.map Expr.template)
    (hsound.isSome_collection operation hoperation) hfills

section Example

/-- Accounts whose owners are gone are removed and counted. -/
def orphanRemoval : Query where
  loop := some (.proper "a")
  source := some (.proper (.text "accounts"))
  operations := some [⟨.remove, none, some (.proper "accounts"), some "a"⟩]

def orphanReport : Query where
  letsAfterCollect := some [("removed", .subquery orphanRemoval)]
  result := some (.reference "removed")

theorem orphanRemoval_names_target :
    ∃ compiled, orphanReport.compile = .ok compiled ∧
      ∃ linesOf, orphanRemoval.StandsIn compiled.text linesOf ∧
        ∃ rest, linesOf .operation = ["REMOVE a " ++ rest] := by
  obtain ⟨compiled, hcompile⟩ : ∃ compiled,
      orphanReport.compile = .ok compiled := ⟨_, rfl⟩
  have hnested : orphanRemoval ∈ orphanReport.renderedQueries :=
    List.mem_cons_of_mem _ List.mem_cons_self
  obtain ⟨⟨linesOf, hstands, hnames⟩, -⟩ :=
    operations_name_targets rfl rfl hcompile hnested
  refine ⟨compiled, hcompile, linesOf, hstands, ?_⟩
  generalize linesOf .operation = lines at hnames
  cases hnames with
  | cons hline hrest =>
      cases hrest
      obtain ⟨rest, rfl⟩ := hline (by decide)
      exact ⟨rest, rfl⟩

/-- Removes a document without saying which. -/
def aimlessRemoval : Query where
  operations := some [⟨.remove, none, some (.proper "users"), none⟩]

theorem aimlessRemoval_compiles :
    aimlessRemoval.raw = none ∧ aimlessRemoval.isTyped = true ∧
      (∀ operation ∈ members aimlessRemoval.operations,
        ¬ operation.IsAimed) ∧
      ∃ compiled, aimlessRemoval.compile = .ok compiled ∧
        compiled.text = "REMOVE None IN users" := by
  refine ⟨rfl, rfl, ?_, _, rfl, rfl⟩
  intro operation hoperation
  rw [List.mem_singleton.1 hoperation]
  rintro (hkind | ⟨target, htarget⟩)
  · cases hkind
  · cases htarget

end Example

end Query

end ArangoQuery
