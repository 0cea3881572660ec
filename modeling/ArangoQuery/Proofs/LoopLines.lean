import ArangoQuery.Proofs.LineWords

/-!
# The lines of loops

Only the lines of loops begin with `FOR`.  So they are told apart in the text of a
compiled query by how they begin (`Query.Writes.filter_isLoopLine`), and as no
value is bound before them they are filled from an empty store
(`Query.WritesLoops`).  What a loop iterates is written in the form of its kind
(`Query.iteratedText`).
-/

namespace ArangoQuery

open Record (members)
open Template (FillsEach fillsEach_append_iff)

def isLoopLine (line : String) : Bool :=
  "FOR ".toList.isPrefixOf line.toList

namespace Record

variable {record : Record Template}

/-- No value is bound in the line of the collections to be locked. -/
theorem eq_of_fillsEach_withLines {texts : List String}
    {store last : BindingStore String}
    (hfills : FillsEach record.withLines store texts last) : last = store := by
  unfold withLines at hfills
  split at hfills
  · cases hfills
    rfl
  · split at hfills
    · obtain _ | ⟨first, rest⟩ := hfills
      cases rest
      cases first with
      | text _ run =>
          cases run
          rfl
    · obtain _ | ⟨first, rest⟩ := hfills
      cases first

end Record

theorem Expr.template_object (members : Document Expr) :
    (Expr.object members).template =
      Document.template (Document.map Expr.template members) := by
  rw [Expr.template, Expr.object, Expr.fold_of]
  simp only [Node.map, Node.template, Document.map, List.map_map,
    Function.comp_def]
  rfl

namespace Query

variable {query : Query} {compiled : CompiledQuery}
variable {linesOf : ClauseKind → List String}

theorem Writes.filter_isLoopLine (hwrites : query.Writes compiled linesOf) :
    (ClauseKind.all.flatMap linesOf).filter isLoopLine =
      linesOf .loop ++ linesOf .nestedLoop := by
  have hmark : ∀ kind ∈ ClauseKind.all, ∀ word ∈ kind.words,
      Settles "FOR " word ∧
        beginsWith "FOR " word = [ClauseKind.loop, .nestedLoop].contains kind := by
    decide
  refine (hwrites.filter_beginsWith hmark).trans ?_
  exact congrArg (linesOf .loop ++ ·) (List.append_nil _)

/-- The lines of the loops come first, apart from a line without values. -/
theorem Writes.fillsEach_loops (hwrites : query.Writes compiled linesOf) :
    ∃ last, FillsEach
      (query.lineTemplates.linesOf .loop ++
        query.lineTemplates.linesOf .nestedLoop)
      {} (linesOf .loop ++ linesOf .nestedLoop) last := by
  obtain ⟨last, hfills, -⟩ := hwrites.filled
  simp only [ClauseKind.all, List.flatMap_cons] at hfills
  rw [← List.append_assoc (linesOf .loop),
    ← List.append_assoc (query.lineTemplates.linesOf .loop),
    fillsEach_append_iff] at hfills
  obtain ⟨front, back, next, hfront, hback, htexts⟩ := hfills
  obtain ⟨rfl, rfl⟩ := List.append_inj htexts
    ((hwrites.length .collections).trans hfront.length_eq.symm)
  rw [Record.eq_of_fillsEach_withLines hfront] at hback
  rw [fillsEach_append_iff] at hback
  obtain ⟨front, back, next, hloops, -, htexts⟩ := hback
  obtain ⟨rfl, -⟩ := List.append_inj htexts (by
    rw [hloops.length_eq, List.length_append, List.length_append,
      hwrites.length, hwrites.length])
  exact ⟨next, hloops⟩

/-- The lines that begin with `FOR` in the text of a compiled query are those of
these loops. -/
structure WritesLoops (query : Query) (compiled : CompiledQuery)
    (loops : List Template) (linesOf : ClauseKind → List String) : Prop
    extends query.Writes compiled linesOf where
  loops : ∃ last, FillsEach loops {}
    ((ClauseKind.all.flatMap linesOf).filter isLoopLine) last

theorem WritesLoops.length_loops {loops : List Template}
    (hwrites : query.WritesLoops compiled loops linesOf) :
    loops.length = (query.lineTemplates.linesOf .loop).length +
      (query.lineTemplates.linesOf .nestedLoop).length := by
  obtain ⟨last, hfills⟩ := hwrites.loops
  rw [hwrites.filter_isLoopLine] at hfills
  calc loops.length
      = (linesOf .loop ++ linesOf .nestedLoop).length := hfills.length_eq.symm
    _ = (query.lineTemplates.linesOf .loop).length +
          (query.lineTemplates.linesOf .nestedLoop).length := by
        rw [List.length_append, hwrites.length, hwrites.length]

theorem exists_writesLoops (hraw : query.raw = none)
    (hcompile : query.compile = .ok compiled) :
    ∃ linesOf, query.WritesLoops compiled
      (query.lineTemplates.linesOf .loop ++
        query.lineTemplates.linesOf .nestedLoop) linesOf := by
  obtain ⟨linesOf, hwrites⟩ := query.exists_writes hraw hcompile
  refine ⟨linesOf, hwrites, ?_⟩
  rw [hwrites.filter_isLoopLine]
  exact hwrites.fillsEach_loops

/-! ## The loops of a query -/

/-- The word for the direction of a traversal. -/
def directionWord : Direction → String
  | .outbound => "OUTBOUND"
  | .inbound => "INBOUND"
  | .any => "ANY"

/-- A start vertex as it is written: a document handle is quoted, and all that
begins as a placeholder or as a literal stands as it is. -/
def writtenVertex (vertex : String) : String :=
  if '/' ∈ vertex.toList ∧ vertex.toList.head? ≠ some '@' ∧
      vertex.toList.head? ≠ some '"'
  then Quoted.quote vertex
  else vertex

/-- The options of a traversal as they are written, if there are any. -/
def writtenOptions : Option (Document Expr) → Template
  | none => []
  | some options => .text " OPTIONS " :: (Expr.object options).template

/-- What a loop iterates, as it is written: a name as it is given, a range by its
ends, and a traversal by its depths, its direction, its start vertex and its graph,
with the options behind them. -/
def iteratedText : Slot (Source Expr) → Template
  | .proper (.text name) => [.text name]
  | .proper (.range first last) =>
      [.text (toString first ++ ".." ++ toString last)]
  | .proper (.graph traversal) =>
      .text (toString traversal.minDepth ++ ".." ++
          toString (traversal.maxDepth.getD traversal.minDepth) ++ " " ++
          directionWord traversal.direction ++ " " ++
          writtenVertex traversal.startVertex ++ " GRAPH " ++
          Quoted.quote traversal.graph) ::
        writtenOptions traversal.options
  | .stray content => [.text content.display]

/-- The line of a loop over a source. -/
def loopTemplate (names : String) (source : Option (Slot (Source Expr))) :
    Template :=
  .text ("FOR " ++ names ++ " IN ") :: (source.map iteratedText).getD []

theorem vertexText_eq (vertex : String) :
    vertexText vertex = writtenVertex vertex := by
  rw [vertexText, writtenVertex]
  by_cases hhandle : '/' ∈ vertex.toList ∧ vertex.toList.head? ≠ some '@' ∧
      vertex.toList.head? ≠ some '"'
  · obtain ⟨hslash, hmark, hquote⟩ := hhandle
    simp [startsWithAt, hslash, hmark, hquote]
  · rw [if_neg hhandle, if_pos]
    simp only [startsWithAt, Bool.or_eq_true, decide_eq_true_eq,
      Bool.not_eq_true', List.contains_eq_mem, decide_eq_false_iff_not]
    tauto

theorem text_direction (direction : Direction) :
    direction.text = directionWord direction := by
  cases direction <;> rfl

theorem optionsTemplate_eq (options : Option (Document Expr)) :
    optionsTemplate (options.map (Document.map Expr.template)) =
      writtenOptions options := by
  cases options with
  | none => rfl
  | some options =>
      rw [writtenOptions, Expr.template_object]
      rfl

/-- A query writes what its loops iterate in this way. -/
theorem sourceTemplate_eq (source : Slot (Source Expr)) :
    (source.map (Source.map Expr.template)).sourceTemplate =
      iteratedText source := by
  rcases source with (name | ⟨first, last⟩ | traversal) | content
  · rfl
  · rfl
  · rw [iteratedText, ← text_direction, ← vertexText_eq, ← optionsTemplate_eq]
    rfl
  · rfl

theorem loopLine_eq (names : String) (source : Slot (Source Expr)) :
    loopLine names (source.map (Source.map Expr.template)) =
      loopTemplate names (some source) :=
  congrArg (Piece.text ("FOR " ++ names ++ " IN ") :: ·)
    (sourceTemplate_eq source)

theorem linesOf_nestedLoop
    (hsources : ∀ join ∈ members query.joins,
      Slot.isPresentSource join.source = true) :
    query.lineTemplates.linesOf .nestedLoop =
      (members query.joins).map fun join =>
        loopTemplate join.loop join.source := by
  have hline : ∀ join ∈ members query.joins,
      (join.map Expr.template).lines =
        [loopTemplate join.loop join.source] := by
    rintro ⟨loop, source⟩ hjoin
    have hsource := hsources _ hjoin
    rw [← Slot.isPresentSource_map Expr.template] at hsource
    cases source with
    | none => cases hsource
    | some source =>
        rw [← loopLine_eq, Join.lines, Join.map]
        exact if_pos hsource
  calc query.lineTemplates.linesOf .nestedLoop
      = (members query.joins).flatMap fun join =>
          (join.map Expr.template).lines := by
        simp only [Record.linesOf, lineTemplates, Record.map,
          Record.members_map, List.flatMap_map]
    _ = (members query.joins).flatMap fun join =>
          [loopTemplate join.loop join.source] := List.flatMap_congr hline
    _ = (members query.joins).map fun join =>
          loopTemplate join.loop join.source := List.map_eq_flatMap.symm

/-- Names of a traversal come before the name of a loop. -/
theorem linesOf_loop (hsource : Slot.isPresentSource query.source = true) :
    query.lineTemplates.linesOf .loop =
      match query.loopNames, query.loop with
      | some names, _ =>
          [loopTemplate (", ".intercalate names.names) query.source]
      | none, some loop =>
          if Slot.isPresentText (some loop) then
            [loopTemplate loop.displayText query.source]
          else []
      | none, none => [] := by
  rw [← Slot.isPresentSource_map Expr.template] at hsource
  cases hquery : query.source with
  | none => rw [hquery] at hsource; cases hsource
  | some source =>
      rw [hquery] at hsource
      simp only [Record.linesOf, lineTemplates, Record.map, Record.loopLines,
        hquery, ← loopLine_eq]
      exact if_pos hsource

/-- The loops of a query without faults iterate something. -/
theorem sources_of_faults (hfaults : query.faults = []) :
    (query.loopNames.isSome = true ∨ Slot.isPresentText query.loop = true →
      Slot.isPresentSource query.source = true) ∧
    ∀ join ∈ members query.joins, Slot.isPresentSource join.source = true := by
  have hloops : query.loopFaults = [] := by
    simp only [faults, List.append_eq_nil_iff] at hfaults
    tauto
  simp only [loopFaults, List.append_eq_nil_iff, List.flatMap_eq_nil_iff]
    at hloops
  obtain ⟨⟨hloop, hnames⟩, hjoins⟩ := hloops
  refine ⟨fun hmain => ?_, fun join hjoin => ?_⟩
  · cases hsource : Slot.isPresentSource query.source with
    | true => rfl
    | false =>
        obtain hmain | hmain := hmain
        · obtain ⟨names, hmain⟩ := Option.isSome_iff_exists.1 hmain
          simp [hmain, hsource] at hnames
        · cases hquery : query.loop with
          | none => rw [hquery] at hmain; cases hmain
          | some loop =>
              rw [hquery] at hmain
              simp [hquery, hmain, hsource] at hloop
  · by_contra habsent
    exact List.cons_ne_nil _ _ ((if_neg habsent).symm.trans (hjoins join hjoin))

end Query

end ArangoQuery
