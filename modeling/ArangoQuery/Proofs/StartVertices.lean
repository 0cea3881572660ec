import ArangoQuery.Builder.Session
import ArangoQuery.Proofs.DeclaredLoops
import ArangoQuery.Proofs.PlaceholderTexts
import ArangoQuery.Proofs.SearchedViews
import ArangoQuery.Proofs.StringLiterals
import ArangoQuery.Proofs.UnsetFields

/-!
# Start vertices

The start vertex of a traversal is written between its direction and its graph.  A
document handle is quoted, and a quoted handle is one literal that stands for it.
What begins as a placeholder or as a literal is written as it is, and nothing asks
whether it goes on as one, though a text that a loop iterates is asked for just
that.  So the text of a start vertex keeps to its place exactly if the vertex that
is given does (`Query.vertices_confined_iff`).
-/

namespace ArangoQuery

open Record (members)
open Template (fills_text_iff)

/-- A text that is one placeholder or one string literal if it begins like one, and
has no slash in it otherwise. -/
structure IsConfined (text : String) : Prop where
  placeholder : text.toList.head? = some '@' → IsPlaceholderText text
  literal : text.toList.head? = some '"' → Quoted.IsLiteral text
  plain : text.toList.head? ≠ some '@' → text.toList.head? ≠ some '"' →
    '/' ∉ text.toList

/-- A start vertex that goes on as it begins. -/
structure IsWholeVertex (vertex : String) : Prop where
  placeholder : vertex.toList.head? = some '@' → IsPlaceholderText vertex
  literal : vertex.toList.head? = some '"' → Quoted.IsLiteral vertex

/-- How a start vertex is written. -/
structure WritesVertex (vertex shown : String) : Prop where
  confined_iff : IsConfined shown ↔ IsWholeVertex vertex
  spells : vertex.toList.head? ≠ some '@' → vertex.toList.head? ≠ some '"' →
    '/' ∈ vertex.toList → Quoted.Spells shown vertex

theorem vertexText_of_plain {vertex : String}
    (hplain : vertex.toList.head? = some '@' ∨ vertex.toList.head? = some '"' ∨
      '/' ∉ vertex.toList) : vertexText vertex = vertex := by
  rw [vertexText, if_pos]
  simpa [startsWithAt, or_assoc] using hplain

theorem vertexText_of_handle {vertex : String}
    (hmark : vertex.toList.head? ≠ some '@')
    (hquote : vertex.toList.head? ≠ some '"') (hslash : '/' ∈ vertex.toList) :
    vertexText vertex = Quoted.quote vertex := by
  rw [vertexText, if_neg]
  simp [startsWithAt, hmark, hquote, hslash]

theorem isConfined_quote (text : String) : IsConfined (Quoted.quote text) := by
  have hhead : (Quoted.quote text).toList.head? = some '"' := by
    simp [Quoted.quote]
  constructor
  · intro hmark
    rw [hhead] at hmark
    exact absurd hmark (by decide)
  · exact fun _ => (Quoted.spells_quote text).isLiteral
  · exact fun _ hquote => absurd hhead hquote

theorem writesVertex_vertexText (vertex : String) :
    WritesVertex vertex (vertexText vertex) := by
  by_cases hplain : vertex.toList.head? = some '@' ∨
      vertex.toList.head? = some '"' ∨ '/' ∉ vertex.toList
  case pos =>
    rw [vertexText_of_plain hplain]
    refine ⟨⟨?_, ?_⟩, ?_⟩
    · exact fun hconfined => ⟨hconfined.placeholder, hconfined.literal⟩
    · intro hwhole
      refine ⟨hwhole.placeholder, hwhole.literal, fun hmark hquote => ?_⟩
      exact (hplain.resolve_left hmark).resolve_left hquote
    · intro hmark hquote hslash
      exact absurd hslash ((hplain.resolve_left hmark).resolve_left hquote)
  case neg =>
    obtain ⟨hmark, hquote, hslash⟩ : vertex.toList.head? ≠ some '@' ∧
        vertex.toList.head? ≠ some '"' ∧ '/' ∈ vertex.toList := by
      simpa only [not_or, not_not] using hplain
    rw [vertexText_of_handle hmark hquote hslash]
    refine ⟨⟨?_, ?_⟩, ?_⟩
    · exact fun _ => ⟨fun h => absurd h hmark, fun h => absurd h hquote⟩
    · exact fun _ => isConfined_quote vertex
    · exact fun _ _ _ => Quoted.spells_quote vertex

/-- The line of a loop over a graph has the start vertex in its place. -/
def ShowsVertex (loop : DeclaredLoop) (line : String) : Prop :=
  ∀ traversal, loop.source = some (.proper (.graph traversal)) →
    ∃ shown options,
      line = "FOR " ++ loop.loop ++ " IN " ++ traversal.depthRange ++ " " ++
        traversal.direction.text ++ " " ++ shown ++ " GRAPH " ++
        Quoted.quote traversal.graph ++ options ∧
      WritesVertex traversal.startVertex shown

namespace Query

variable {query : Query} {compiled : CompiledQuery}

/-- The main loop, if it has a name. -/
def mainLoop (query : Query) : Option DeclaredLoop :=
  query.mainNames.map fun names => { loop := names, source := query.source }

/-- The loops that are written: the main one and those nested in it. -/
def writtenLoops (query : Query) : List DeclaredLoop :=
  query.mainLoop.toList ++ members query.joins

theorem showsVertex_of_fills {loop : DeclaredLoop} {line : String}
    {store last : BindingStore String}
    (hfills : Template.Fills (loopTemplate loop.loop loop.source) store line last) :
    ShowsVertex loop line := by
  intro traversal hsource
  rw [hsource, ← loopLine_eq] at hfills
  obtain ⟨rest, hrest, rfl⟩ := fills_text_iff.1 hfills
  obtain ⟨options, -, rfl⟩ := fills_text_iff.1 hrest
  refine ⟨vertexText traversal.startVertex, options, ?_,
    writesVertex_vertexText traversal.startVertex⟩
  simp only [GraphSource.head, GraphSource.depthRange, GraphSource.map,
    String.append_assoc]

theorem linesOf_loop_of_sources
    (hsource : query.loopNames.isSome = true ∨
        Slot.isPresentText query.loop = true →
      Slot.isPresentSource query.source = true) :
    query.lineTemplates.linesOf .loop =
      query.mainLoop.toList.map fun loop =>
        loopTemplate loop.loop loop.source := by
  rw [mainLoop]
  cases hnames : query.mainNames with
  | none =>
      rw [linesOf_loop_of_unnamed hnames]
      rfl
  | some names =>
      have hmain := query.isSome_mainNames.1 (Option.isSome_of_eq_some hnames)
      rw [linesOf_loop_eq (hsource hmain), hnames]
      rfl

theorem StandsIn.showsVertex {text : String}
    {linesOf : ClauseKind → List String} (hstands : query.StandsIn text linesOf)
    (hsound : query.faults = []) :
    List.Forall₂ ShowsVertex query.writtenLoops
      (linesOf .loop ++ linesOf .nestedLoop) := by
  obtain ⟨hmain, hnested⟩ := sources_of_faults hsound
  obtain ⟨first, last, hfilled⟩ := hstands.filled
  obtain ⟨_, _, hloop⟩ := hfilled.of_family hstands.length
    (show ClauseKind.loop ∈ ClauseKind.all by decide)
  obtain ⟨_, _, hjoins⟩ := hfilled.of_family hstands.length
    (show ClauseKind.nestedLoop ∈ ClauseKind.all by decide)
  rw [linesOf_loop_of_sources hmain] at hloop
  rw [linesOf_nestedLoop hnested] at hjoins
  refine List.rel_append (hloop.forall₂ ?_) (hjoins.forall₂ ?_)
  · exact fun loop _ before line after hfills => showsVertex_of_fills hfills
  · exact fun loop _ before line after hfills => showsVertex_of_fills hfills

/-- In the text of a compiled query the line of every loop over a graph, also of
those in the queries nested inside, has the start vertex between the direction and
the graph.  Its text is confined exactly if the vertex that is given goes on as it
begins; a vertex with a slash that begins as neither a placeholder nor a literal is
written as a literal that stands for it. -/
theorem vertices_confined_iff (hcompile : query.compile = .ok compiled) :
    ∀ nested ∈ query.renderedQueries,
      ∃ linesOf, nested.StandsIn compiled.text linesOf ∧
        List.Forall₂ ShowsVertex nested.writtenLoops
          (linesOf .loop ++ linesOf .nestedLoop) := by
  intro nested hnested
  cases hraw : query.raw with
  | some text =>
      rw [renderedQueries, Expr.renderedQueries_raw hraw] at hnested
      cases hnested
  | none =>
      have hpart := isPartOf_of_compile hraw hcompile hnested
      obtain ⟨last, hfills, -⟩ := (compile_eq_ok_iff hraw).1 hcompile
      obtain ⟨linesOf, hstands⟩ := hpart.exists_standsIn hfills
      exact ⟨linesOf, hstands, hstands.showsVertex hpart.sound⟩

section Example

/-- Follows a graph from a start vertex. -/
def acquaintances (vertex : String) : Query where
  loop := some (.proper "v")
  source := some (.proper (.graph
    { graph := "social", direction := .outbound, startVertex := vertex,
      minDepth := 1, maxDepth := none, options := none }))
  result := some (.reference "v")

theorem acquaintances_begin_at_user :
    ∃ compiled linesOf, (acquaintances "users/1").compile = .ok compiled ∧
      (acquaintances "users/1").StandsIn compiled.text linesOf ∧
        ∃ shown options,
          linesOf .loop ++ linesOf .nestedLoop =
            ["FOR v IN 1..1 OUTBOUND " ++ shown ++ " GRAPH " ++ "\"social\"" ++
              options] ∧
          IsConfined shown ∧ Quoted.Spells shown "users/1" := by
  obtain ⟨compiled, hcompile⟩ : ∃ compiled,
      (acquaintances "users/1").compile = .ok compiled := ⟨_, rfl⟩
  obtain ⟨linesOf, hstands, hshows⟩ :=
    vertices_confined_iff hcompile (acquaintances "users/1") List.mem_cons_self
  refine ⟨compiled, linesOf, hcompile, hstands, ?_⟩
  generalize linesOf .loop ++ linesOf .nestedLoop = lines at hshows ⊢
  cases hshows with
  | cons hloop hrest =>
      cases hrest
      obtain ⟨shown, options, rfl, hwrites⟩ := hloop _ rfl
      refine ⟨shown, options, rfl, hwrites.confined_iff.2 ⟨?_, ?_⟩,
        hwrites.spells (by decide) (by decide) (by decide)⟩
      · exact fun hmark => absurd hmark (by decide)
      · exact fun hquote => absurd hquote (by decide)

/-- A vertex that begins as a placeholder stands in the text however it goes on,
and so does one that begins as a literal.  As the source of a loop the first is
refused. -/
theorem vertex_leaves_its_place :
    (∃ builder compiled,
      Builder.runChain (fun _ => {}) {}
          [.call (.loop (.text "v")),
            .call (.graph (.text "social") (.text "OUTBOUND")
              (.text "@start || 1") (.scalar (.int 1)) .null .null),
            .call (.result (.text "v") (.scalar (.bool false)))] =
        some builder ∧
        builder.record = acquaintances "@start || 1" ∧
        builder.record.compile = .ok compiled ∧
        compiled.text =
          "FOR v IN 1..1 OUTBOUND @start || 1 GRAPH \"social\"\nRETURN v" ∧
        ¬ IsPlaceholderText "@start || 1") ∧
    (∃ compiled, (acquaintances "\"u/1\" GRAPH \"g").compile = .ok compiled ∧
      compiled.text =
        "FOR v IN 1..1 OUTBOUND \"u/1\" GRAPH \"g GRAPH \"social\"\nRETURN v" ∧
      ¬ Quoted.IsLiteral "\"u/1\" GRAPH \"g") ∧
    ∃ fault, Query.compile
      { acquaintances "@start || 1" with
        source := some (.proper (.text "@start || 1")) } =
      .error (.configuration fault) := by
  refine ⟨⟨_, _, rfl, rfl, rfl, rfl, by decide⟩, ⟨_, rfl, rfl, ?_⟩, _, rfl⟩
  rintro ⟨rest, hrest, hliteral⟩
  have hfront : ∀ character ∈ "u/1".toList,
      character ≠ '"' ∧ character ≠ '\\' := by simp
  obtain rfl : "u/1".toList ++ '"' :: " GRAPH \"g".toList = rest :=
    (List.cons.inj hrest).2
  exact absurd (hliteral.eq_nil_of_quote hfront) (by decide)

end Example

end Query

end ArangoQuery
