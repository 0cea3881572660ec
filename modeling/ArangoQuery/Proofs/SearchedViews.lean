import ArangoQuery.Builder.Session
import ArangoQuery.Proofs.CallOrder
import ArangoQuery.Proofs.LoopLines
import ArangoQuery.Proofs.NestedText

/-!
# Searched views

A search filters what the main loop takes from a view, so the loop should iterate
that view.  A record is compiled only if the source of its main loop, where it has
one, is the view of every search.  But the loop is written only if the record
names it, and nothing asks a record with searches for such a name.  So in the text
of a compiled query the searches of a record stand behind the loop over their view
exactly if the record names a main loop; otherwise they stand without any
(`Query.searches_follow_loop_iff`).
-/

namespace ArangoQuery

open Record (members)
open Template (fills_ofText_iff fills_text_iff)

def isSearchLine (line : String) : Bool :=
  beginsWith "SEARCH " line

namespace Query

/-- The searches that are written, which are those with conditions. -/
def writtenSearches (query : Query) : List (Search Expr) :=
  (members query.searches).filter fun search => !search.conditions.isEmpty

/-- The variables of the main loop: those of a traversal come before a single
one. -/
def mainNames (query : Query) : Option String :=
  match query.loopNames, query.loop with
  | some names, _ => some (", ".intercalate names.names)
  | none, some loop =>
      if Slot.isPresentText (some loop) then some loop.displayText else none
  | none, none => none

/-- The template of a main loop over a view. -/
def viewLoop (names view : String) : Template :=
  loopTemplate names (some (.proper (.text view)))

/-- The main loop is written, and it iterates a view. -/
def IteratesView (query : Query) (linesOf : ClauseKind → List String)
    (view : String) : Prop :=
  ∃ names ∈ query.mainNames, linesOf .loop = ["FOR " ++ names ++ " IN " ++ view]

variable {query : Query} {compiled : CompiledQuery}
variable {linesOf : ClauseKind → List String}

/-! ## The lines of searches -/

theorem linesOf_search (query : Query) :
    query.lineTemplates.linesOf .search =
      query.writtenSearches.flatMap fun search =>
        (search.map Expr.template).lines := by
  simp only [Record.linesOf, lineTemplates, Record.map, Record.members_map,
    List.flatMap_map, writtenSearches]
  induction members query.searches with
  | nil => rfl
  | cons search searches hsearches =>
      rw [List.flatMap_cons, hsearches, List.filter_cons]
      obtain ⟨view, conditions, options⟩ := search
      cases conditions with
      | nil => rfl
      | cons condition conditions => rfl

theorem length_linesOf_search (query : Query) :
    (query.lineTemplates.linesOf .search).length =
      query.writtenSearches.length := by
  rw [linesOf_search, List.length_flatMap]
  have hone : ∀ search ∈ query.writtenSearches,
      (search.map Expr.template).lines.length = 1 := by
    rintro ⟨view, conditions, options⟩ hsearch
    cases conditions with
    | nil => simp [writtenSearches] at hsearch
    | cons condition conditions => rfl
  rw [List.map_congr_left hone]
  simp

/-- The lines of searches are told from all others by how they begin. -/
theorem StandsIn.isSearchLine_eq {text : String}
    (hstands : query.StandsIn text linesOf) (kind : ClauseKind) :
    ∀ line ∈ linesOf kind, isSearchLine line = (kind == .search) := by
  intro line hline
  obtain ⟨first, last, hfilled⟩ := hstands.filled
  have hkind : kind ∈ ClauseKind.all := by cases kind <;> decide
  obtain ⟨before, after, hlines⟩ := hfilled.of_family hstands.length hkind
  have hmark : ∀ word ∈ kind.words, Settles "SEARCH " word ∧
      beginsWith "SEARCH " word = (kind == .search) := by
    cases kind <;> decide
  exact Record.beginsWith_of_fillsEach hmark hlines hline

/-! ## The main loop -/

theorem isSome_mainNames (query : Query) :
    query.mainNames.isSome = true ↔
      query.loopNames.isSome = true ∨ Slot.isPresentText query.loop = true := by
  rw [mainNames]
  rcases query.loopNames with _ | names
  · rcases query.loop with _ | loop
    · simp [Slot.isPresentText]
    · simp
  · simp

theorem linesOf_loop_eq (hsource : Slot.isPresentSource query.source = true) :
    query.lineTemplates.linesOf .loop =
      (query.mainNames.map (loopTemplate · query.source)).toList := by
  rw [linesOf_loop hsource, mainNames]
  rcases query.loopNames with _ | names
  · rcases query.loop with _ | loop
    · rfl
    · simp only [apply_ite (Option.map _), apply_ite Option.toList]
      rfl
  · rfl

theorem linesOf_loop_of_unnamed (hnames : query.mainNames = none) :
    query.lineTemplates.linesOf .loop = [] := by
  cases hsource : Slot.isPresentSource query.source with
  | true =>
      rw [linesOf_loop_eq hsource, hnames]
      rfl
  | false =>
      rw [← Slot.isPresentSource_map Expr.template] at hsource
      simp only [Record.linesOf, lineTemplates, Record.map, Record.loopLines,
        hsource]
      split <;> rfl

/-- A sound record with a main loop iterates the view of every search. -/
theorem linesOf_loop_of_sound (hsound : query.faults = []) {names : String}
    (hnames : query.mainNames = some names) {search : Search Expr}
    (hsearch : search ∈ members query.searches) :
    query.lineTemplates.linesOf .loop = [viewLoop names search.view] := by
  have hpresent : Slot.isPresentSource query.source = true :=
    (sources_of_faults hsound).1
      (query.isSome_mainNames.1 (Option.isSome_of_eq_some hnames))
  obtain ⟨source, hsource⟩ : ∃ source, query.source = some source := by
    cases hquery : query.source with
    | none => rw [hquery] at hpresent; cases hpresent
    | some source => exact ⟨source, rfl⟩
  have hsearches : query.searchFaults = [] := by
    simp only [faults, List.append_eq_nil_iff] at hsound
    tauto
  have hview : source = .proper (.text search.view) :=
    searchFaults_eq_nil_iff.1 hsearches search hsearch source hsource
  rw [linesOf_loop_eq hpresent, hnames, hsource, hview]
  rfl

theorem StandsIn.iteratesView {text : String}
    (hstands : query.StandsIn text linesOf) {names view : String}
    (hnames : query.mainNames = some names)
    (hloop : query.lineTemplates.linesOf .loop = [viewLoop names view]) :
    query.IteratesView linesOf view := by
  obtain ⟨first, last, hfilled⟩ := hstands.filled
  obtain ⟨before, after, hlines⟩ := hfilled.of_family hstands.length
    (show ClauseKind.loop ∈ ClauseKind.all by decide)
  refine ⟨names, hnames, ?_⟩
  rw [hloop, viewLoop, loopTemplate] at hlines
  generalize linesOf .loop = lines at hlines
  obtain _ | ⟨hfills, hrest⟩ := hlines
  cases hrest
  obtain ⟨rest, hview, rfl⟩ := fills_text_iff.1 hfills
  obtain ⟨rfl, -⟩ := fills_ofText_iff.1 hview
  rfl

theorem StandsIn.iteratesViews_iff {text : String}
    (hstands : query.StandsIn text linesOf) (hsound : query.faults = []) :
    (∀ search ∈ query.writtenSearches,
        query.IteratesView linesOf search.view) ↔
      query.mainNames.isSome = true ∨ query.writtenSearches = [] := by
  constructor
  · intro hviews
    rcases hsearches : query.writtenSearches with _ | ⟨search, searches⟩
    · exact .inr rfl
    · obtain ⟨names, hnames, -⟩ :=
        hviews search (hsearches ▸ List.mem_cons_self)
      exact .inl (Option.isSome_of_eq_some hnames)
  · rintro (hnames | hnone) search hsearch
    · obtain ⟨names, hnames⟩ := Option.isSome_iff_exists.1 hnames
      exact hstands.iteratesView hnames
        (linesOf_loop_of_sound hsound hnames (List.mem_of_mem_filter hsearch))
    · rw [hnone] at hsearch
      cases hsearch

/-- In the text of a compiled query the searches of every record, also of those
nested inside, iterate their views exactly if the record has variables for a main
loop; otherwise they are written without one.  A record with such variables is
refused if its main loop does not iterate the view of a search. -/
theorem searches_follow_loop_iff (hraw : query.raw = none) :
    (∀ compiled, query.compile = .ok compiled →
      ∀ nested ∈ query.renderedQueries,
        ∃ linesOf, nested.StandsIn compiled.text linesOf ∧
          (∀ kind, ∀ line ∈ linesOf kind,
            isSearchLine line = (kind == .search)) ∧
          (linesOf .search).length = nested.writtenSearches.length ∧
          ((∀ search ∈ nested.writtenSearches,
              nested.IteratesView linesOf search.view) ↔
            nested.mainNames.isSome = true ∨ nested.writtenSearches = []) ∧
          (nested.mainNames = none → linesOf .loop = [])) ∧
    (query.mainNames.isSome = true →
      (∃ search ∈ query.writtenSearches, ∀ names,
        viewLoop names search.view ∉ query.lineTemplates.linesOf .loop) →
      ∃ fault, query.compile = .error (.configuration fault)) := by
  constructor
  · intro compiled hcompile nested hnested
    have hpart := isPartOf_of_compile hraw hcompile hnested
    obtain ⟨last, hfills, -⟩ := (compile_eq_ok_iff hraw).1 hcompile
    obtain ⟨linesOf, hstands⟩ := hpart.exists_standsIn hfills
    refine ⟨linesOf, hstands, hstands.isSearchLine_eq,
      (hstands.length .search).trans nested.length_linesOf_search,
      hstands.iteratesViews_iff hpart.sound, fun hnames => ?_⟩
    have hlength := hstands.length .loop
    rw [linesOf_loop_of_unnamed hnames] at hlength
    exact List.eq_nil_of_length_eq_zero hlength
  · rintro hnames ⟨search, hsearch, hviews⟩
    apply compile_of_fault hraw
    intro hsound
    obtain ⟨names, hnames⟩ := Option.isSome_iff_exists.1 hnames
    apply hviews names
    rw [linesOf_loop_of_sound hsound hnames (List.mem_of_mem_filter hsearch)]
    exact List.mem_singleton_self _

section Example

def hasTitle : Expr :=
  .of (.binary .equal (.reference "d.title") (.literal (.text "Graphs")))

/-- Searches the articles for a title. -/
def titleSearch : Query where
  loop := some (.proper "d")
  source := some (.proper (.text "articles"))
  searches := some [⟨"articles", [hasTitle], none⟩]
  result := some (.reference "d")

theorem titleSearch_follows_loop :
    (∃ compiled, titleSearch.compile = .ok compiled ∧
      ∃ linesOf, titleSearch.StandsIn compiled.text linesOf ∧
        (linesOf .search).length = 1 ∧
          linesOf .loop = ["FOR d IN articles"]) ∧
      ∃ fault, Query.compile
          { titleSearch with source := some (.proper (.text "books")) } =
        .error (.configuration fault) := by
  constructor
  · obtain ⟨compiled, hcompile⟩ : ∃ compiled,
        titleSearch.compile = .ok compiled := ⟨_, rfl⟩
    have hnested : titleSearch ∈ titleSearch.renderedQueries :=
      List.mem_cons_self
    obtain ⟨linesOf, hstands, -, hlength, hviews, -⟩ :=
      (searches_follow_loop_iff rfl).1 compiled hcompile titleSearch hnested
    obtain ⟨names, hnames, hloop⟩ := hviews.2 (.inl rfl) _ List.mem_cons_self
    obtain rfl := Option.some.inj hnames
    exact ⟨compiled, hcompile, linesOf, hstands, hlength, hloop⟩
  · refine (searches_follow_loop_iff rfl).2 rfl ⟨_, List.mem_cons_self, ?_⟩
    intro names hview
    have hpieces := List.cons.inj (List.mem_singleton.1 hview)
    have hview := Piece.text.inj (List.cons.inj hpieces.2).1
    exact absurd hview (by decide)

/-- Without a variable for the main loop, the search of a view compiles to a line
of its own, whether the view has become the source or is only named by a record
that is restored. -/
theorem lone_search_compiles :
    (∃ builder compiled,
      Builder.runChain (fun _ => {}) {}
          [.call (.search (.text "articles") [.built hasTitle] .null)] =
        some builder ∧
        builder.record.raw = none ∧
        builder.record.source = some (.proper (.text "articles")) ∧
        builder.record.compile = .ok compiled ∧
        compiled.text = "SEARCH (d.title == @value0)") ∧
      ∃ compiled, Query.compile
          { searches := titleSearch.searches } = .ok compiled ∧
        compiled.text = "SEARCH (d.title == @value0)" :=
  ⟨⟨_, _, rfl, rfl, rfl, rfl, rfl⟩, _, rfl, rfl⟩

end Example

end Query

end ArangoQuery
