import ArangoQuery.Diagnostics.Build
import ArangoQuery.Proofs.DataIndependence

/-!
# Data in the log

What compiling a query logs does not depend on its data, but for one error: a
search whose view is not the source of the loop shows the source, and with a
traversal the literals in its options.  So the logs of two queries that are equal
but for their data are the same exactly if their errors show the same
(`Query.logs_eq_iff_shownSource?_eq`).
-/

namespace ArangoQuery

open Record (members)
open Template (fill)

/-! ## Errors that show a source -/

/-- The source that an error shows. -/
def Error.shownSource? : Error → Option String
  | .configuration (.viewIsNotSource _ source) => some source.inspect
  | _ => none

theorem Error.shownSource?_viewIsNotSource (view : String) (source : Value) :
    shownSource? (.configuration (.viewIsNotSource view source)) =
      some source.inspect :=
  rfl

theorem Error.message_viewIsNotSource (view : String) (source : Value) :
    message (.configuration (.viewIsNotSource view source)) =
      "SEARCH view " ++ Inspect.text view ++
        " does not match the FOR source " ++ source.inspect :=
  rfl

/-- Faults that differ in a description only are equal, or they show sources. -/
theorem ConfigurationFault.eq_or_shown {left right : ConfigurationFault}
    (hsame : left.withoutData = right.withoutData) :
    left = right ∨ ∃ view source source',
      left = .viewIsNotSource view source ∧
        right = .viewIsNotSource view source' := by
  cases left with
  | viewIsNotSource view source =>
      cases right with
      | viewIsNotSource view' source' =>
          obtain ⟨rfl, -⟩ := viewIsNotSource.inj hsame
          exact .inr ⟨view, source, source', rfl, rfl⟩
      | _ => cases hsame
  | _ =>
      cases right with
      | viewIsNotSource => cases hsame
      | _ => exact .inl hsame

namespace Error

theorem eq_or_shown {left right : Error}
    (hsame : left.withoutData = right.withoutData) :
    left = right ∨ ∃ view source source',
      left = .configuration (.viewIsNotSource view source) ∧
        right = .configuration (.viewIsNotSource view source') := by
  cases left with
  | configuration fault =>
      cases right with
      | configuration fault' =>
          rcases ConfigurationFault.eq_or_shown (configuration.inj hsame) with
            rfl | ⟨view, source, source', rfl, rfl⟩
          · exact .inl rfl
          · exact .inr ⟨view, source, source', rfl, rfl⟩
      | _ => cases hsame
  | _ =>
      cases right with
      | configuration => cases hsame
      | _ => exact .inl hsame

/-- The log of an error shows its message. -/
theorem message_of_events {guard : Guard} {left right : Incident}
    (hevents : guard.events left = guard.events right) :
    left.message = right.message := by
  rw [Guard.events, Guard.events] at hevents
  have hfirst := (List.cons.inj hevents).1
  cases hleft : left.report <;> cases hright : right.report <;>
    simp only [hleft, hright, Event.structured.injEq,
      String.append_right_inj] at hfirst <;>
    exact hfirst.1

/-- The log of an error shows a source as it stands in the message, and no other
data. -/
theorem events_eq_iff {left right : Error}
    (hsame : left.withoutData = right.withoutData) (guard : Guard) :
    guard.events left.incident = guard.events right.incident ↔
      left.shownSource? = right.shownSource? := by
  rcases eq_or_shown hsame with rfl | ⟨view, source, source', rfl, rfl⟩
  · exact iff_of_true rfl rfl
  · rw [shownSource?_viewIsNotSource, shownSource?_viewIsNotSource,
      Option.some.injEq]
    constructor
    · intro hevents
      have hmessage := message_of_events hevents
      rw [incident, incident, message_viewIsNotSource,
        message_viewIsNotSource] at hmessage
      exact (String.append_right_inj _).1 hmessage
    · intro hsource
      have hmessage :
          message (.configuration (.viewIsNotSource view source)) =
            message (.configuration (.viewIsNotSource view source')) := by
        rw [message_viewIsNotSource, message_viewIsNotSource, hsource]
      rw [incident, incident, hmessage]
      rfl

end Error

/-! ## The error that rendering comes to -/

def Piece.halt? : Piece → Option Error
  | .halt error => some error
  | _ => none

namespace Template

variable {template : Template} {store : BindingStore String}

/-- The error that rendering comes to first. -/
def firstError? (template : Template) : Option Error :=
  template.findSome? Piece.halt?

/-- Without raw subqueries filling fails at the first halt only. -/
theorem firstError?_of_fill
    (hadopts : ∀ piece ∈ template.reached, piece.isAdopt = false)
    {error : Error} (hfill : fill template store = .error error) :
    template.firstError? = some error := by
  induction template generalizing store with
  | nil => simp [fill] at hfill
  | cons piece rest hrest =>
      cases piece with
      | text content =>
          cases hrun : fill rest store with
          | ok result =>
              simp [fill, hrun, bind, Except.bind, pure, Except.pure] at hfill
          | error error' =>
              obtain rfl : error' = error := by
                simpa [fill, hrun, bind, Except.bind] using hfill
              exact hrest (List.forall_mem_cons.1 hadopts).2 hrun
      | hole stem value =>
          cases hrun : fill rest (store.bind stem value).2 with
          | ok result =>
              simp [fill, hrun, bind, Except.bind, pure, Except.pure] at hfill
          | error error' =>
              obtain rfl : error' = error := by
                simpa [fill, hrun, bind, Except.bind] using hfill
              exact hrest (List.forall_mem_cons.1 hadopts).2 hrun
      | adopt bindings =>
          have hadopt := (List.forall_mem_cons.1 hadopts).1
          exact absurd hadopt Bool.noConfusion
      | halt error' =>
          obtain rfl : error' = error := by simpa [fill] using hfill
          rfl

theorem firstError?_withoutData (template : Template) :
    template.withoutData.firstError? =
      template.firstError?.map Error.withoutData := by
  induction template with
  | nil => rfl
  | cons piece rest hrest =>
      cases piece with
      | halt error => rfl
      | _ => exact hrest

end Template

namespace Query

variable {left right query : Query}

theorem firstError?_of_compile (hsubqueries : ¬ query.RendersRawSubquery)
    {error : Error} (hcompile : query.compile = .error error) :
    query.template.firstError? = some error := by
  cases hraw : query.raw with
  | some raw =>
      rw [compile_raw hraw] at hcompile
      cases hcompile
  | none =>
      have hadopts : ∀ piece ∈ query.template.reached,
          piece.isAdopt = false := by
        intro piece hpiece
        rw [Bool.eq_false_iff]
        exact fun hadopt => hsubqueries ⟨hraw, piece, hpiece, hadopt⟩
      rw [compile_eq hraw] at hcompile
      cases hfill : fill query.template {} with
      | ok result =>
          simp [hfill, bind, Except.bind, pure, Except.pure] at hcompile
      | error error' =>
          obtain rfl : error' = error := by
            simpa [hfill, bind, Except.bind] using hcompile
          exact Template.firstError?_of_fill hadopts hfill

/-- The errors of two queries that differ in their data only differ in a
description at the most. -/
theorem error_withoutData (hsame : left.withoutData = right.withoutData)
    (hleft : ¬ left.RendersRawSubquery) (hright : ¬ right.RendersRawSubquery)
    {error error' : Error} (herror : left.compile = .error error)
    (herror' : right.compile = .error error') :
    error.withoutData = error'.withoutData := by
  have htemplates := template_of_withoutData_eq hsame
  have hfirsts := left.template.firstError?_withoutData
  rw [htemplates, Template.firstError?_withoutData,
    firstError?_of_compile hleft herror,
    firstError?_of_compile hright herror'] at hfirsts
  exact (Option.some.inj hfirsts).symm

/-! ## What is logged -/

/-- The source that the error of a query shows. -/
def shownSource? (query : Query) : Option String :=
  match query.compile with
  | .ok _ => none
  | .error error => error.shownSource?

/-- The number of clauses does not depend on the pieces of the expressions. -/
theorem clauseCount_map {change : Piece → Piece} (hchange : KeepsText change)
    (record : Record Template) :
    (record.map (List.map change)).clauseCount = record.clauseCount := by
  rw [Record.clauseCount, ← Record.groups_map hchange, List.filter_map,
    List.length_map]
  simp [Record.clauseCount, Function.comp_def]

/-- The number of clauses does not depend on the data. -/
theorem clauseCount_withoutData (query : Query) :
    query.withoutData.clauseCount = query.clauseCount := by
  have hlines : (lineTemplates (query.map Expr.withoutData)).map
        (List.map Piece.withoutData) =
      query.lineTemplates.map (List.map Piece.withoutData) := by
    simp only [lineTemplates, Record.map_map]
    apply Record.map_congr
    intro part _
    exact part.template_withoutData
  have hblank : query.withoutData.clauseCount =
      (lineTemplates (query.map Expr.withoutData)).clauseCount := rfl
  rw [hblank, ← clauseCount_map Piece.keepsText_withoutData, hlines,
    clauseCount_map Piece.keepsText_withoutData]
  rfl

/-- A build logs the compiled query or the error. -/
theorem buildLogged_events (settings : Settings) (query : Query) :
    (query.buildLogged settings).2 =
      match query.compile with
      | .ok compiled => query.compileEvents settings compiled
      | .error error => buildGuard.events error.incident := by
  rw [buildLogged, compileLogged]
  cases query.compile <;> rfl

/-- What is logged about a compiled query does not depend on its data. -/
theorem compileEvents_withoutData (hsame : left.withoutData = right.withoutData)
    (settings : Settings) {compiled compiled' : CompiledQuery}
    (hleft : left.compile = .ok compiled)
    (hright : right.compile = .ok compiled') :
    left.compileEvents settings compiled =
      right.compileEvents settings compiled' := by
  obtain ⟨htext, hnames⟩ := text_of_withoutData_eq hsame hleft hright
  have hraw := raw_of_withoutData_eq hsame
  have hcount : left.clauseCount = right.clauseCount := by
    rw [← clauseCount_withoutData, hsame, clauseCount_withoutData]
  have hlength : compiled.bindings.length = compiled'.bindings.length := by
    simpa using congrArg List.length hnames
  rw [compileEvents, compileEvents, htext, hraw, hcount, hlength]

/-- Queries that differ in their data only are compiled both or fail both. -/
theorem outcomes_of_withoutData_eq
    (hsame : left.withoutData = right.withoutData)
    (hleft : ¬ left.RendersRawSubquery) (hright : ¬ right.RendersRawSubquery) :
    (∃ compiled compiled', left.compile = .ok compiled ∧
        right.compile = .ok compiled') ∨
      ∃ error error', left.compile = .error error ∧
        right.compile = .error error' := by
  cases hcompile : left.compile with
  | ok compiled =>
      obtain ⟨compiled', hcompile'⟩ :=
        compiles_of_withoutData_eq hsame hleft ⟨compiled, hcompile⟩
      exact .inl ⟨compiled, compiled', rfl, hcompile'⟩
  | error error =>
      cases hcompile' : right.compile with
      | ok compiled' =>
          obtain ⟨compiled, hok⟩ :=
            compiles_of_withoutData_eq hsame.symm hright ⟨compiled', hcompile'⟩
          rw [hcompile] at hok
          cases hok
      | error error' => exact .inr ⟨error, error', rfl, rfl⟩

/-- Logs are the same exactly if the errors show the same source. -/
theorem buildLogged_eq_iff (hsame : left.withoutData = right.withoutData)
    (hleft : ¬ left.RendersRawSubquery) (hright : ¬ right.RendersRawSubquery)
    (settings : Settings) :
    (left.buildLogged settings).2 = (right.buildLogged settings).2 ↔
      left.shownSource? = right.shownSource? := by
  rw [buildLogged_events, buildLogged_events, shownSource?, shownSource?]
  rcases outcomes_of_withoutData_eq hsame hleft hright with
    ⟨compiled, compiled', hok, hok'⟩ | ⟨error, error', herror, herror'⟩
  · rw [hok, hok']
    exact iff_of_true (compileEvents_withoutData hsame settings hok hok') rfl
  · rw [herror, herror']
    exact Error.events_eq_iff
      (error_withoutData hsame hleft hright herror herror') buildGuard

end Query

/-! ## Queries that show no data -/

namespace Piece

/-- Blanks the data of a piece and keeps errors as they are. -/
def withoutValue : Piece → Piece
  | .hole stem value => .hole stem value.withoutData
  | .adopt bindings => .adopt (blankBindings bindings)
  | piece => piece

theorem ignoresData_withoutValue : IgnoresData withoutValue where
  text _ := rfl
  typeFault _ := rfl
  hole stem value := by cases value <;> rfl
  adopt bindings := by simp [withoutValue, blankBindings]

end Piece

theorem Template.firstError?_withoutValue (template : Template) :
    firstError? (template.map Piece.withoutValue) = template.firstError? := by
  induction template with
  | nil => rfl
  | cons piece rest hrest =>
      cases piece with
      | halt error => rfl
      | _ => exact hrest

/-- Is a search declared on the results of a traversal with options? -/
def Record.searchesOptions {α : Type} (record : Record α) : Bool :=
  !(members record.searches).isEmpty &&
    match record.source with
    | some (.proper (.graph traversal)) => !(members traversal.options).isEmpty
    | _ => false

def Node.hidesOptions : Node Unit → Bool
  | .subquery query => !query.searchesOptions
  | _ => true

namespace Query

variable {left right query : Query}

/-- Does no record, at any depth, search the results of a traversal with
options? -/
def hidesOptions (query : Query) : Bool :=
  (Expr.subquery query).everywhere Node.hidesOptions

/-- A source without options is described without looking at expressions. -/
theorem describeFully_map {f : Expr → Expr} {traversal : GraphSource Expr}
    (hoptions : members traversal.options = []) :
    Source.describeFully (.graph (traversal.map f)) =
      Source.describeFully (.graph traversal) := by
  obtain ⟨graph, direction, start, minDepth, maxDepth, options⟩ := traversal
  rcases options with _ | _ | ⟨first, rest⟩
  · rfl
  · rfl
  · cases hoptions

theorem searchFaults_map_of_hides (f : Expr → Expr)
    (hhides : query.searchesOptions = false) :
    searchFaults (query.map f) = searchFaults query := by
  have hmembers : members (query.map f).searches =
      (members query.searches).map (Search.map f) :=
    Record.members_map (Search.map f) query.searches
  rw [searchFaults, searchFaults, hmembers, List.flatMap_map]
  cases hsearches : members query.searches with
  | nil => rfl
  | cons search rest =>
      rw [Record.searchesOptions, hsearches] at hhides
      rcases hsource : query.source with _ | ⟨_ | _ | traversal⟩ | _
      case some.proper.graph =>
        have hoptions : members traversal.options = [] := by
          simpa [hsource] using hhides
        have hdescription := describeFully_map (f := f) hoptions
        simp only [Record.map, hsource, Option.map_some, Slot.map, Source.map,
          Search.map, Slot.describe, hdescription]
      all_goals
        simp only [Record.map, hsource, Option.map_some, Option.map_none,
          Slot.map, Source.map, Search.map] <;> rfl

theorem searchesOptions_map {α β : Type} (f : α → β) (record : Record α) :
    (record.map f).searchesOptions = record.searchesOptions := by
  have hsearches : members (record.map f).searches =
      (members record.searches).map (Search.map f) :=
    Record.members_map (Search.map f) record.searches
  rw [Record.searchesOptions, Record.searchesOptions, hsearches,
    List.isEmpty_map]
  rcases hsource : record.source with _ | ⟨_ | _ | traversal⟩ | _ <;>
    simp [Record.map, hsource, Slot.map, Source.map, GraphSource.map,
      Record.members_document_map, Document.map]

theorem hidesFaults_withoutValue :
    HidesFaults Piece.withoutValue Node.hidesOptions := by
  intro query hhides
  have hsearches : query.searchesOptions = false := by
    rw [Node.hidesOptions, searchesOptions_map] at hhides
    exact Bool.not_eq_true' _ ▸ hhides
  rw [HaltsAlike, faults_map_eq, searchFaults_map_of_hides _ hsearches]
  rfl

end Query

/-- A test that ignores the data of a node passes an expression with its data or
without. -/
theorem Expr.everywhere_withoutData {holds : Node Unit → Bool}
    (hholds : ∀ node : Node Unit, holds node.withoutData = holds node)
    (expr : Expr) :
    expr.withoutData.everywhere holds = expr.everywhere holds := by
  induction expr using Expr.induction with
  | step node hparts =>
      have hnode : node.withoutData.parts = node.parts := by cases node <;> rfl
      have hall : (node.parts.map Expr.withoutData).all (everywhere holds) =
          node.parts.all (everywhere holds) := by
        rw [Bool.eq_iff_iff, List.all_eq_true, List.all_eq_true,
          List.forall_mem_map]
        exact forall₂_congr fun part hpart => by rw [hparts part hpart]
      have hshape : (node.withoutData.map Expr.withoutData).map (fun _ => ()) =
          (node.map fun _ => ()).withoutData := by
        rw [Node.map_map, Node.withoutData_map]
      rw [withoutData_of, everywhere_of, everywhere_of, Node.parts_map, hnode,
        hall, hshape, hholds]

namespace Query

variable {left right query : Query}

/-- Whether the options of traversals are hidden does not depend on the data. -/
theorem hidesOptions_withoutData (query : Query) :
    query.withoutData.hidesOptions = query.hidesOptions := by
  have hholds (node : Node Unit) :
      node.withoutData.hidesOptions = node.hidesOptions := by
    cases node <;> rfl
  have hblank : Expr.subquery query.withoutData =
      (Expr.subquery query).withoutData := by
    rw [Expr.subquery, Expr.subquery, Expr.withoutData_of]
    rfl
  rw [hidesOptions, hblank]
  exact Expr.everywhere_withoutData hholds _

theorem firstError?_of_hidesOptions
    (hsame : left.withoutData = right.withoutData)
    (hhides : left.hidesOptions = true) :
    left.template.firstError? = right.template.firstError? := by
  have hblank (query : Query) (hquery : query.hidesOptions = true) :
      query.withoutData.template.firstError? = query.template.firstError? := by
    rw [← Template.firstError?_withoutValue, query.template_blank
      Piece.ignoresData_withoutValue hidesFaults_withoutValue hquery,
      Template.firstError?_withoutValue]
  have hright : right.hidesOptions = true := by
    rw [← hidesOptions_withoutData, ← hsame, hidesOptions_withoutData, hhides]
  rw [← hblank left hhides, hsame, hblank right hright]

/-- Errors of queries that hide their options are the same. -/
theorem shownSource?_of_hidesOptions
    (hsame : left.withoutData = right.withoutData)
    (hleft : ¬ left.RendersRawSubquery) (hright : ¬ right.RendersRawSubquery)
    (hhides : left.hidesOptions = true) :
    left.shownSource? = right.shownSource? := by
  rw [shownSource?, shownSource?]
  rcases outcomes_of_withoutData_eq hsame hleft hright with
    ⟨compiled, compiled', hok, hok'⟩ | ⟨error, error', herror, herror'⟩
  · rw [hok, hok']
  · have hfirst := firstError?_of_hidesOptions hsame hhides
    rw [firstError?_of_compile hleft herror,
      firstError?_of_compile hright herror'] at hfirst
    rw [herror, herror']
    exact congrArg Error.shownSource? (Option.some.inj hfirst)

/-- Building two queries that are equal but for their data logs the same events
exactly if their errors show the same source, and it always does so unless some
record searches the results of a traversal with options. -/
theorem logs_eq_iff_shownSource?_eq
    (hsame : left.withoutData = right.withoutData)
    (hleft : ¬ left.RendersRawSubquery) (hright : ¬ right.RendersRawSubquery)
    (settings : Settings) :
    ((left.buildLogged settings).2 = (right.buildLogged settings).2 ↔
      left.shownSource? = right.shownSource?) ∧
    (left.hidesOptions = true →
      (left.buildLogged settings).2 = (right.buildLogged settings).2) := by
  have hlogs := buildLogged_eq_iff hsame hleft hright settings
  constructor
  · exact hlogs
  · intro hhides
    exact hlogs.2 (shownSource?_of_hidesOptions hsame hleft hright hhides)

/-- A query that carries data and ends in a subquery with a search that does not
fit its source. -/
def carryingFailure (items : List Value) (value : Value)
    (pattern field : String) : Query :=
  { carrying items value pattern field with
    result := some (.of (.array
      [.of (.unset (.reference "u") [field]),
        .subquery
          { loop := some (.proper "p")
            source := some (.proper (.text "posts"))
            searches := some
              [{ view := "views"
                 conditions := [.literal value]
                 options := some [("limit", .literal value)] }] }])) }

theorem carryingFailure_logs_eq :
    (∃ error,
      (carryingFailure [.int 1] .null "a%" "age").compile = .error error) ∧
    ((carryingFailure [.int 1] .null "a%" "age").buildLogged
        { debug := true, logQueries := true }).2 =
      ((carryingFailure [] (.text "secret") "%" "name").buildLogged
        { debug := true, logQueries := true }).2 := by
  have hsame : (carryingFailure [.int 1] .null "a%" "age").withoutData =
      (carryingFailure [] (.text "secret") "%" "name").withoutData := rfl
  constructor
  · exact ⟨_, rfl⟩
  · exact (logs_eq_iff_shownSource?_eq hsame (by decide +kernel)
      (by decide +kernel) { debug := true, logQueries := true }).2
        (by decide +kernel)

/-- A search on the results of a traversal that carries a value in its options. -/
def searchingTraversal (value : Value) : Query where
  loop := some (.proper "v")
  source := some (.proper (.graph
    { graph := "friends", direction := .outbound, startVertex := "users/1"
      minDepth := 1, maxDepth := none
      options := some [("weightAttribute", .literal value)] }))
  searches := some [{ view := "users", conditions := [], options := none }]

/-- The error of a search that does not fit its source puts data into the log. -/
theorem logs_show_data :
    ¬ ∀ (left right : Query) (settings : Settings),
      left.isTyped = true → right.isTyped = true →
        ¬ left.RendersRawSubquery → ¬ right.RendersRawSubquery →
          left.withoutData = right.withoutData →
            (left.buildLogged settings).2 =
              (right.buildLogged settings).2 := by
  intro hlogs
  have hsame : (searchingTraversal (.text "secret")).withoutData =
      (searchingTraversal (.text "other")).withoutData := rfl
  have hleft :
      ¬ (searchingTraversal (.text "secret")).RendersRawSubquery := by
    decide +kernel
  have hright :
      ¬ (searchingTraversal (.text "other")).RendersRawSubquery := by
    decide +kernel
  have hshown := (buildLogged_eq_iff hsame hleft hright {}).1
    (hlogs _ _ {} (by decide +kernel) (by decide +kernel) hleft hright hsame)
  exact absurd hshown (by decide +kernel)

end Query

end ArangoQuery
