import ArangoQuery.Proofs.FreshNames
import ArangoQuery.Proofs.Pieces

/-!
# Filling templates

Filling a template asks the store for one binding after the other.  `requests`
lists them: for each hole the name made up for its value, and for each raw
subquery the bindings taken over.  The text depends on the names of the holes
only (`Template.Fills.text_eq`).  `Query.template` is the template of a query as
it stands next to other queries, and compiling fills it from the empty store
(`Query.compile_eq`).
-/

namespace ArangoQuery

open Record (members)
open Template (fill)

/-- A value wanted under a name. -/
structure Request where
  name : String
  value : Value
  /-- Was the name made up for the value? -/
  isGenerated : Bool

namespace Request

/-- A binding that is taken over under a name of its own. -/
def taken (binding : String × Value) : Request :=
  ⟨binding.1, binding.2, false⟩

/-- The names made up on the way. -/
def generatedNames (requests : List Request) : List String :=
  (requests.filter isGenerated).map name

@[simp]
theorem generatedNames_taken_append (bindings : List (String × Value))
    (requests : List Request) :
    generatedNames (bindings.map taken ++ requests) =
      generatedNames requests := by
  have htaken : (bindings.map taken).filter isGenerated = [] := by
    rw [List.filter_eq_nil_iff]
    intro request hrequest
    obtain ⟨binding, -, rfl⟩ := List.mem_map.1 hrequest
    exact Bool.false_ne_true
  rw [generatedNames, List.filter_append, htaken]
  rfl

end Request

namespace Piece

def isHalt : Piece → Bool
  | .halt _ => true
  | _ => false

def isAdopt : Piece → Bool
  | .adopt _ => true
  | _ => false

/-- Texts and holes can always be filled. -/
def isPlain (piece : Piece) : Bool :=
  !piece.isAdopt && !piece.isHalt

/-- The stem and the value of a hole. -/
def call? : Piece → Option (String × Value)
  | .hole stem value => some (stem, value)
  | _ => none

end Piece

namespace Template

variable {template : Template} {store last : BindingStore String}
variable {text : String}

/-! ## What fills a template -/

/-- The pieces that rendering comes to, up to the first that halts it. -/
def reached (template : Template) : Template :=
  template.takeWhile (!·.isHalt)

/-- The calls of `bind`, from left to right. -/
def calls (template : Template) : List (String × Value) :=
  template.filterMap Piece.call?

/-- The text of a template whose holes are given names from left to right. -/
def fillWith : Template → List String → String
  | [], _ => ""
  | .text content :: rest, names => content ++ fillWith rest names
  | .hole _ _ :: rest, name :: names => "@" ++ name ++ fillWith rest names
  | .hole _ _ :: _, [] => ""
  | .adopt _ :: rest, names => fillWith rest names
  | .halt _ :: _, _ => ""

/-- The bindings that filling asks for, in order. -/
def requests : Template → BindingStore String → List Request
  | [], _ => []
  | .text _ :: rest, store => requests rest store
  | .hole stem value :: rest, store =>
      ⟨(store.bind stem value).1, value, true⟩ ::
        requests rest (store.bind stem value).2
  | .adopt bindings :: rest, store =>
      bindings.map Request.taken ++ requests rest (store.merge bindings).2
  | .halt _ :: _, _ => []

/-! ## Runs -/

/-- The runs of `fill` that succeed, piece by piece.  There is none past a
halt. -/
inductive Fills :
    Template → BindingStore String → String → BindingStore String → Prop
  | nil (store : BindingStore String) : Fills [] store "" store
  | text (content : String) {rest : Template} {store last : BindingStore String}
      {filled : String} (run : Fills rest store filled last) :
      Fills (.text content :: rest) store (content ++ filled) last
  | hole (stem : String) (value : Value) {rest : Template}
      {store last : BindingStore String} {filled : String}
      (run : Fills rest (store.bind stem value).2 filled last) :
      Fills (.hole stem value :: rest) store
        ("@" ++ (store.bind stem value).1 ++ filled) last
  | adopt {bindings : List (String × Value)} {rest : Template}
      {store next last : BindingStore String} {filled : String}
      (merge : store.merge bindings = (none, next))
      (run : Fills rest next filled last) :
      Fills (.adopt bindings :: rest) store filled last

theorem fills_of_fill (hfill : fill template store = .ok (text, last)) :
    Fills template store text last := by
  induction template generalizing store text with
  | nil =>
      simp only [fill, Except.ok.injEq, Prod.mk.injEq] at hfill
      obtain ⟨rfl, rfl⟩ := hfill
      exact .nil store
  | cons piece rest hrest =>
      cases piece with
      | text content =>
          cases hrun : fill rest store with
          | error error => simp [fill, hrun, bind, Except.bind] at hfill
          | ok result =>
              simp only [fill, hrun, bind, Except.bind, pure, Except.pure,
                Except.ok.injEq, Prod.mk.injEq] at hfill
              obtain ⟨rfl, rfl⟩ := hfill
              exact .text content (hrest hrun)
      | hole stem value =>
          cases hrun : fill rest (store.bind stem value).2 with
          | error error => simp [fill, hrun, bind, Except.bind] at hfill
          | ok result =>
              simp only [fill, hrun, bind, Except.bind, pure, Except.pure,
                Except.ok.injEq, Prod.mk.injEq] at hfill
              obtain ⟨rfl, rfl⟩ := hfill
              exact .hole stem value (hrest hrun)
      | adopt bindings =>
          rcases hmerge : store.merge bindings with ⟨_ | fault, next⟩
          · rw [fill, hmerge] at hfill
            exact .adopt hmerge (hrest hfill)
          · simp [fill, hmerge] at hfill
      | halt error => simp [fill] at hfill

theorem fill_of_fills (hfills : Fills template store text last) :
    fill template store = .ok (text, last) := by
  induction hfills with
  | nil store => rfl
  | text content run hrun =>
      simp [fill, hrun, bind, Except.bind, pure, Except.pure]
  | hole stem value run hrun =>
      simp [fill, hrun, bind, Except.bind, pure, Except.pure]
  | adopt hmerge run hrun =>
      simp only [fill, hmerge]
      exact hrun

theorem fill_eq_ok_iff :
    fill template store = .ok (text, last) ↔ Fills template store text last :=
  ⟨fills_of_fill, fill_of_fills⟩

/-- A template that is filled does not halt. -/
theorem Fills.reached_eq (hfills : Fills template store text last) :
    template.reached = template := by
  induction hfills with
  | nil store => rfl
  | text content run hrun => exact congrArg (_ :: ·) hrun
  | hole stem value run hrun => exact congrArg (_ :: ·) hrun
  | adopt hmerge run hrun => exact congrArg (_ :: ·) hrun

/-- A template is filled with the names made up for its holes. -/
theorem Fills.text_eq (hfills : Fills template store text last) :
    text = template.fillWith
      (Request.generatedNames (template.requests store)) := by
  induction hfills with
  | nil store => rfl
  | text content run hrun => exact congrArg (content ++ ·) hrun
  | hole stem value run hrun => exact congrArg (_ ++ ·) hrun
  | adopt hmerge run hrun =>
      rw [requests, hmerge, Request.generatedNames_taken_append]
      exact hrun

/-- A template without raw subqueries and halts is filled by binding the values
of its holes, in any store. -/
theorem fills_of_isPlain (hplain : ∀ piece ∈ template, piece.isPlain = true)
    (store : BindingStore String) :
    Fills template store
      (template.fillWith (store.bindAll template.calls).1)
      (store.bindAll template.calls).2 := by
  induction template generalizing store with
  | nil => exact .nil store
  | cons piece rest hrest =>
      obtain ⟨hpiece, htail⟩ := List.forall_mem_cons.1 hplain
      cases piece with
      | text content => exact .text content (hrest htail store)
      | hole stem value =>
          exact .hole stem value (hrest htail (store.bind stem value).2)
      | adopt bindings => exact absurd hpiece Bool.false_ne_true
      | halt error => exact absurd hpiece Bool.false_ne_true

end Template

open Template (Fills fill_eq_ok_iff)

/-! ## Templates of queries -/

section Subqueries

variable {query : Record (Expr × Template)}

theorem subqueryTemplate_of_raw {raw : String} (hraw : query.raw = some raw) :
    subqueryTemplate query =
      [.adopt (members query.rawBindings), .text raw] := by
  simp only [subqueryTemplate, hraw]

/-- A subquery that is not compilable halts at its first fault. -/
theorem subqueryTemplate_of_fault (hraw : query.raw = none)
    {fault : ConfigurationFault} {rest : List ConfigurationFault}
    (hfaults : Query.faults (query.map Prod.fst) = fault :: rest) :
    subqueryTemplate query = [.halt (.configuration fault)] := by
  simp only [subqueryTemplate, hraw, hfaults]

theorem subqueryTemplate_of_sound (hraw : query.raw = none)
    (hfaults : Query.faults (query.map Prod.fst) = []) :
    subqueryTemplate query = (query.map Prod.snd).template := by
  simp only [subqueryTemplate, hraw, hfaults]

end Subqueries

namespace CompiledQuery

/-- The names bound in a compiled query, in order. -/
def names (compiled : CompiledQuery) : List String :=
  compiled.bindings.map Prod.fst

/-- What a compiled query binds a name to. -/
def value? (compiled : CompiledQuery) (name : String) : Option Value :=
  lookupEntry BindingName.same name compiled.bindings

end CompiledQuery

namespace Query

/-- The template of a query that stands next to others. -/
def template (query : Query) : Template :=
  subqueryTemplate (query.map (Expr.withFold Node.template))

/-- The bindings that compiling asks for. -/
def requests (query : Query) : List Request :=
  query.template.requests {}

/-- The names that are made up when a query is compiled. -/
def generatedNames (query : Query) : List String :=
  Request.generatedNames query.requests

theorem template_of_raw {query : Query} {raw : String}
    (hraw : query.raw = some raw) :
    query.template = [.adopt (members query.rawBindings), .text raw] :=
  subqueryTemplate_of_raw hraw

theorem requests_of_raw {query : Query} {raw : String}
    (hraw : query.raw = some raw) :
    query.requests = (members query.rawBindings).map Request.taken := by
  rw [requests, template_of_raw hraw]
  exact List.append_nil _

theorem template_of_sound {query : Query} (hraw : query.raw = none)
    (hfaults : query.faults = []) :
    query.template = query.lineTemplates.template := by
  have hsound : Query.faults
      ((query.map (Expr.withFold Node.template)).map Prod.fst) = [] := by
    rw [map_fst_withFold, hfaults]
  rw [template, subqueryTemplate_of_sound hraw hsound, map_snd_withFold]
  rfl

theorem template_of_fault {query : Query} {fault : ConfigurationFault}
    {rest : List ConfigurationFault} (hraw : query.raw = none)
    (hfaults : query.faults = fault :: rest) :
    query.template = [.halt (.configuration fault)] := by
  have hfault : Query.faults
      ((query.map (Expr.withFold Node.template)).map Prod.fst) =
        fault :: rest := by
    rw [map_fst_withFold, hfaults]
  exact subqueryTemplate_of_fault hraw hfault

/-- Compiling a query proper fills its template from the empty store. -/
theorem compile_eq {query : Query} (hraw : query.raw = none) :
    query.compile = do
      let (text, store) ← fill query.template {}
      return ⟨text, store.values⟩ := by
  rw [compile, hraw]
  cases hfaults : query.faults with
  | nil => rw [template_of_sound hraw hfaults]
  | cons fault rest =>
      rw [template_of_fault hraw hfaults]
      rfl

theorem compile_raw {query : Query} {raw : String}
    (hraw : query.raw = some raw) :
    query.compile = .ok ⟨raw, members query.rawBindings⟩ := by
  rw [compile, hraw]

/-- A query proper compiles exactly if its template can be filled. -/
theorem compile_eq_ok_iff {query : Query} (hraw : query.raw = none)
    {compiled : CompiledQuery} :
    query.compile = .ok compiled ↔
      ∃ last, Fills query.template {} compiled.text last ∧
        compiled.bindings = last.values := by
  obtain ⟨text, bindings⟩ := compiled
  simp only [compile_eq hraw, ← fill_eq_ok_iff]
  rcases fill query.template {} with error | ⟨filled, last⟩
  · simp [bind, Except.bind]
  · simp [bind, Except.bind, pure, Except.pure, and_comm, eq_comm]

/-- The names made up for the values stand in the text, in the places of the
holes. -/
theorem text_of_compile {query : Query} {compiled : CompiledQuery}
    (hcompile : query.compile = .ok compiled) :
    compiled.text = query.template.fillWith query.generatedNames := by
  cases hraw : query.raw with
  | some raw =>
      rw [compile_raw hraw] at hcompile
      obtain rfl := Except.ok.inj hcompile
      rw [template_of_raw hraw]
      exact (String.append_empty).symm
  | none =>
      obtain ⟨last, hfills, -⟩ := (compile_eq_ok_iff hraw).1 hcompile
      exact hfills.text_eq

/-- A query of texts and holes is compiled by binding the values of its holes. -/
theorem compile_of_isPlain {query : Query} (hraw : query.raw = none)
    (hplain : ∀ piece ∈ query.template, piece.isPlain = true) :
    query.compile =
      .ok
        { text := query.template.fillWith
            (BindingStore.bindAll {} query.template.calls).1
          bindings :=
            (BindingStore.bindAll {} query.template.calls).2.values } := by
  have hfills := Template.fills_of_isPlain hplain {}
  exact (compile_eq_ok_iff hraw).2 ⟨_, hfills, rfl⟩

/-- Does rendering a query come to a raw subquery? -/
def RendersRawSubquery (query : Query) : Prop :=
  query.raw = none ∧
    ∃ piece ∈ query.template.reached, piece.isAdopt = true

instance : DecidablePred RendersRawSubquery := fun query =>
  inferInstanceAs (Decidable (query.raw = none ∧
    ∃ piece ∈ query.template.reached, piece.isAdopt = true))

/-- A query proper that compiles without raw subqueries has texts and holes
only. -/
theorem isPlain_of_compile {query : Query} {compiled : CompiledQuery}
    (hraw : query.raw = none) (hsubqueries : ¬ query.RendersRawSubquery)
    (hcompile : query.compile = .ok compiled) :
    ∀ piece ∈ query.template, piece.isPlain = true := by
  obtain ⟨last, hfills, -⟩ := (compile_eq_ok_iff hraw).1 hcompile
  have hreached := hfills.reached_eq
  intro piece hpiece
  have hadopt : piece.isAdopt = false := by
    by_contra hadopt
    rw [← hreached] at hpiece
    exact hsubqueries ⟨hraw, piece, hpiece, by simpa using hadopt⟩
  have hhalt : piece.isHalt = false := by
    have hall := List.all_takeWhile (p := (!·.isHalt)) (l := query.template)
    rw [show query.template.takeWhile (!·.isHalt) = query.template from hreached,
      List.all_eq_true] at hall
    simpa using hall piece hpiece
  simp [Piece.isPlain, hadopt, hhalt]

end Query

end ArangoQuery
