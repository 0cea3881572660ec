import ArangoQuery.Proofs.LastValue
import ArangoQuery.Proofs.Numbering
import ArangoQuery.Snapshot.Parameters

/-!
# Names made up and names given

The names that are made up for values and the names of the caller's parameters
share one namespace in the text.  Which names will be made up shows in the
template, so it shows whether one of them is a parameter of the query
(`Query.isHygienic_iff`).
-/

namespace ArangoQuery

open BindingStore (numbered)
open Record (members)

variable {α : Type}

/-! ## Parameters -/

/-- The value parameters that stand for a source or for a vertex. -/
def Source.valueParameters : Source α → List String
  | .text name => Value.placeholderNames name
  | .range _ _ => []
  | .graph traversal => Value.placeholderNames traversal.startVertex

def Slot.valueParameters : Option (Slot (Source α)) → List String
  | some (.proper source) => source.valueParameters
  | _ => []

def Record.sourceParameters (record : Record α) : List String :=
  Slot.valueParameters record.source ++
    (members record.joins).flatMap fun join => Slot.valueParameters join.source

/-- The value parameters of a node, given those of its parts. -/
def Node.valueParameters (node : Node (List String)) : List String :=
  (match node with
    | .parameter placeholder =>
        if placeholder.collection then [] else [placeholder.name.text]
    | .subquery query => query.sourceParameters
    | _ => []) ++ node.parts.flatten

def Expr.valueParameters : Expr → List String :=
  Expr.reduce Node.valueParameters

namespace Query

variable {query : Query} {compiled : CompiledQuery}

/-- The names of the values that the caller of a query supplies. -/
def valueParameters (query : Query) : List String :=
  query.sourceParameters ++ query.parts.flatMap Expr.valueParameters

/-- No name that is made up is a parameter of the caller's. -/
def IsHygienic (query : Query) : Prop :=
  ∀ name ∈ query.generatedNames, name ∉ query.valueParameters

theorem generatedNames_of_raw {raw : String} (hraw : query.raw = some raw) :
    query.generatedNames = [] ∧ query.template.numberedNames [] 0 = [] ∧
      query.template.calls = [] := by
  rw [generatedNames, requests, template_of_raw hraw]
  refine ⟨?_, rfl, rfl⟩
  exact Request.generatedNames_taken_append _ []

/-- The names made up are those that the template shows. -/
theorem generatedNames_eq (hcompile : query.compile = .ok compiled) :
    query.generatedNames = query.template.numberedNames [] 0 := by
  cases hraw : query.raw with
  | some raw =>
      obtain ⟨hgenerated, hnumbered, -⟩ := generatedNames_of_raw hraw
      rw [hgenerated, hnumbered]
  | none =>
      obtain ⟨last, hfills, -⟩ := (compile_eq_ok_iff hraw).1 hcompile
      exact hfills.generatedNames_eq query.template_hasStems
        BindingStore.accounts_empty

/-- Without raw subqueries the names are the stems with their positions. -/
theorem numberedNames_eq (hcompile : query.compile = .ok compiled)
    (hsubqueries : ¬ query.RendersRawSubquery) :
    query.template.numberedNames [] 0 =
      query.template.calls.mapIdx fun position (stem, _) =>
        numbered stem position := by
  cases hraw : query.raw with
  | some raw =>
      obtain ⟨-, hnumbered, hcalls⟩ := generatedNames_of_raw hraw
      rw [hnumbered, hcalls]
      rfl
  | none =>
      have hplain := isPlain_of_compile hraw hsubqueries hcompile
      simpa using Template.numberedNames_of_isPlain hplain 0

theorem nodup_generatedNames (hcompile : query.compile = .ok compiled) :
    query.generatedNames.Nodup := by
  cases hraw : query.raw with
  | some raw =>
      rw [(generatedNames_of_raw hraw).1]
      exact List.nodup_nil
  | none =>
      obtain ⟨last, hfills, -⟩ := (compile_eq_ok_iff hraw).1 hcompile
      exact hfills.generatedNames_fresh.1

/-- A parameter of the caller's is bound by raw subqueries only. -/
theorem IsHygienic.taken_of_mem_names (hhygienic : query.IsHygienic)
    (hcompile : query.compile = .ok compiled) {name : String}
    (hparameter : name ∈ query.valueParameters)
    (hname : name ∈ compiled.names) :
    ∃ request ∈ query.requests,
      request.isGenerated = false ∧ request.name = name := by
  obtain ⟨request, hrequest, rfl⟩ := mem_names_of_compile hcompile hname
  by_cases hgenerated : request.isGenerated = true
  · have hmade : request.name ∈ query.generatedNames :=
      List.mem_map_of_mem (List.mem_filter.2 ⟨hrequest, hgenerated⟩)
    exact absurd hparameter (hhygienic _ hmade)
  · exact ⟨request, hrequest, by simpa using hgenerated, rfl⟩

/-- The names that are made up for the holes of a text differ from each other.
They differ from the parameters exactly if no parameter is one of the names that
the template shows: without raw subqueries, a stem with its position.  Then only
raw subqueries bind parameters. -/
theorem isHygienic_iff (hcompile : query.compile = .ok compiled) :
    compiled.text = query.template.fillWith query.generatedNames ∧
      query.generatedNames.Nodup ∧
      (query.IsHygienic ↔
        ∀ name ∈ query.template.numberedNames [] 0,
          name ∉ query.valueParameters) ∧
      (¬ query.RendersRawSubquery →
        (query.IsHygienic ↔
          ∀ position stem value,
            query.template.calls[position]? = some (stem, value) →
              numbered stem position ∉ query.valueParameters)) ∧
      (query.IsHygienic →
        ∀ name ∈ query.valueParameters, name ∈ compiled.names →
          ∃ request ∈ query.requests,
            request.isGenerated = false ∧ request.name = name) := by
  have hnames := generatedNames_eq hcompile
  refine ⟨text_of_compile hcompile, nodup_generatedNames hcompile, ?_, ?_, ?_⟩
  · rw [IsHygienic, hnames]
  · intro hsubqueries
    rw [IsHygienic, hnames, numberedNames_eq hcompile hsubqueries]
    constructor
    · intro hdisjoint position stem value hcall
      apply hdisjoint
      rw [List.mem_iff_getElem?]
      exact ⟨position, by simp [hcall]⟩
    · intro hdisjoint name hname
      obtain ⟨position, hposition⟩ := List.mem_iff_getElem?.1 hname
      rw [List.getElem?_mapIdx, Option.map_eq_some_iff] at hposition
      obtain ⟨⟨stem, value⟩, hcall, rfl⟩ := hposition
      exact hdisjoint position stem value hcall
  · intro hhygienic name hparameter hname
    exact hhygienic.taken_of_mem_names hcompile hparameter hname

/-- A literal next to a parameter of the caller's. -/
def besideParameter (name : ParameterName) : Query where
  result := some (.object
    [("a", .parameter ⟨name, false⟩), ("b", .literal (.int 5))])

theorem besideParameter_isHygienic :
    ∃ compiled,
      (besideParameter ⟨"user", by decide⟩).compile = .ok compiled ∧
        (besideParameter ⟨"user", by decide⟩).IsHygienic := by
  have hcompile : (besideParameter ⟨"user", by decide⟩).compile =
      .ok ⟨"RETURN \x7b\"a\": @user, \"b\": @value0\x7d",
        [("value0", .int 5)]⟩ := rfl
  refine ⟨_, hcompile, ?_⟩
  apply (isHygienic_iff hcompile).2.2.1.2
  decide +kernel

/-- A parameter may be called what the compiler calls its first value. -/
theorem besideParameter_not_isHygienic :
    ¬ ∀ (query : Query) (compiled : CompiledQuery),
      query.compile = .ok compiled → query.IsHygienic := by
  intro hhygienic
  have hcompile : (besideParameter ⟨"value0", by decide⟩).compile =
      .ok ⟨"RETURN \x7b\"a\": @value0, \"b\": @value0\x7d",
        [("value0", .int 5)]⟩ := rfl
  have hgenerated : "value0" ∈
      (besideParameter ⟨"value0", by decide⟩).generatedNames := by
    decide +kernel
  have hparameter : "value0" ∈
      (besideParameter ⟨"value0", by decide⟩).valueParameters := by
    decide +kernel
  exact hhygienic _ _ hcompile "value0" hgenerated hparameter

end Query

end ArangoQuery
