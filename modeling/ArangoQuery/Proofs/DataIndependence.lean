import ArangoQuery.Proofs.Erasure

/-!
# The text does not depend on the data

Queries that are equal but for their data are compiled to the same text with the
same names (`Query.text_independent_of_data`).  Two runs of `fill` on templates
that differ in data only stay in step: names are handed out by what is in use and
by the counter, and neither looks at a value.
-/

namespace ArangoQuery

open Record (members)

/-! ## Two runs side by side -/

/-- Stores that differ in the values only. -/
structure BindingStore.Alike (left right : BindingStore String) : Prop where
  names : left.names = right.names
  counter : left.counter = right.counter

namespace BindingStore.Alike

variable {left right : BindingStore String}

theorem bind_name (halike : Alike left right) (stem : String)
    (value value' : Value) :
    (left.bind stem value).1 = (right.bind stem value').1 := by
  rw [bind_eq, bind_eq, nextNumber_congr halike.names halike.counter]

theorem bind (halike : Alike left right) (stem : String)
    (value value' : Value) :
    Alike (left.bind stem value).2 (right.bind stem value').2 := by
  constructor
  · rw [names_bind, names_bind, halike.names, halike.bind_name]
  · rw [bind_eq, bind_eq, nextNumber_congr halike.names halike.counter]

theorem merge (halike : Alike left right) {left' right' : BindingStore String}
    {bindings bindings' : List (String × Value)}
    (hbindings : bindings.map Prod.fst = bindings'.map Prod.fst)
    (hleft : left.merge bindings = (none, left'))
    (hright : right.merge bindings' = (none, right')) : Alike left' right' := by
  constructor
  · exact merge_names_congr hbindings halike.names hleft hright
  · rw [counter_merge hleft, counter_merge hright, halike.counter]

end BindingStore.Alike

namespace Template

/-- Two runs that succeed write the same text and bind the same names. -/
theorem Fills.alike {left right : Template}
    {store store' last last' : BindingStore String} {text text' : String}
    (hleft : Fills left store text last)
    (hright : Fills right store' text' last')
    (hsame : left.withoutData = right.withoutData)
    (halike : store.Alike store') : text = text' ∧ last.Alike last' := by
  induction hleft generalizing right store' text' with
  | nil store =>
      cases hright with
      | nil store' => exact ⟨rfl, halike⟩
      | _ => cases hsame
  | text content run hrun =>
      cases hright with
      | text content' run' =>
          obtain ⟨hpiece, htail⟩ := List.cons.inj hsame
          obtain rfl := Piece.text.inj hpiece
          obtain ⟨rfl, hlast⟩ := hrun run' htail halike
          exact ⟨rfl, hlast⟩
      | _ => cases hsame
  | hole stem value run hrun =>
      cases hright with
      | hole stem' value' run' =>
          obtain ⟨hpiece, htail⟩ := List.cons.inj hsame
          obtain ⟨rfl, -⟩ := Piece.hole.inj hpiece
          obtain ⟨rfl, hlast⟩ :=
            hrun run' htail (halike.bind stem value value')
          rw [halike.bind_name stem value value']
          exact ⟨rfl, hlast⟩
      | _ => cases hsame
  | @adopt bindings _ _ _ _ _ hmerge run hrun =>
      cases hright with
      | @adopt bindings' _ _ _ _ _ hmerge' run' =>
          obtain ⟨hpiece, htail⟩ := List.cons.inj hsame
          have hnames : bindings.map Prod.fst = bindings'.map Prod.fst := by
            rw [← map_fst_blankBindings, Piece.adopt.inj hpiece,
              map_fst_blankBindings]
          exact hrun run' htail (halike.merge hnames hmerge hmerge')
      | _ => cases hsame

theorem isPlain_of_withoutData_eq {left right : Template}
    (hsame : left.withoutData = right.withoutData)
    (hplain : ∀ piece ∈ left, piece.isPlain = true) :
    ∀ piece ∈ right, piece.isPlain = true := by
  intro piece hpiece
  have hblank : piece.withoutData ∈ left.withoutData :=
    hsame ▸ List.mem_map_of_mem hpiece
  obtain ⟨original, horiginal, heq⟩ := List.mem_map.1 hblank
  rw [← Piece.isPlain_withoutData, ← heq, Piece.isPlain_withoutData]
  exact hplain original horiginal

end Template

/-! ## Queries -/

namespace Query

variable {left right : Query}

theorem template_of_withoutData_eq
    (hsame : left.withoutData = right.withoutData) :
    left.template.withoutData = right.template.withoutData := by
  rw [← template_withoutData, hsame, template_withoutData]

theorem raw_of_withoutData_eq (hsame : left.withoutData = right.withoutData) :
    left.raw = right.raw := by
  have hraw : left.withoutData.raw = right.withoutData.raw := by rw [hsame]
  exact hraw

theorem rawBindings_of_withoutData_eq
    (hsame : left.withoutData = right.withoutData) :
    (members left.rawBindings).map Prod.fst =
      (members right.rawBindings).map Prod.fst := by
  have hblank :
      left.withoutData.rawBindings = right.withoutData.rawBindings := by
    rw [hsame]
  change left.rawBindings.map blankBindings =
    right.rawBindings.map blankBindings at hblank
  have hmembers (bindings : Option (List (String × Value))) :
      (members (bindings.map blankBindings)).map Prod.fst =
        (members bindings).map Prod.fst := by
    cases bindings with
    | none => rfl
    | some bindings => exact map_fst_blankBindings bindings
  rw [← hmembers, hblank, hmembers]

/-- Without raw subqueries nothing in the data keeps a query from being
compiled. -/
theorem compiles_of_withoutData_eq
    (hsame : left.withoutData = right.withoutData)
    (hsubqueries : ¬ left.RendersRawSubquery)
    (hleft : ∃ compiled, left.compile = .ok compiled) :
    ∃ compiled, right.compile = .ok compiled := by
  obtain ⟨compiled, hcompile⟩ := hleft
  have hraws := raw_of_withoutData_eq hsame
  cases hraw : left.raw with
  | some raw => exact ⟨_, compile_raw (hraws ▸ hraw)⟩
  | none =>
      have hplain := Template.isPlain_of_withoutData_eq
        (template_of_withoutData_eq hsame)
        (isPlain_of_compile hraw hsubqueries hcompile)
      exact ⟨_, compile_of_isPlain (hraws ▸ hraw) hplain⟩

/-- Queries that are equal but for their data are compiled to one text and bind
the same names. -/
theorem text_of_withoutData_eq (hsame : left.withoutData = right.withoutData)
    {compiled compiled' : CompiledQuery} (hleft : left.compile = .ok compiled)
    (hright : right.compile = .ok compiled') :
    compiled.text = compiled'.text ∧
      compiled.bindings.map Prod.fst = compiled'.bindings.map Prod.fst := by
  have hraws := raw_of_withoutData_eq hsame
  cases hraw : left.raw with
  | some raw =>
      rw [compile_raw hraw] at hleft
      rw [compile_raw (hraws ▸ hraw)] at hright
      obtain rfl := Except.ok.inj hleft
      obtain rfl := Except.ok.inj hright
      exact ⟨rfl, rawBindings_of_withoutData_eq hsame⟩
  | none =>
      obtain ⟨last, hfills, hbindings⟩ := (compile_eq_ok_iff hraw).1 hleft
      obtain ⟨last', hfills', hbindings'⟩ :=
        (compile_eq_ok_iff (hraws ▸ hraw)).1 hright
      have hstart : BindingStore.Alike {} {} := ⟨rfl, rfl⟩
      obtain ⟨htext, halike⟩ :=
        hfills.alike hfills' (template_of_withoutData_eq hsame) hstart
      rw [hbindings, hbindings']
      exact ⟨htext, halike.names⟩

/-- Queries that are equal but for their data are compiled to one text and bind
the same names in the same order, and without raw subqueries either both are
compiled or neither. -/
theorem text_independent_of_data
    (hsame : left.withoutData = right.withoutData) :
    (∀ compiled compiled' : CompiledQuery,
      left.compile = .ok compiled → right.compile = .ok compiled' →
        compiled.text = compiled'.text ∧
          compiled.bindings.map Prod.fst = compiled'.bindings.map Prod.fst) ∧
    (¬ left.RendersRawSubquery → ¬ right.RendersRawSubquery →
      ((∃ compiled, left.compile = .ok compiled) ↔
        ∃ compiled, right.compile = .ok compiled)) := by
  constructor
  · intro compiled compiled' hleft hright
    exact text_of_withoutData_eq hsame hleft hright
  · intro hleft hright
    exact ⟨compiles_of_withoutData_eq hsame hleft,
      compiles_of_withoutData_eq hsame.symm hright⟩

/-- A query with data of every kind, in a subquery, a document, the options of a
search and an operator. -/
def carrying (items : List Value) (value : Value) (pattern field : String) :
    Query where
  loop := some (.proper "u")
  source := some (.proper (.text "users"))
  searches := some
    [{ view := "users"
       conditions := [.of (.like (.reference "u.name") pattern true)]
       options := some [("limit", .literal value)] }]
  filters := some
    [.of (.binary .isIn (.reference "u.age") (.literal (.list items))),
      .of (.regex (.reference "u.name") pattern none)]
  result := some (.object
    [("user", .of (.unset (.reference "u") [field])),
      ("all", .subquery { result := some (.literal value) })])

theorem carrying_text_independent_of_data :
    (∃ compiled compiled',
      (carrying [.int 1, .int 2] .null "a%" "age").compile = .ok compiled ∧
        (carrying [] (.text "1 RETURN 1") "%" "name").compile = .ok compiled' ∧
        compiled.text =
          "FOR u IN users\nSEARCH LIKE(u.name, @likePattern0, true) OPTIONS " ++
          "\x7b\"limit\": @value1\x7d\nFILTER (u.age IN @inValues2)\n" ++
          "FILTER REGEX_MATCH(u.name, @regexPattern3)\n" ++
          "RETURN \x7b\"user\": UNSET(u, @value4), \"all\": (RETURN @value5)\x7d" ∧
        compiled.text = compiled'.text ∧
        compiled.bindings.map Prod.fst = compiled'.bindings.map Prod.fst) ∧
    ((∃ compiled,
        (carrying [.int 1, .int 2] .null "a%" "age").compile = .ok compiled) ↔
      ∃ compiled,
        (carrying [] (.text "1 RETURN 1") "%" "name").compile =
          .ok compiled) := by
  have hsame : (carrying [.int 1, .int 2] .null "a%" "age").withoutData =
      (carrying [] (.text "1 RETURN 1") "%" "name").withoutData := rfl
  obtain ⟨hruns, hcompiles⟩ := text_independent_of_data hsame
  constructor
  · exact ⟨_, _, rfl, rfl, by decide +kernel, hruns _ _ rfl rfl⟩
  · exact hcompiles (by decide +kernel) (by decide +kernel)

end Query

end ArangoQuery
