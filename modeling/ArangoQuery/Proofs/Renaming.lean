import ArangoQuery.Proofs.Lookup
import ArangoQuery.Proofs.Numbering
import Mathlib.Data.Set.Function

/-!
# Queries next to other queries

A query without raw subqueries asks for one name after the other and looks at
nothing else in the store.  From the empty store the names are numbered from 0 on;
in any other store they are different ones, and the text is the same up to that
(`Query.compile_numbered`).
-/

namespace ArangoQuery

open BindingStore (numbered)

/-! ## Binding one value after the other -/

namespace BindingStore

theorem length_bindAll (store : BindingStore String)
    (calls : List (String × Value)) :
    (store.bindAll calls).1.length = calls.length := by
  induction calls generalizing store with
  | nil => rfl
  | cons call rest hrest => simp [bindAll, hrest]

theorem values_bindAll (store : BindingStore String)
    (calls : List (String × Value)) :
    (store.bindAll calls).2.values =
      store.values ++ (store.bindAll calls).1.zip (calls.map Prod.snd) := by
  induction calls generalizing store with
  | nil => simp [bindAll]
  | cons call rest hrest =>
      have hvalues : (store.bind call.1 call.2).2.values =
          store.values ++ [((store.bind call.1 call.2).1, call.2)] := rfl
      simp [bindAll, hrest, hvalues]

theorem bindAll_fresh (store : BindingStore String)
    (calls : List (String × Value)) :
    ∀ name ∈ (store.bindAll calls).1, name ∉ store.names := by
  induction calls generalizing store with
  | nil => exact List.forall_mem_nil _
  | cons call rest hrest =>
      refine List.forall_mem_cons.2 ⟨store.bind_fresh call.1 call.2, ?_⟩
      intro name hname hused
      have hnext := hrest (store.bind call.1 call.2).2 name hname
      rw [names_bind] at hnext
      exact hnext (List.mem_append_left _ hused)

theorem nodup_bindAll (store : BindingStore String)
    (calls : List (String × Value)) : (store.bindAll calls).1.Nodup := by
  induction calls generalizing store with
  | nil => exact List.nodup_nil
  | cons call rest hrest =>
      refine List.nodup_cons.2 ⟨?_, hrest _⟩
      intro hname
      have hnext := bindAll_fresh (store.bind call.1 call.2).2 rest _ hname
      rw [names_bind] at hnext
      exact hnext (List.mem_append_right _ (List.mem_singleton_self _))

end BindingStore

namespace Template

/-- The names made up for texts and holes are those of the calls. -/
theorem generatedNames_of_isPlain {template : Template}
    (hplain : ∀ piece ∈ template, piece.isPlain = true)
    (store : BindingStore String) :
    Request.generatedNames (template.requests store) =
      (store.bindAll template.calls).1 := by
  induction template generalizing store with
  | nil => rfl
  | cons piece rest hrest =>
      obtain ⟨hpiece, htail⟩ := List.forall_mem_cons.1 hplain
      cases piece with
      | text content => exact hrest htail store
      | hole stem value =>
          exact congrArg ((store.bind stem value).1 :: ·)
            (hrest htail (store.bind stem value).2)
      | adopt bindings => exact absurd hpiece Bool.false_ne_true
      | halt error => exact absurd hpiece Bool.false_ne_true

/-- From the empty store the names are numbered from 0 on. -/
theorem bindAll_numbered {template : Template} (hstems : template.HasStems)
    (hplain : ∀ piece ∈ template, piece.isPlain = true) :
    (BindingStore.bindAll {} template.calls).1 =
      template.calls.mapIdx fun position (stem, _) =>
        numbered stem position := by
  have hfills := fills_of_isPlain hplain {}
  calc (BindingStore.bindAll {} template.calls).1
      = Request.generatedNames (template.requests {}) :=
        (generatedNames_of_isPlain hplain {}).symm
    _ = template.numberedNames [] 0 :=
        hfills.generatedNames_eq hstems BindingStore.accounts_empty
    _ = template.calls.mapIdx fun position (stem, _) =>
          numbered stem (0 + position) :=
        numberedNames_of_isPlain hplain 0
    _ = _ := by simp only [Nat.zero_add]

end Template

/-! ## Renaming -/

/-- A list of different names can be renamed to any list of its length. -/
theorem exists_rename {names names' : List String} (hnodup : names.Nodup)
    (hlength : names.length = names'.length) :
    ∃ rename : String → String, names.map rename = names' := by
  refine ⟨fun name => names'.getD (names.idxOf name) "", ?_⟩
  apply List.ext_getElem
  · simpa using hlength
  · intro position hposition hposition'
    rw [List.length_map] at hposition
    simp [hnodup.idxOf_getElem, hposition', List.getD_eq_getElem?_getD]

namespace BindingStore

/-- Renamed bindings behind a store are found under their new names. -/
theorem get?_of_renamed {store last : BindingStore String}
    {bindings : List (String × Value)} {rename : String → String}
    (hnodup : ((bindings.map Prod.fst).map rename).Nodup)
    (hfresh : ∀ name ∈ bindings.map Prod.fst, rename name ∉ store.names)
    (hvalues : last.values =
      store.values ++ bindings.map (Prod.map rename id)) :
    ∀ binding ∈ bindings, last.get? (rename binding.1) = some binding.2 := by
  intro binding hbinding
  have hnone : store.get? (rename binding.1) = none :=
    (get?_eq_none_iff _).2 (hfresh _ (List.mem_map_of_mem hbinding))
  have hnames : (bindings.map (Prod.map rename id)).map Prod.fst =
      (bindings.map Prod.fst).map rename := by simp
  have hfound : lookupEntry BindingName.same (rename binding.1)
      (bindings.map (Prod.map rename id)) = some binding.2 := by
    apply lookupEntry_of_mem (hnames ▸ hnodup)
    exact List.mem_map_of_mem (f := Prod.map rename id) hbinding
  rw [get?] at hnone ⊢
  rw [hvalues, lookupEntry_append, hnone, hfound, Option.none_or]

end BindingStore

namespace Query

variable {query : Query} {compiled : CompiledQuery}

theorem bindings_of_isPlain (hraw : query.raw = none)
    (hplain : ∀ piece ∈ query.template, piece.isPlain = true)
    (hcompile : query.compile = .ok compiled) :
    compiled.bindings =
      (BindingStore.bindAll {} query.template.calls).1.zip
        (query.template.calls.map Prod.snd) := by
  rw [compile_of_isPlain hraw hplain] at hcompile
  obtain rfl := Except.ok.inj hcompile
  rw [BindingStore.values_bindAll]
  exact List.nil_append _

theorem names_of_isPlain (hraw : query.raw = none)
    (hplain : ∀ piece ∈ query.template, piece.isPlain = true)
    (hcompile : query.compile = .ok compiled) :
    compiled.names = (BindingStore.bindAll {} query.template.calls).1 := by
  rw [CompiledQuery.names, bindings_of_isPlain hraw hplain hcompile]
  apply List.map_fst_zip
  rw [BindingStore.length_bindAll, List.length_map]

/-- What a query without raw subqueries binds depends on its template alone: each
hole gets its stem with its position. -/
theorem bindings_numbered (hraw : query.raw = none)
    (hplain : ∀ piece ∈ query.template, piece.isPlain = true)
    (hcompile : query.compile = .ok compiled) :
    compiled.bindings =
      query.template.calls.mapIdx fun position (stem, value) =>
        (numbered stem position, value) := by
  rw [bindings_of_isPlain hraw hplain hcompile,
    Template.bindAll_numbered query.template_hasStems hplain]
  apply List.ext_getElem
  · simp
  · intro position hposition hposition'
    simp

/-- Rendered next to other queries, a query without raw subqueries has the same
text up to the names of its values. -/
theorem render_renamed (hraw : query.raw = none)
    (hplain : ∀ piece ∈ query.template, piece.isPlain = true)
    (hcompile : query.compile = .ok compiled) (store : BindingStore String) :
    ∃ (rename : String → String) (last : BindingStore String),
      query.render store =
          .ok (query.template.fillWith (compiled.names.map rename), last) ∧
        compiled.names.map rename =
          (store.bindAll query.template.calls).1 ∧
        Set.InjOn rename {name | name ∈ compiled.names} ∧
        (∀ name ∈ compiled.names, rename name ∉ store.names) ∧
        last.values = store.values ++
          compiled.bindings.map (Prod.map rename id) ∧
        ∀ binding ∈ compiled.bindings,
          last.get? (rename binding.1) = some binding.2 := by
  have hnames := names_of_isPlain hraw hplain hcompile
  have hnodup : compiled.names.Nodup := by
    rw [hnames]
    exact BindingStore.nodup_bindAll _ _
  have hlength : compiled.names.length =
      (store.bindAll query.template.calls).1.length := by
    rw [hnames, BindingStore.length_bindAll, BindingStore.length_bindAll]
  obtain ⟨rename, hrename⟩ := exists_rename hnodup hlength
  have hnodup' : (compiled.names.map rename).Nodup := by
    rw [hrename]
    exact store.nodup_bindAll _
  have hfresh : ∀ name ∈ compiled.names, rename name ∉ store.names := by
    intro name hname
    apply store.bindAll_fresh query.template.calls
    rw [← hrename]
    exact List.mem_map_of_mem hname
  have hvalues : (store.bindAll query.template.calls).2.values =
      store.values ++ compiled.bindings.map (Prod.map rename id) := by
    rw [BindingStore.values_bindAll, ← hrename, hnames,
      bindings_of_isPlain hraw hplain hcompile, List.zip_map_left]
  refine ⟨rename, (store.bindAll query.template.calls).2, ?_, hrename, ?_,
    hfresh, hvalues, ?_⟩
  · rw [hrename]
    exact Template.fill_of_fills (Template.fills_of_isPlain hplain store)
  · intro name hname name' hname' heq
    exact List.inj_on_of_nodup_map hnodup' hname hname' heq
  · exact BindingStore.get?_of_renamed hnodup' hfresh hvalues

/-- The values of a query without raw subqueries are numbered in the order of
their placeholders, each under a name of its own; rendered into any store, the
query differs in these names only. -/
theorem compile_numbered (hraw : query.raw = none)
    (hsubqueries : ¬ query.RendersRawSubquery)
    (hcompile : query.compile = .ok compiled) :
    compiled.bindings =
        query.template.calls.mapIdx (fun position (stem, value) =>
          (numbered stem position, value)) ∧
      compiled.names.Nodup ∧
      compiled.text = query.template.fillWith compiled.names ∧
      query.template.countP (·.call?.isSome) = compiled.names.length ∧
      ∀ store : BindingStore String,
        ∃ (rename : String → String) (last : BindingStore String),
          query.render store =
              .ok (query.template.fillWith (compiled.names.map rename), last) ∧
            compiled.names.map rename =
              (store.bindAll query.template.calls).1 ∧
            Set.InjOn rename {name | name ∈ compiled.names} ∧
            (∀ name ∈ compiled.names, rename name ∉ store.names) ∧
            last.values = store.values ++
              compiled.bindings.map (Prod.map rename id) ∧
            ∀ binding ∈ compiled.bindings,
              last.get? (rename binding.1) = some binding.2 := by
  have hplain := isPlain_of_compile hraw hsubqueries hcompile
  have hnames := names_of_isPlain hraw hplain hcompile
  refine ⟨bindings_numbered hraw hplain hcompile, ?_, ?_, ?_,
    render_renamed hraw hplain hcompile⟩
  · rw [hnames]
    exact BindingStore.nodup_bindAll _ _
  · rw [hnames]
    rw [compile_of_isPlain hraw hplain] at hcompile
    exact congrArg CompiledQuery.text (Except.ok.inj hcompile).symm
  · rw [hnames, BindingStore.length_bindAll, Template.calls,
      List.length_filterMap_eq_countP]

/-- A list, a literal and a subquery share one counter. -/
theorem nested_compile_numbered :
    ∃ compiled,
      compile { result := some (.array
          [.literal (.list []), .literal (.int 1),
            .subquery { result := some (.literal .null) }]) } =
          .ok compiled ∧
        compiled.names = ["array0", "value1", "value2"] ∧
        compiled.names.Nodup ∧
        ∀ store : BindingStore String, ∃ rename : String → String,
          Set.InjOn rename {name | name ∈ compiled.names} ∧
            ∀ name ∈ compiled.names, rename name ∉ store.names := by
  let query : Query :=
    { result := some (.array
        [.literal (.list []), .literal (.int 1),
          .subquery { result := some (.literal .null) }]) }
  have hsubqueries : ¬ query.RendersRawSubquery := by decide +kernel
  have hcompile : query.compile =
      .ok ⟨"RETURN [@array0, @value1, (RETURN @value2)]",
        [("array0", .list []), ("value1", .int 1), ("value2", .null)]⟩ := rfl
  obtain ⟨_, hnodup, _, _, hstores⟩ :=
    compile_numbered rfl hsubqueries hcompile
  refine ⟨_, hcompile, rfl, hnodup, ?_⟩
  intro store
  obtain ⟨rename, _, _, _, hinjective, hfresh, _⟩ := hstores store
  exact ⟨rename, hinjective, hfresh⟩

/-- A query that is raw itself binds what it is told to. -/
theorem raw_bindings_not_numbered :
    ¬ ∀ (query : Query) (compiled : CompiledQuery),
      ¬ query.RendersRawSubquery → query.compile = .ok compiled →
        compiled.bindings =
          query.template.calls.mapIdx fun position (stem, value) =>
            (numbered stem position, value) := by
  intro hnumbered
  let query : Query :=
    { raw := some "RETURN @p", rawBindings := some [("p", .int 1)] }
  have hsubqueries : ¬ query.RendersRawSubquery := by decide
  have hbindings := hnumbered query _ hsubqueries rfl
  exact List.cons_ne_nil _ _ hbindings

end Query

end ArangoQuery
