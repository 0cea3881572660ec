import ArangoQuery.Rendering.Store
import Mathlib.Data.List.Nodup
import Mathlib.Data.List.Perm.Subperm
import Mathlib.Data.Nat.Find
import Mathlib.Order.Bounds.Basic
import Std.Data.String.ToNat

/-!
# Fresh names

A name made up by `bind` ends in the least number from the counter on whose name
is free (`BindingStore.nextNumber_isLeast`).  Stems without digits keep the names
of different numbers apart, whatever their stems (`numbered_inj`).
-/

namespace ArangoQuery

namespace BindingStore

/-! ## Stems and numbers -/

theorem numbered_right_injective (stem : String) :
    Function.Injective (numbered stem) := by
  intro left right heq
  have hdigits : Nat.repr left = Nat.repr right := by
    simpa [numbered, Nat.toString_eq_repr] using heq
  exact Nat.repr_injective hdigits

/-- A stem has no digits, so that a name shows where its number begins. -/
def IsStem (stem : String) : Prop :=
  ∀ character ∈ stem.toList, character.isDigit = false

instance : DecidablePred IsStem := fun stem =>
  decidable_of_iff (stem.toList.all (!·.isDigit) = true) (by simp [IsStem])

theorem takeWhile_numbered {stem : String} (hstem : IsStem stem) (number : Nat) :
    (numbered stem number).toList.takeWhile (!·.isDigit) = stem.toList := by
  have hdigits : ∀ character ∈ (toString number).toList,
      character.isDigit = true := by
    intro character hcharacter
    rw [Nat.toString_eq_repr, Nat.toList_repr] at hcharacter
    exact Nat.isDigit_of_mem_toDigits (by decide) (by decide) hcharacter
  have hstop : (toString number).toList.takeWhile (!·.isDigit) = [] := by
    cases htext : (toString number).toList with
    | nil => rfl
    | cons first rest =>
        have hfirst := hdigits first (htext ▸ List.mem_cons_self)
        simp [hfirst]
  rw [numbered, String.toList_append, List.takeWhile_append_of_pos, hstop,
    List.append_nil]
  intro character hcharacter
  simp [hstem character hcharacter]

theorem numbered_inj {left right : String} (hleft : IsStem left)
    (hright : IsStem right) {number number' : Nat}
    (heq : numbered left number = numbered right number') :
    left = right ∧ number = number' := by
  have hstems : left = right := by
    apply String.toList_injective
    rw [← takeWhile_numbered hleft number, heq, takeWhile_numbered hright]
  subst hstems
  exact ⟨rfl, numbered_right_injective left heq⟩

/-! ## The names of a store -/

variable (store : BindingStore String)

/-- The names in use, in the order in which they were bound. -/
def names : List String :=
  store.values.map Prod.fst

theorem isBound_iff (name : String) :
    store.isBound name = true ↔ name ∈ store.names := by
  simp [isBound, names]

/-! ## The search for a free name -/

theorem le_firstFree (stem : String) (fuel counter : Nat) :
    counter ≤ store.firstFree stem fuel counter := by
  induction fuel generalizing counter with
  | zero => exact Nat.le_refl counter
  | succ fuel hfuel =>
      rw [firstFree]
      split
      · exact Nat.le_of_succ_le (hfuel (counter + 1))
      · exact Nat.le_refl counter

/-- Whatever the search passes over is taken. -/
theorem mem_names_of_lt_firstFree {stem : String} {fuel counter number : Nat}
    (hcounter : counter ≤ number)
    (hnumber : number < store.firstFree stem fuel counter) :
    numbered stem number ∈ store.names := by
  induction fuel generalizing counter with
  | zero => exact absurd hnumber (Nat.not_lt.2 hcounter)
  | succ fuel hfuel =>
      rw [firstFree] at hnumber
      split at hnumber
      · next htaken =>
          by_cases heq : counter = number
          · subst heq
            exact (store.isBound_iff _).1 htaken
          · exact hfuel (by omega) hnumber
      · exact absurd hnumber (Nat.not_lt.2 hcounter)

/-- A search that ends on a taken name has used up all its fuel. -/
theorem firstFree_of_mem_names {stem : String} {fuel counter : Nat}
    (htaken : numbered stem (store.firstFree stem fuel counter) ∈ store.names) :
    store.firstFree stem fuel counter = counter + fuel := by
  induction fuel generalizing counter with
  | zero => rfl
  | succ fuel hfuel =>
      rw [firstFree] at htaken ⊢
      split at htaken
      · next hbound =>
          rw [if_pos hbound, hfuel htaken]
          omega
      · next hfree => exact absurd ((store.isBound_iff _).2 htaken) hfree

/-- Among more candidates than there are names, one is free. -/
theorem exists_free_le (stem : String) (counter : Nat) :
    ∃ number, counter ≤ number ∧ number ≤ counter + store.values.length ∧
      numbered stem number ∉ store.names := by
  by_contra! htaken
  let candidates :=
    (List.range' counter (store.values.length + 1)).map (numbered stem)
  have hnodup : candidates.Nodup :=
    List.Nodup.map (numbered_right_injective stem) List.nodup_range'
  have hsubset : candidates ⊆ store.names := by
    intro name hname
    obtain ⟨number, hnumber, rfl⟩ := List.mem_map.1 hname
    rw [List.mem_range'_1] at hnumber
    exact htaken number hnumber.1 (by omega)
  have hlength := (List.subperm_of_subset hnodup hsubset).length_le
  simp only [candidates, names, List.length_map, List.length_range'] at hlength
  omega

theorem firstFree_not_mem_names (stem : String) (counter : Nat) :
    numbered stem
      (store.firstFree stem (store.values.length + 1) counter) ∉
        store.names := by
  intro htaken
  have hend := store.firstFree_of_mem_names htaken
  obtain ⟨number, hcounter, hnumber, hfree⟩ := store.exists_free_le stem counter
  have hbelow :
      number < store.firstFree stem (store.values.length + 1) counter := by
    omega
  exact hfree (store.mem_names_of_lt_firstFree hcounter hbelow)

/-! ## Binding -/

/-- The number that the next name with a given stem gets. -/
def nextNumber (stem : String) : Nat :=
  store.firstFree stem (store.values.length + 1) store.counter

/-- The next number is the least one from the counter on whose name is free. -/
theorem nextNumber_isLeast (stem : String) :
    IsLeast {number | store.counter ≤ number ∧
      numbered stem number ∉ store.names} (store.nextNumber stem) := by
  constructor
  · exact ⟨store.le_firstFree _ _ _, store.firstFree_not_mem_names _ _⟩
  · rintro number ⟨hcounter, hfree⟩
    apply Nat.le_of_not_lt
    intro hsmaller
    exact hfree (store.mem_names_of_lt_firstFree hcounter hsmaller)

/-- The search tries one more number than there are names, at the most. -/
theorem nextNumber_le (stem : String) :
    store.nextNumber stem ≤ store.counter + store.values.length := by
  obtain ⟨number, hcounter, hnumber, hfree⟩ :=
    store.exists_free_le stem store.counter
  exact ((store.nextNumber_isLeast stem).2 ⟨hcounter, hfree⟩).trans hnumber

/-- From any number on, some number makes a name that is not taken. -/
theorem exists_free (taken : List String) (stem : String) (counter : Nat) :
    ∃ number, counter ≤ number ∧ numbered stem number ∉ taken := by
  let occupied : BindingStore String :=
    { values := taken.map fun name => (name, .null), counter }
  have hnames : occupied.names = taken := by
    simp [occupied, names, Function.comp_def]
  have hleast := (occupied.nextNumber_isLeast stem).1
  rw [hnames] at hleast
  exact ⟨_, hleast⟩

/-- The least number from the counter on whose name is not taken. -/
def leastFree (taken : List String) (stem : String) (counter : Nat) : Nat :=
  Nat.find (exists_free taken stem counter)

theorem leastFree_isLeast (taken : List String) (stem : String)
    (counter : Nat) :
    IsLeast {number | counter ≤ number ∧ numbered stem number ∉ taken}
      (leastFree taken stem counter) := by
  constructor
  · exact Nat.find_spec (exists_free taken stem counter)
  · intro number hnumber
    exact Nat.find_min' (exists_free taken stem counter) hnumber

@[simp]
theorem leastFree_nil (stem : String) (counter : Nat) :
    leastFree [] stem counter = counter := by
  have hleast := leastFree_isLeast [] stem counter
  have hself : counter ∈
      {number | counter ≤ number ∧ numbered stem number ∉ []} :=
    ⟨Nat.le_refl counter, List.not_mem_nil⟩
  exact Nat.le_antisymm (hleast.2 hself) hleast.1.1

theorem bind_eq (stem : String) (value : Value) :
    store.bind stem value =
      (numbered stem (store.nextNumber stem),
        { values := store.values ++
            [(numbered stem (store.nextNumber stem), value)]
          counter := store.nextNumber stem + 1 }) :=
  rfl

theorem bind_fresh (stem : String) (value : Value) :
    (store.bind stem value).1 ∉ store.names :=
  (store.nextNumber_isLeast stem).1.2

@[simp]
theorem names_bind (stem : String) (value : Value) :
    (store.bind stem value).2.names =
      store.names ++ [(store.bind stem value).1] := by
  simp [bind_eq, names]

/-- The names handed out do not depend on what has been bound. -/
theorem nextNumber_congr {left right : BindingStore String}
    (hnames : left.names = right.names) (hcounter : left.counter = right.counter)
    (stem : String) : left.nextNumber stem = right.nextNumber stem := by
  have hleft := left.nextNumber_isLeast stem
  rw [hnames, hcounter] at hleft
  exact hleft.unique (right.nextNumber_isLeast stem)

/-- Binds values one after the other and returns the names made up for them. -/
def bindAll (store : BindingStore String) :
    List (String × Value) → List String × BindingStore String
  | [] => ([], store)
  | (stem, value) :: rest =>
      let (name, next) := store.bind stem value
      let (names, last) := next.bindAll rest
      (name :: names, last)

/-! ## Merging -/

theorem get?_isSome_iff (name : String) :
    (store.get? name).isSome = true ↔ name ∈ store.names := by
  rw [get?, names]
  induction store.values with
  | nil => simp [lookupEntry]
  | cons entry rest hrest =>
      by_cases heq : entry.1 = name
      · simp [lookupEntry, heq]
      · simp [lookupEntry, heq, hrest, Ne.symm heq]

theorem map_fst_putEntry {name : String} {entries : List (String × Value)}
    (hname : name ∈ entries.map Prod.fst) (value : Value) :
    (putEntry BindingName.same name value entries).map Prod.fst =
      entries.map Prod.fst := by
  induction entries with
  | nil => simp at hname
  | cons entry rest hrest =>
      by_cases heq : entry.1 = name
      · simp [putEntry, heq]
      · have hmem : name ∈ rest.map Prod.fst := by
          simpa [Ne.symm heq] using hname
        simp [putEntry, heq, hrest hmem]

/-- Taking a value over adds its name, unless the name is in use already. -/
theorem adopt_names {store next : BindingStore String} {name : String}
    {value : Value} (hadopt : store.adopt name value = .ok next) :
    next.names = store.names ++ (if name ∈ store.names then [] else [name]) ∧
      next.counter = store.counter := by
  have hbound := store.get?_isSome_iff name
  rw [adopt] at hadopt
  cases hget : store.get? name with
  | none =>
      simp only [hget, Option.isSome_none, Bool.false_eq_true, false_iff] at hbound
      simp only [hget, Except.ok.injEq] at hadopt
      subst hadopt
      rw [if_neg hbound]
      simp [names]
  | some bound =>
      simp only [hget, Option.isSome_some, true_iff] at hbound
      simp only [hget] at hadopt
      split at hadopt
      · obtain rfl := Except.ok.inj hadopt
        refine ⟨?_, rfl⟩
        rw [if_pos hbound, List.append_nil]
        exact map_fst_putEntry hbound value
      · exact absurd hadopt (by simp)

/-- A merge that succeeds has taken over one value after the other. -/
theorem merge_cons {store last : BindingStore String} {name : String}
    {value : Value} {rest : List (String × Value)} :
    store.merge ((name, value) :: rest) = (none, last) ↔
      ∃ next, store.adopt name value = .ok next ∧
        next.merge rest = (none, last) := by
  rw [merge]
  cases store.adopt name value <;> simp

/-- Every name of a successful merge is in use, and no other new one. -/
theorem mem_names_merge {store last : BindingStore String}
    {bindings : List (String × Value)}
    (hmerge : store.merge bindings = (none, last)) (name : String) :
    name ∈ last.names ↔ name ∈ store.names ∨ name ∈ bindings.map Prod.fst := by
  induction bindings generalizing store with
  | nil => simp_all [merge]
  | cons binding rest hrest =>
      obtain ⟨next, hadopt, hmerge⟩ := merge_cons.1 hmerge
      rw [hrest hmerge, (adopt_names hadopt).1]
      by_cases hmem : binding.1 ∈ store.names
      · rw [if_pos hmem]
        have : name = binding.1 → name ∈ store.names := fun heq => heq ▸ hmem
        simp
        tauto
      · rw [if_neg hmem]
        simp [or_assoc]

theorem counter_merge {store last : BindingStore String}
    {bindings : List (String × Value)}
    (hmerge : store.merge bindings = (none, last)) :
    last.counter = store.counter := by
  induction bindings generalizing store with
  | nil => simp_all [merge]
  | cons binding rest hrest =>
      obtain ⟨next, hadopt, hmerge⟩ := merge_cons.1 hmerge
      rw [hrest hmerge, (adopt_names hadopt).2]

/-- Which names are in use after a merge does not depend on the values. -/
theorem merge_names_congr {left left' right right' : BindingStore String}
    {bindings bindings' : List (String × Value)}
    (hbindings : bindings.map Prod.fst = bindings'.map Prod.fst)
    (hnames : left.names = right.names)
    (hleft : left.merge bindings = (none, left'))
    (hright : right.merge bindings' = (none, right')) :
    left'.names = right'.names := by
  induction bindings generalizing left right bindings' with
  | nil =>
      obtain rfl : bindings' = [] := by simpa using hbindings.symm
      simp_all [merge]
  | cons binding rest hrest =>
      cases bindings' with
      | nil => simp at hbindings
      | cons binding' rest' =>
          simp only [List.map_cons, List.cons.injEq] at hbindings
          obtain ⟨next, hadopt, hmerge⟩ := merge_cons.1 hleft
          obtain ⟨next', hadopt', hmerge'⟩ := merge_cons.1 hright
          apply hrest hbindings.2 _ hmerge hmerge'
          rw [(adopt_names hadopt).1, (adopt_names hadopt').1, hnames,
            hbindings.1]

end BindingStore

end ArangoQuery
