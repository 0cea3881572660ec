import ArangoQuery.Proofs.FreshNames

/-!
# Looking names up

What a store holds under a name after one more binding: `bind` adds a name and
leaves all others alone, and so does `adopt` unless the name is bound already.
Then it puts its own value in the place of the bound one, which it has found to be
the same up to the spelling of numbers.
-/

namespace ArangoQuery

section Entries

variable {κ α : Type} {same : κ → κ → Bool}

/-- Among different keys an entry is found under its own. -/
theorem lookupEntry_of_pairwise {key : κ} {value : α}
    {entries : List (κ × α)} (hself : same key key = true)
    (hkeys : entries.Pairwise fun left right =>
      same left.1 right.1 = false)
    (hentry : (key, value) ∈ entries) :
    lookupEntry same key entries = some value := by
  induction entries with
  | nil => exact absurd hentry List.not_mem_nil
  | cons entry rest hrest =>
      obtain ⟨hhead, htail⟩ := List.pairwise_cons.1 hkeys
      rcases List.mem_cons.1 hentry with rfl | hmem
      · simp [lookupEntry, hself]
      · simp [lookupEntry, hhead _ hmem, hrest htail hmem]

theorem exists_of_lookupEntry {key : κ} {value : α}
    {entries : List (κ × α)}
    (hlookup : lookupEntry same key entries = some value) :
    ∃ other, same other key = true ∧ (other, value) ∈ entries := by
  induction entries with
  | nil => cases hlookup
  | cons entry rest hrest =>
      rw [lookupEntry] at hlookup
      split at hlookup
      · next hsame =>
          obtain rfl := Option.some.inj hlookup
          exact ⟨entry.1, hsame, List.mem_cons_self⟩
      · obtain ⟨other, hsame, hother⟩ := hrest hlookup
        exact ⟨other, hsame, List.mem_cons_of_mem _ hother⟩

end Entries

section Names

variable {entries : List (String × Value)} {name : String}

theorem lookupEntry_append (left right : List (String × Value))
    (name : String) :
    lookupEntry BindingName.same name (left ++ right) =
      (lookupEntry BindingName.same name left).or
        (lookupEntry BindingName.same name right) := by
  induction left with
  | nil => simp [lookupEntry]
  | cons entry rest hrest =>
      by_cases heq : entry.1 = name
      · simp [lookupEntry, heq]
      · simp [lookupEntry, heq, hrest]

/-- Among different names an entry is found under its own. -/
theorem lookupEntry_of_mem (hnodup : (entries.map Prod.fst).Nodup)
    {value : Value} (hentry : (name, value) ∈ entries) :
    lookupEntry BindingName.same name entries = some value := by
  apply lookupEntry_of_pairwise (beq_self_eq_true name) _ hentry
  apply (List.pairwise_map.1 hnodup).imp
  intro left right hne
  exact beq_false_of_ne hne

theorem mem_of_lookupEntry {value : Value}
    (hlookup : lookupEntry BindingName.same name entries = some value) :
    (name, value) ∈ entries := by
  obtain ⟨other, hsame, hmem⟩ := exists_of_lookupEntry hlookup
  obtain rfl : other = name := eq_of_beq hsame
  exact hmem

theorem lookupEntry_putEntry (entries : List (String × Value))
    (bound name : String) (value : Value) :
    lookupEntry BindingName.same name
        (putEntry BindingName.same bound value entries) =
      if bound = name then some value
      else lookupEntry BindingName.same name entries := by
  induction entries with
  | nil => simp [putEntry, lookupEntry]
  | cons entry rest hrest =>
      by_cases hput : entry.1 = bound
      · subst hput
        by_cases heq : entry.1 = name <;> simp [putEntry, lookupEntry, heq]
      · have hkept : putEntry BindingName.same bound value (entry :: rest) =
            entry :: putEntry BindingName.same bound value rest := by
          simp [putEntry, hput]
        rw [hkept]
        by_cases heq : entry.1 = name
        · have hne : bound ≠ name := fun hname => hput (heq.trans hname.symm)
          simp [lookupEntry, heq, hne]
        · simp [lookupEntry, heq, hrest]

end Names

namespace BindingStore

variable {store next : BindingStore String}

theorem get?_eq_none_iff (name : String) :
    store.get? name = none ↔ name ∉ store.names := by
  rw [← store.get?_isSome_iff, Option.not_isSome_iff_eq_none]

theorem get?_bind (store : BindingStore String) (stem : String) (value : Value)
    (name : String) :
    (store.bind stem value).2.get? name =
      if (store.bind stem value).1 = name then some value
      else store.get? name := by
  have hfresh := store.bind_fresh stem value
  rw [get?, bind_eq, lookupEntry_append]
  by_cases heq : numbered stem (store.nextNumber stem) = name
  · have hnone : store.get? name = none :=
      (get?_eq_none_iff name).2 (heq ▸ hfresh)
    rw [get?] at hnone
    simp [hnone, lookupEntry, heq]
  · simp [lookupEntry, heq, get?]

theorem get?_adopt {bound : String} {value : Value}
    (hadopt : store.adopt bound value = .ok next) (name : String) :
    next.get? name = if bound = name then some value else store.get? name := by
  rw [adopt] at hadopt
  cases hget : store.get? bound with
  | none =>
      simp only [hget, Except.ok.injEq] at hadopt
      subst hadopt
      rw [get?, lookupEntry_append]
      by_cases heq : bound = name
      · subst heq
        rw [get?] at hget
        simp [hget, lookupEntry]
      · simp [lookupEntry, heq, get?]
  | some old =>
      simp only [hget] at hadopt
      split at hadopt
      · obtain rfl := Except.ok.inj hadopt
        exact lookupEntry_putEntry store.values bound name value
      · exact absurd hadopt (by simp)

/-- A value is only put in the place of one that it is the same as. -/
theorem same_of_adopt {bound : String} {value old : Value}
    (hadopt : store.adopt bound value = .ok next)
    (hget : store.get? bound = some old) : old.same value = true := by
  rw [adopt, hget] at hadopt
  by_contra hdifferent
  simp [hdifferent] at hadopt

end BindingStore

end ArangoQuery
