import ArangoQuery.Proofs.LastValue
import ArangoQuery.Proofs.SnapshotData
import ArangoQuery.Script.Question
import Mathlib.Data.List.Induction
import Mathlib.Logic.Relation

/-!
# Calls on a store

Whatever is bound and merged, a store only grows: a name stays where it was first
bound, and its value is replaced by equal ones only (`BindingStore.Keeps`).  A
merge that fails has kept what it took over before the conflict, which changes
nothing in this.  So the names that `bind` makes up are different from each other
and can be looked up ever after (`Script.StoreCall.name_made_up`).

A store that is filled by hand takes any scalar for a name; with texts for names
it does what the store of a query does (`BindingStore.byHand`).
-/

namespace ArangoQuery

open BindingStore (numbered)
open Request (exists_lastValue lastValue mem_of_lastValue taken)

/-! ## Values that are equal to themselves -/

/-- Is this anything but a NaN? -/
def Scalar.isDefinite : Scalar → Bool
  | .float value => !value.isNaN
  | _ => true

theorem Scalar.same_self {scalar : Scalar}
    (hdefinite : scalar.isDefinite = true) : scalar.same scalar = true := by
  cases scalar with
  | null => rfl
  | bool value => simp [same, toInt?]
  | int value => simp [same, toInt?]
  | float value => simp_all [isDefinite, same, Binary64.same]
  | text value => simp [same]

namespace Value

mutual

/-- Is this data without NaN?  A mapping has every key once. -/
def isDefinite : Value → Bool
  | .scalar value => value.isDefinite
  | .list items => areDefinite items
  | .tuple items => areDefinite items
  | .map entries =>
      areDefiniteEntries entries &&
        decide (entries.Pairwise fun left right =>
          Scalar.same left.1 right.1 = false)
  | .model _ fields => areDefiniteFields fields
  | .foreign .. => false

def areDefinite : List Value → Bool
  | [] => true
  | value :: rest => isDefinite value && areDefinite rest

def areDefiniteEntries : List (Scalar × Value) → Bool
  | [] => true
  | (key, value) :: rest =>
      key.isDefinite && isDefinite value && areDefiniteEntries rest

def areDefiniteFields : List (Label × Value) → Bool
  | [] => true
  | (_, value) :: rest => isDefinite value && areDefiniteFields rest

end

/-- Every entry is found again in a mapping that has each key once. -/
theorem sameEntries_of_mem {lefts entries : List (Scalar × Value)}
    (hkeys : entries.Pairwise fun left right =>
      Scalar.same left.1 right.1 = false)
    (hlefts : ∀ left ∈ lefts, left ∈ entries ∧
      Scalar.same left.1 left.1 = true ∧ left.2.same left.2 = true) :
    sameEntries lefts entries = true := by
  induction lefts with
  | nil => rw [sameEntries]
  | cons left rest hrest =>
      obtain ⟨key, value⟩ := left
      obtain ⟨⟨hmem, hkey, hvalue⟩, htail⟩ := List.forall_mem_cons.1 hlefts
      have hlookup := lookupEntry_of_pairwise hkey hkeys hmem
      simp [sameEntries, hlookup, hvalue, hrest htail]

mutual

theorem same_self : ∀ {value : Value}, value.isDefinite = true →
    value.same value = true
  | .scalar _, hdefinite => by
      rw [isDefinite] at hdefinite
      rw [same]
      exact Scalar.same_self hdefinite
  | .list items, hdefinite => by
      rw [isDefinite] at hdefinite
      rw [same]
      exact sameList_self hdefinite
  | .tuple items, hdefinite => by
      rw [isDefinite] at hdefinite
      rw [same]
      exact sameList_self hdefinite
  | .map entries, hdefinite => by
      rw [isDefinite, Bool.and_eq_true, decide_eq_true_eq] at hdefinite
      rw [same, beq_self_eq_true, Bool.true_and]
      apply sameEntries_of_mem hdefinite.2
      intro entry hentry
      exact ⟨hentry, sameEntries_self hdefinite.1 entry hentry⟩
  | .model name fields, hdefinite => by
      rw [isDefinite] at hdefinite
      rw [same, beq_self_eq_true, Bool.true_and]
      exact sameFields_self hdefinite
  | .foreign .., hdefinite => by
      rw [isDefinite] at hdefinite
      exact absurd hdefinite Bool.false_ne_true

theorem sameList_self : ∀ {items : List Value}, areDefinite items = true →
    sameList items items = true
  | [], _ => by rw [sameList]
  | item :: rest, hdefinite => by
      rw [areDefinite, Bool.and_eq_true] at hdefinite
      rw [sameList, same_self hdefinite.1, sameList_self hdefinite.2]
      rfl

theorem sameEntries_self : ∀ {entries : List (Scalar × Value)},
    areDefiniteEntries entries = true → ∀ entry ∈ entries,
      Scalar.same entry.1 entry.1 = true ∧ entry.2.same entry.2 = true
  | [], _ => List.forall_mem_nil _
  | (key, value) :: rest, hdefinite => by
      rw [areDefiniteEntries, Bool.and_eq_true, Bool.and_eq_true] at hdefinite
      exact List.forall_mem_cons.2
        ⟨⟨Scalar.same_self hdefinite.1.1, same_self hdefinite.1.2⟩,
          sameEntries_self hdefinite.2⟩

theorem sameFields_self : ∀ {fields : List (Label × Value)},
    areDefiniteFields fields = true → sameFields fields fields = true
  | [], _ => by rw [sameFields]
  | (label, value) :: rest, hdefinite => by
      rw [areDefiniteFields, Bool.and_eq_true] at hdefinite
      rw [sameFields, beq_self_eq_true, same_self hdefinite.1,
        sameFields_self hdefinite.2]
      rfl

end

end Value

/-- Putting a value where it is found changes nothing. -/
theorem putEntry_of_lookupEntry {κ α : Type} {same : κ → κ → Bool} {key : κ}
    {value : α} {entries : List (κ × α)}
    (hlookup : lookupEntry same key entries = some value) :
    putEntry same key value entries = entries := by
  induction entries with
  | nil => cases hlookup
  | cons entry rest hrest =>
      rw [lookupEntry] at hlookup
      rw [putEntry]
      split at hlookup
      · next hsame =>
          obtain rfl := Option.some.inj hlookup
          rw [if_pos hsame]
      · next hother => rw [if_neg hother, hrest hlookup]

namespace BindingStore

/-! ## What a store keeps -/

section Keeps

variable {ν : Type} {store next last : BindingStore ν} {name : ν}

/-- Equal values took each other's place one after the other. -/
def Replaced : Value → Value → Prop :=
  Relation.ReflTransGen fun old new => old.same new = true

/-- Every name of the first list stands at the same place of the second one, and
its value took the place of the earlier one. -/
inductive KeepsEntries : List (ν × Value) → List (ν × Value) → Prop
  | nil (added : List (ν × Value)) : KeepsEntries [] added
  | cons {name : ν} {old new : Value} {olds news : List (ν × Value)} :
      Replaced old new → KeepsEntries olds news →
        KeepsEntries ((name, old) :: olds) ((name, new) :: news)

theorem KeepsEntries.append (olds added : List (ν × Value)) :
    KeepsEntries olds (olds ++ added) := by
  induction olds with
  | nil => exact .nil added
  | cons old rest hrest => exact .cons .refl hrest

theorem KeepsEntries.trans {olds news lasts : List (ν × Value)}
    (hnews : KeepsEntries olds news) (hlasts : KeepsEntries news lasts) :
    KeepsEntries olds lasts := by
  induction hnews generalizing lasts with
  | nil added => exact .nil lasts
  | cons hvalue _ hrest =>
      cases hlasts with
      | cons hvalue' hlasts => exact .cons (hvalue.trans hvalue') (hrest hlasts)

/-- No name is removed or moved, and values are replaced by equal ones only. -/
def Keeps (store next : BindingStore ν) : Prop :=
  KeepsEntries store.values next.values

theorem Keeps.refl (store : BindingStore ν) : Keeps store store := by
  have hself := KeepsEntries.append store.values []
  rwa [List.append_nil] at hself

theorem Keeps.trans (hnext : Keeps store next) (hlast : Keeps next last) :
    Keeps store last :=
  KeepsEntries.trans hnext hlast

variable [BindingName ν]

/-- What is kept is found again, with a value that took the place of the earlier
one. -/
theorem KeepsEntries.lookupEntry {olds news : List (ν × Value)}
    (hkeeps : KeepsEntries olds news) {old : Value}
    (hlookup : lookupEntry BindingName.same name olds = some old) :
    ∃ new, lookupEntry BindingName.same name news = some new ∧
      Replaced old new := by
  induction hkeeps with
  | nil added => cases hlookup
  | cons hvalue _ hrest =>
      rw [ArangoQuery.lookupEntry] at hlookup ⊢
      split at hlookup
      · next hsame =>
          obtain rfl := Option.some.inj hlookup
          exact ⟨_, if_pos hsame, hvalue⟩
      · next hother =>
          rw [if_neg hother]
          exact hrest hlookup

theorem Keeps.get? (hkeeps : Keeps store next) {old : Value}
    (hget : store.get? name = some old) :
    ∃ new, next.get? name = some new ∧ Replaced old new :=
  KeepsEntries.lookupEntry hkeeps hget

theorem KeepsEntries.putEntry {entries : List (ν × Value)} {old new : Value}
    (hlookup : ArangoQuery.lookupEntry BindingName.same name entries = some old)
    (hsame : old.same new = true) :
    KeepsEntries entries
      (ArangoQuery.putEntry BindingName.same name new entries) := by
  induction entries with
  | nil => cases hlookup
  | cons entry rest hrest =>
      obtain ⟨other, value⟩ := entry
      rw [ArangoQuery.lookupEntry] at hlookup
      rw [ArangoQuery.putEntry]
      split at hlookup
      · next hfound =>
          obtain rfl := Option.some.inj hlookup
          have hrests := KeepsEntries.append rest []
          rw [List.append_nil] at hrests
          rw [if_pos hfound]
          exact .cons (.single hsame) hrests
      · next hother =>
          rw [if_neg hother]
          exact .cons .refl (hrest hlookup)

theorem keeps_bind (store : BindingStore ν) (stem : String) (value : Value) :
    Keeps store (store.bind stem value).2 :=
  KeepsEntries.append store.values _

theorem keeps_adopt {value : Value} (hadopt : store.adopt name value = .ok next) :
    Keeps store next := by
  rw [adopt] at hadopt
  split at hadopt
  · next old hget =>
      split at hadopt
      · next hsame =>
          obtain rfl := Except.ok.inj hadopt
          exact KeepsEntries.putEntry hget hsame
      · cases hadopt
  · obtain rfl := Except.ok.inj hadopt
    exact KeepsEntries.append store.values _

/-- A merge keeps what is bound, whether it fails or not. -/
theorem keeps_merge (store : BindingStore ν) (values : List (ν × Value)) :
    Keeps store (store.merge values).2 := by
  induction values generalizing store with
  | nil => exact .refl store
  | cons binding rest hrest =>
      rw [merge]
      cases hadopt : store.adopt binding.1 binding.2 with
      | ok next => exact (keeps_adopt hadopt).trans (hrest next)
      | error fault => exact .refl store

end Keeps

/-! ## What a merge does -/

section Merge

variable {store next : BindingStore String} {values : List (String × Value)}

/-- The name is bound to a value that is different from the one it comes with. -/
def Contradicts (store : BindingStore String) (binding : String × Value) : Prop :=
  ∃ bound, store.get? binding.1 = some bound ∧ bound.same binding.2 = false

theorem not_contradicts_of_adopt {binding : String × Value}
    (hadopt : store.adopt binding.1 binding.2 = .ok next) :
    ¬ store.Contradicts binding := by
  rintro ⟨bound, hget, hdifferent⟩
  have hsame := same_of_adopt hadopt hget
  rw [hdifferent] at hsame
  cases hsame

theorem contradicts_of_adopt_error {binding : String × Value}
    {fault : ConfigurationFault}
    (hadopt : store.adopt binding.1 binding.2 = .error fault) :
    fault = .boundTwice (.text binding.1) ∧ store.Contradicts binding := by
  rw [adopt] at hadopt
  split at hadopt
  · next bound hget =>
      split at hadopt
      · cases hadopt
      · next hdifferent =>
          obtain rfl := Except.error.inj hadopt
          exact ⟨rfl, bound, hget, Bool.eq_false_iff.2 hdifferent⟩
  · cases hadopt

/-- Values under different names do not get into each other's way. -/
theorem contradicts_adopt {first binding : String × Value}
    (hadopt : store.adopt first.1 first.2 = .ok next)
    (hname : first.1 ≠ binding.1) :
    next.Contradicts binding ↔ store.Contradicts binding := by
  rw [Contradicts, Contradicts, get?_adopt hadopt, if_neg hname]

variable (store) in
/-- A merge succeeds, or it fails on a name that is bound to a different
value. -/
theorem merge_cases (hdistinct : (values.map Prod.fst).Nodup) :
    ((store.merge values).1 = none ∧
      ∀ binding ∈ values, ¬ store.Contradicts binding) ∨
    ∃ binding ∈ values, store.Contradicts binding ∧
      (store.merge values).1 = some (.boundTwice (.text binding.1)) := by
  induction values generalizing store with
  | nil => exact .inl ⟨rfl, List.forall_mem_nil _⟩
  | cons first rest hrest =>
      obtain ⟨hfirst, hdistinct⟩ := List.nodup_cons.1 hdistinct
      have hname {binding : String × Value} (hbinding : binding ∈ rest) :
          first.1 ≠ binding.1 := by
        intro heq
        exact hfirst (heq ▸ List.mem_map_of_mem hbinding)
      rw [merge]
      cases hadopt : store.adopt first.1 first.2 with
      | error fault =>
          obtain ⟨rfl, hcontradicts⟩ := contradicts_of_adopt_error hadopt
          exact .inr ⟨first, List.mem_cons_self, hcontradicts, rfl⟩
      | ok next =>
          rcases @hrest next hdistinct with
            ⟨hnone, hagree⟩ | ⟨binding, hbinding, hcontradicts, hsome⟩
          · refine .inl ⟨hnone, List.forall_mem_cons.2 ⟨?_, ?_⟩⟩
            · exact not_contradicts_of_adopt hadopt
            · intro binding hbinding
              rw [← contradicts_adopt hadopt (hname hbinding)]
              exact hagree binding hbinding
          · rw [contradicts_adopt hadopt (hname hbinding)] at hcontradicts
            exact .inr ⟨binding, List.mem_cons_of_mem _ hbinding,
              hcontradicts, hsome⟩

/-- A merge that succeeds has bound every name to its value. -/
theorem get?_of_mem_merge (hdistinct : (values.map Prod.fst).Nodup)
    (hmerge : store.merge values = (none, next)) {binding : String × Value}
    (hbinding : binding ∈ values) :
    next.get? binding.1 = some binding.2 := by
  obtain ⟨value, hlast⟩ :=
    exists_lastValue (List.mem_map_of_mem (f := taken) hbinding)
  obtain ⟨request, hrequest, hname, hvalue⟩ := mem_of_lastValue hlast
  obtain ⟨other, hother, rfl⟩ := List.mem_map.1 hrequest
  obtain rfl : other = binding :=
    List.inj_on_of_nodup_map hdistinct hother hbinding hname
  have hget := get?_merge hmerge other.1
  rw [show lastValue (values.map taken) other.1 = some value from hlast]
    at hget
  exact hget.trans (congrArg some hvalue.symm)

/-- Merging what is bound already changes nothing. -/
theorem merge_of_bound
    (hbound : ∀ binding ∈ values, store.get? binding.1 = some binding.2 ∧
      binding.2.same binding.2 = true) :
    store.merge values = (none, store) := by
  induction values with
  | nil => rfl
  | cons first rest hrest =>
      obtain ⟨⟨hget, hsame⟩, hrests⟩ := List.forall_mem_cons.1 hbound
      have hadopt : store.adopt first.1 first.2 = .ok store := by
        rw [adopt, hget]
        simp only [hsame, if_true]
        rw [putEntry_of_lookupEntry hget]
      exact merge_cons.2 ⟨store, hadopt, hrest hrests⟩

end Merge

/-! ## Stores that are filled by hand -/

section ByHand

/-- Named values as a store that is filled by hand keeps them. -/
def textKeys {α : Type} (entries : List (String × α)) : List (Scalar × α) :=
  entries.map fun (name, value) => (.text name, value)

/-- The store that takes any scalar for a name, with texts for names. -/
def byHand (store : BindingStore String) : BindingStore Scalar where
  values := textKeys store.values
  counter := store.counter

theorem lookupEntry_textKeys (name : String) (entries : List (String × Value)) :
    lookupEntry BindingName.same (Scalar.text name) (textKeys entries) =
      lookupEntry BindingName.same name entries := by
  induction entries with
  | nil => rfl
  | cons entry rest hrest => exact if_congr Iff.rfl rfl hrest

theorem putEntry_textKeys (name : String) (value : Value)
    (entries : List (String × Value)) :
    putEntry BindingName.same (Scalar.text name) value (textKeys entries) =
      textKeys (putEntry BindingName.same name value entries) := by
  induction entries with
  | nil => rfl
  | cons entry rest hrest =>
      rw [putEntry, apply_ite textKeys]
      exact if_congr Iff.rfl rfl (congrArg _ hrest)

variable (store : BindingStore String)

theorem get?_byHand (name : String) :
    store.byHand.get? (.text name) = store.get? name :=
  lookupEntry_textKeys name store.values

theorem isBound_byHand (name : String) :
    store.byHand.isBound (.text name) = store.isBound name := by
  simp only [isBound, byHand, textKeys, List.any_map]
  rfl

theorem firstFree_byHand (stem : String) (fuel counter : Nat) :
    store.byHand.firstFree stem fuel counter =
      store.firstFree stem fuel counter := by
  induction fuel generalizing counter with
  | zero => rfl
  | succ fuel hfuel =>
      rw [firstFree, firstFree, hfuel]
      exact if_congr (iff_of_eq (congrArg (· = true)
        (store.isBound_byHand (numbered stem counter)))) rfl rfl

theorem bind_byHand (stem : String) (value : Value) :
    store.byHand.bind stem value =
      ((store.bind stem value).1, (store.bind stem value).2.byHand) := by
  have hnumber : store.byHand.firstFree stem
      (store.byHand.values.length + 1) store.byHand.counter =
        store.nextNumber stem := by
    rw [firstFree_byHand, nextNumber, byHand, textKeys, List.length_map]
  rw [bind_eq, bind, hnumber]
  simp [byHand, textKeys, BindingName.ofText]

theorem adopt_byHand (name : String) (value : Value) :
    store.byHand.adopt (.text name) value =
      (store.adopt name value).map byHand := by
  rw [adopt, adopt, get?_byHand]
  cases store.get? name with
  | none => simp [byHand, textKeys, Except.map]
  | some bound =>
      cases hsame : bound.same value with
      | false => simp [hsame, Except.map, BindingName.toScalar]
      | true => simp [hsame, Except.map, byHand, putEntry_textKeys]

theorem merge_byHand (values : List (String × Value)) :
    store.byHand.merge (textKeys values) =
      ((store.merge values).1, (store.merge values).2.byHand) := by
  induction values generalizing store with
  | nil => rfl
  | cons binding rest hrest =>
      rw [textKeys, List.map_cons, merge, merge, adopt_byHand]
      cases store.adopt binding.1 binding.2 with
      | ok next => exact hrest next
      | error fault => rfl

end ByHand

end BindingStore

namespace Script

open BindingStore (Keeps Replaced byHand textKeys)

/-! ## Calls in a row -/

/-- A call on a store: `bind` makes up a name from a stem, and `merge` takes over
values under different names. -/
inductive StoreCall where
  | bind (value : Operand Nat) (stem : String)
  | merge (values : List (String × Operand Nat))
      (distinct : (values.map Prod.fst).Nodup)

namespace StoreCall

/-- The values of a merge as they are stored. -/
def stored (values : List (String × Operand Nat)) : List (String × Value) :=
  values.map fun (name, operand) => (name, operand.raw)

/-- The answer to a call and the store that it leaves. -/
def perform (store : BindingStore Scalar) :
    StoreCall → Except Error Value × BindingStore Scalar
  | .bind value stem =>
      callStore store "bind" { positional := [value, .text stem] }
  | .merge values _ =>
      callStore store "merge" { positional := [.map (textKeys values)] }

/-- The store after some calls, whatever their answers. -/
def storeAfter (calls : List StoreCall) : BindingStore Scalar :=
  calls.foldl (fun store call => (call.perform store).2) {}

theorem perform_bind (store : BindingStore Scalar) (value : Operand Nat)
    (stem : String) :
    (StoreCall.bind value stem).perform store =
      (.ok (.text ("@" ++ (store.bind stem value.raw).1)),
        (store.bind stem value.raw).2) :=
  rfl

/-- The answer to a merge that ends in a fault or not. -/
def mergeAnswer (fault : Option ConfigurationFault) : Except Error Value :=
  fault.elim (.ok .null) fun fault => .error (.configuration fault)

theorem perform_merge (store : BindingStore Scalar)
    (values : List (String × Operand Nat))
    (distinct : (values.map Prod.fst).Nodup) :
    (StoreCall.merge values distinct).perform store =
      (mergeAnswer (store.merge (textKeys (stored values))).1,
        (store.merge (textKeys (stored values))).2) := by
  have hvalues : (textKeys values).map (fun entry => (entry.1, entry.2.raw)) =
      textKeys (stored values) := by
    simp [textKeys, stored]
  have hperform : (StoreCall.merge values distinct).perform store =
      mergeValues store (.map (textKeys values)) := rfl
  rw [hperform, mergeValues, ← hvalues]
  split
  · next merged hmerge =>
    have hmerged : store.merge ((textKeys values).map fun entry =>
        (entry.1, entry.2.raw)) = (none, merged) := hmerge
    rw [hmerged]
    rfl
  · next fault merged hmerge =>
    have hmerged : store.merge ((textKeys values).map fun entry =>
        (entry.1, entry.2.raw)) = (some fault, merged) := hmerge
    rw [hmerged]
    rfl

theorem keeps_perform (store : BindingStore Scalar) (call : StoreCall) :
    Keeps store (call.perform store).2 := by
  cases call with
  | bind value stem =>
      rw [perform_bind]
      exact BindingStore.keeps_bind store stem value.raw
  | merge values distinct =>
      have hkeeps := store.keeps_merge (textKeys (stored values))
      rw [perform_merge]
      exact hkeeps

/-- Calls with texts for names leave texts for names. -/
theorem exists_perform_byHand (store : BindingStore String) (call : StoreCall) :
    ∃ next : BindingStore String, (call.perform store.byHand).2 = next.byHand := by
  cases call with
  | bind value stem =>
      rw [perform_bind, BindingStore.bind_byHand]
      exact ⟨_, rfl⟩
  | merge values distinct =>
      rw [perform_merge, BindingStore.merge_byHand]
      exact ⟨_, rfl⟩

theorem storeAfter_append (before after : List StoreCall) :
    storeAfter (before ++ after) =
      after.foldl (fun store call => (call.perform store).2)
        (storeAfter before) :=
  List.foldl_append

theorem exists_byHand (calls : List StoreCall) :
    ∃ store : BindingStore String, storeAfter calls = store.byHand := by
  induction calls using List.reverseRecOn with
  | nil => exact ⟨{}, rfl⟩
  | append_singleton before call hbefore =>
      obtain ⟨store, hstore⟩ := hbefore
      rw [storeAfter_append, hstore]
      exact exists_perform_byHand store call

/-- Whatever is called later keeps what is bound. -/
theorem keeps_storeAfter (before after : List StoreCall) :
    Keeps (storeAfter before) (storeAfter (before ++ after)) := by
  rw [storeAfter_append]
  generalize storeAfter before = store
  induction after generalizing store with
  | nil => exact .refl store
  | cons call rest hrest => exact (keeps_perform store call).trans (hrest _)

/-! ## Names that are made up -/

/-- The least number from the counter on whose name is free. -/
def IsNextNumber (store : BindingStore Scalar) (stem : String) (number : Nat) :
    Prop :=
  IsLeast {number | store.counter ≤ number ∧
    store.get? (.text (numbered stem number)) = none} number

theorem isNextNumber_byHand (store : BindingStore String) (stem : String) :
    IsNextNumber store.byHand stem (store.nextNumber stem) := by
  simp only [IsNextNumber, BindingStore.get?_byHand,
    BindingStore.get?_eq_none_iff]
  exact store.nextNumber_isLeast stem

/-- A name that is in use is never made up. -/
theorem answer_ne_of_get? {calls : List StoreCall} {name : String} {bound : Value}
    (hget : (storeAfter calls).get? (.text name) = some bound)
    (value : Operand Nat) (stem : String) :
    ((StoreCall.bind value stem).perform (storeAfter calls)).1 ≠
      .ok (.text ("@" ++ name)) := by
  obtain ⟨store, hstore⟩ := exists_byHand calls
  rw [hstore, BindingStore.get?_byHand] at hget
  rw [hstore, perform_bind, BindingStore.bind_byHand]
  intro hanswer
  have hname : (store.bind stem value.raw).1 = name := by simpa using hanswer
  have hfresh := (BindingStore.get?_eq_none_iff _).2
    (store.bind_fresh stem value.raw)
  rw [hname, hget] at hfresh
  cases hfresh

/-- A value is found under the name made up for it. -/
theorem get?_bind_byHand (store : BindingStore String) (stem : String)
    (value : Value) :
    (store.byHand.bind stem value).2.get?
      (.text (numbered stem (store.nextNumber stem))) = some value := by
  rw [BindingStore.bind_byHand, BindingStore.get?_byHand,
    BindingStore.get?_bind]
  exact if_pos rfl

/-- A name made up at any time ends in the least number that makes a free name,
and finds its value ever after; no later call makes the same name up. -/
theorem name_made_up (before after : List StoreCall) (value : Operand Nat)
    (stem : String) :
    ∃ number, IsNextNumber (storeAfter before) stem number ∧
      number ≤ (storeAfter before).counter + (storeAfter before).values.length ∧
      ((StoreCall.bind value stem).perform (storeAfter before)).1 =
        .ok (.text ("@" ++ numbered stem number)) ∧
      (∃ now, Replaced value.raw now ∧
        (storeAfter (before ++ .bind value stem :: after)).get?
          (.text (numbered stem number)) = some now) ∧
      ∀ value' stem', ((StoreCall.bind value' stem').perform
        (storeAfter (before ++ .bind value stem :: after))).1 ≠
          .ok (.text ("@" ++ numbered stem number)) := by
  obtain ⟨store, hstore⟩ := exists_byHand before
  have hbound : (storeAfter (before ++ [.bind value stem])).get?
      (.text (numbered stem (store.nextNumber stem))) = some value.raw := by
    rw [storeAfter_append, hstore]
    exact get?_bind_byHand store stem value.raw
  have hkeeps := keeps_storeAfter (before ++ [.bind value stem]) after
  rw [List.append_assoc, List.singleton_append] at hkeeps
  obtain ⟨now, hnow, hreplaced⟩ := hkeeps.get? hbound
  refine ⟨store.nextNumber stem, ?_, ?_, ?_, ⟨now, hreplaced, hnow⟩, ?_⟩
  · rw [hstore]
    exact isNextNumber_byHand store stem
  · rw [hstore]
    simpa [byHand, textKeys] using store.nextNumber_le stem
  · rw [hstore, perform_bind, BindingStore.bind_byHand]
    rfl
  · exact answer_ne_of_get? hnow

/-! ## Merges -/

section Merges

variable (store : BindingStore String) {values : List (String × Operand Nat)}
variable (distinct : (values.map Prod.fst).Nodup)

include distinct in
theorem nodup_stored : ((stored values).map Prod.fst).Nodup := by
  simpa [stored, Function.comp_def] using distinct

theorem perform_merge_byHand :
    (StoreCall.merge values distinct).perform store.byHand =
      (mergeAnswer (store.merge (stored values)).1,
        (store.merge (stored values)).2.byHand) := by
  rw [perform_merge, BindingStore.merge_byHand]

/-- The name is bound to a value that is different from the one it comes with. -/
def Contradicts (store : BindingStore Scalar) (binding : String × Operand Nat) :
    Prop :=
  ∃ bound, store.get? (.text binding.1) = some bound ∧
    bound.same binding.2.raw = false

theorem contradicts_byHand {binding : String × Operand Nat} :
    Contradicts store.byHand binding ↔
      store.Contradicts (binding.1, binding.2.raw) := by
  rw [Contradicts, BindingStore.get?_byHand, BindingStore.Contradicts]

/-- A merge succeeds, or it fails on a name that is bound to a different
value. -/
theorem perform_merge_cases :
    (((StoreCall.merge values distinct).perform store.byHand).1 = .ok .null ∧
      ∀ binding ∈ values, ¬ Contradicts store.byHand binding) ∨
    ∃ binding ∈ values, Contradicts store.byHand binding ∧
      ((StoreCall.merge values distinct).perform store.byHand).1 =
        .error (.configuration (.boundTwice (.text binding.1))) := by
  simp only [contradicts_byHand]
  rw [perform_merge_byHand]
  rcases store.merge_cases (nodup_stored distinct) with
    ⟨hnone, hagree⟩ | ⟨binding, hbinding, hcontradicts, hsome⟩
  · refine .inl ⟨congrArg mergeAnswer hnone, fun binding hbinding => ?_⟩
    exact hagree _ (List.mem_map_of_mem hbinding)
  · obtain ⟨operand, hoperand, rfl⟩ := List.mem_map.1 hbinding
    exact .inr ⟨operand, hoperand, hcontradicts, congrArg mergeAnswer hsome⟩

/-- A merge that has succeeded succeeds again and changes nothing more. -/
theorem perform_merge_again
    (hdefinite : ∀ binding ∈ values, binding.2.raw.isDefinite = true)
    (hanswer : ((StoreCall.merge values distinct).perform store.byHand).1 =
      .ok .null) :
    (StoreCall.merge values distinct).perform
        ((StoreCall.merge values distinct).perform store.byHand).2 =
      (.ok .null, ((StoreCall.merge values distinct).perform store.byHand).2) := by
  rw [perform_merge_byHand] at hanswer ⊢
  rcases hmerge : store.merge (stored values) with ⟨_ | fault, next⟩
  · have hagain : next.merge (stored values) = (none, next) := by
      apply BindingStore.merge_of_bound
      intro binding hbinding
      obtain ⟨operand, hoperand, rfl⟩ := List.mem_map.1 hbinding
      exact ⟨BindingStore.get?_of_mem_merge (nodup_stored distinct) hmerge hbinding,
        Value.same_self (hdefinite operand hoperand)⟩
    rw [perform_merge_byHand, hagain]
    rfl
  · rw [hmerge] at hanswer
    cases hanswer

end Merges

/-- Calls on a store never remove or move a name and replace values by equal ones
only, merges that fail included.  A name that is made up ends in the least number
that makes a free name, and it is never made up again.  A merge fails on values
under a name that is bound to a different one, and on nothing else, and after a
success it can be repeated. -/
theorem names_stay_bound (before after : List StoreCall) :
    Keeps (storeAfter before) (storeAfter (before ++ after)) ∧
    (∀ (value : Operand Nat) (stem : String),
      ∃ number, IsNextNumber (storeAfter before) stem number ∧
        number ≤
          (storeAfter before).counter + (storeAfter before).values.length ∧
        ((StoreCall.bind value stem).perform (storeAfter before)).1 =
          .ok (.text ("@" ++ numbered stem number)) ∧
        (∃ now, Replaced value.raw now ∧
          (storeAfter (before ++ .bind value stem :: after)).get?
            (.text (numbered stem number)) = some now) ∧
        ∀ value' stem', ((StoreCall.bind value' stem').perform
          (storeAfter (before ++ .bind value stem :: after))).1 ≠
            .ok (.text ("@" ++ numbered stem number))) ∧
    ∀ (values : List (String × Operand Nat))
        (distinct : (values.map Prod.fst).Nodup),
      let merged :=
        (StoreCall.merge values distinct).perform (storeAfter before)
      (merged.1 = .ok .null ∧
          (∀ binding ∈ values, ¬ Contradicts (storeAfter before) binding) ∨
        ∃ binding ∈ values, Contradicts (storeAfter before) binding ∧
          merged.1 = .error (.configuration (.boundTwice (.text binding.1)))) ∧
      ((∀ binding ∈ values, binding.2.raw.isDefinite = true) →
        merged.1 = .ok .null →
          (StoreCall.merge values distinct).perform merged.2 =
            (.ok .null, merged.2)) := by
  refine ⟨keeps_storeAfter before after, name_made_up before after, ?_⟩
  intro values distinct
  obtain ⟨store, hstore⟩ := exists_byHand before
  rw [hstore]
  exact ⟨perform_merge_cases store distinct,
    perform_merge_again store distinct⟩

/-- Names that end in digits stand in the way of made-up ones, and a merge has
failed after taking over `true` for an equal number. -/
theorem names_stay_bound_after_failure :
    let before : List StoreCall :=
      [.merge [("v10", .list [.scalar (.int 1)]), ("v11", .scalar (.int 1))]
          (by decide),
        .bind (.text "first") "v1",
        .merge [("v11", .scalar (.bool true)),
            ("v10", .list [.scalar (.int 2)]), ("late", .text "lost")]
          (by decide)]
    let values : List (String × Operand Nat) :=
      [("v12", .text "first"), ("v11", .scalar (.float .one)),
        ("late", .map [(.text "v12", .null)])]
    (storeAfter before).values =
        [(.text "v10", .list [.int 1]), (.text "v11", .bool true),
          (.text "v12", .text "first")] ∧
      ∃ distinct : (values.map Prod.fst).Nodup,
        let merged :=
          (StoreCall.merge values distinct).perform (storeAfter before)
        merged.2.values =
            [(.text "v10", .list [.int 1]), (.text "v11", .float .one),
              (.text "v12", .text "first"),
              (.text "late", .map [(.text "v12", .null)])] ∧
          (StoreCall.merge values distinct).perform merged.2 =
            (.ok .null, merged.2) := by
  intro before values
  refine ⟨by with_unfolding_all rfl, by decide, by with_unfolding_all rfl, ?_⟩
  apply ((names_stay_bound before []).2.2 values (by decide)).2
  · decide
  · with_unfolding_all rfl

end StoreCall

end Script

end ArangoQuery
