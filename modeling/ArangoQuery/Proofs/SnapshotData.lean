import ArangoQuery.Check.Field
import ArangoQuery.Proofs.Lookup
import ArangoQuery.Snapshot.Dump

/-!
# Data in snapshots

Entries that are made under different keys stay as they are, and each is found
under its own key.  JSON data is one such: it is dumped as it is
(`dump?_of_isJsonData`) and read as it is (`withoutRepeats_of_isJsonData`).
-/

namespace ArangoQuery

/-! ## Entries with different keys -/

section Entries

variable {κ α : Type} {same : κ → κ → Bool}

theorem putEntry_fresh {key : κ} {value : α} {entries : List (κ × α)}
    (hfresh : ∀ entry ∈ entries, same entry.1 key = false) :
    putEntry same key value entries = entries ++ [(key, value)] := by
  induction entries with
  | nil => rfl
  | cons entry rest hrest =>
      obtain ⟨hentry, htail⟩ := List.forall_mem_cons.1 hfresh
      simp [putEntry, hentry, hrest htail]

/-- Entering pairs with different keys keeps them as they are. -/
theorem entriesOf_eq_self {pairs : List (κ × α)}
    (hkeys : pairs.Pairwise fun left right => same left.1 right.1 = false) :
    entriesOf same pairs = pairs := by
  have happend (entries : List (κ × α))
      (hentries : (entries ++ pairs).Pairwise fun left right =>
        same left.1 right.1 = false) :
      pairs.foldl (fun entries pair =>
        putEntry same pair.1 pair.2 entries) entries = entries ++ pairs := by
    clear hkeys
    induction pairs generalizing entries with
    | nil => exact (List.append_nil entries).symm
    | cons pair rest hrest =>
        have hfresh : ∀ entry ∈ entries, same entry.1 pair.1 = false := by
          intro entry hentry
          exact (List.pairwise_append.1 hentries).2.2 entry hentry pair
            List.mem_cons_self
        have happended : entries ++ pair :: rest =
            (entries ++ [pair]) ++ rest := by simp
        rw [List.foldl_cons, putEntry_fresh hfresh, happended]
        exact hrest _ (happended ▸ hentries)
  exact happend [] hkeys

theorem lookupEntry_eq_none {key : κ} {entries : List (κ × α)}
    (hkeys : ∀ entry ∈ entries, same entry.1 key = false) :
    lookupEntry same key entries = none := by
  induction entries with
  | nil => rfl
  | cons entry rest hrest =>
      obtain ⟨hentry, htail⟩ := List.forall_mem_cons.1 hkeys
      simp [lookupEntry, hentry, hrest htail]

/-- Text keys are different if the texts are. -/
theorem pairwise_textKeys {entries : List (String × α)}
    (hnodup : (entries.map Prod.fst).Nodup) :
    (entries.map fun entry => (Scalar.text entry.1, entry.2)).Pairwise
      fun left right => Scalar.same left.1 right.1 = false := by
  rw [List.pairwise_map]
  refine (List.pairwise_map.1 hnodup).imp ?_
  intro left right hne
  exact beq_false_of_ne hne

end Entries

/-! ## Data -/

namespace Value

mutual

/-- Is this JSON data: finite numbers, lists, and mappings from different texts,
at any depth? -/
def isJsonData : Value → Bool
  | .scalar (.float value) => value.isFinite
  | .scalar _ => true
  | .list items => areJsonData items
  | .map entries =>
      areJsonEntries entries && decide (entries.map Prod.fst).Nodup
  | _ => false

def areJsonData : List Value → Bool
  | [] => true
  | value :: rest => isJsonData value && areJsonData rest

def areJsonEntries : List (Scalar × Value) → Bool
  | [] => true
  | (.text _, value) :: rest => isJsonData value && areJsonEntries rest
  | _ :: _ => false

end

/-- The keys of JSON data are texts, and no two of them are the same. -/
theorem pairwise_of_isJsonData {entries : List (Scalar × Value)}
    (hdata : areJsonEntries entries = true)
    (hnodup : (entries.map Prod.fst).Nodup) :
    entries.Pairwise fun left right => Scalar.same left.1 right.1 = false := by
  induction entries with
  | nil => exact .nil
  | cons entry rest hrest =>
      obtain ⟨key, value⟩ := entry
      cases key with
      | text name =>
          rw [areJsonEntries, Bool.and_eq_true] at hdata
          rw [List.map_cons, List.nodup_cons] at hnodup
          apply List.Pairwise.cons
          · rintro ⟨other, value'⟩ hother
            have hne : other ≠ .text name := by
              rintro rfl
              exact hnodup.1 (List.mem_map.2 ⟨_, hother, rfl⟩)
            cases other with
            | text other =>
                apply beq_false_of_ne
                intro heq
                exact hne (congrArg Scalar.text heq).symm
            | _ => rfl
          · exact hrest hdata.2 hnodup.2
      | _ => exact absurd hdata Bool.false_ne_true

mutual

/-- JSON data is dumped as it is. -/
theorem dump?_of_isJsonData (coverage : Coverage) :
    ∀ {value : Value}, value.isJsonData = true →
      value.dump? coverage = some value
  | .scalar (.float value), hdata => by
      have hfinite : value.isFinite = true := hdata
      simp [dump?, Scalar.dump, hfinite]
  | .scalar .null, _ => rfl
  | .scalar (.bool _), _ => rfl
  | .scalar (.int _), _ => rfl
  | .scalar (.text _), _ => rfl
  | .list items, hdata => by
      rw [dump?, dumpList?_of_areJsonData coverage hdata]
      rfl
  | .map entries, hdata => by
      rw [isJsonData, Bool.and_eq_true, decide_eq_true_eq] at hdata
      rw [dump?, dumpEntries?_of_areJsonData coverage hdata.1]
      exact congrArg (some ∘ Value.map)
        (entriesOf_eq_self (pairwise_of_isJsonData hdata.1 hdata.2))

theorem dumpList?_of_areJsonData (coverage : Coverage) :
    ∀ {items : List Value}, areJsonData items = true →
      dumpList? coverage items = some items
  | [], _ => rfl
  | item :: rest, hdata => by
      rw [areJsonData, Bool.and_eq_true] at hdata
      rw [dumpList?, dump?_of_isJsonData coverage hdata.1,
        dumpList?_of_areJsonData coverage hdata.2]
      rfl

theorem dumpEntries?_of_areJsonData (coverage : Coverage) :
    ∀ {entries : List (Scalar × Value)}, areJsonEntries entries = true →
      dumpEntries? coverage entries = some entries
  | [], _ => rfl
  | (.text name, value) :: rest, hdata => by
      rw [areJsonEntries, Bool.and_eq_true] at hdata
      rw [dumpEntries?, dump?_of_isJsonData coverage hdata.1,
        dumpEntries?_of_areJsonData coverage hdata.2]
      rfl

end

mutual

/-- JSON data gives no key more than once. -/
theorem withoutRepeats_of_isJsonData :
    ∀ {value : Value}, value.isJsonData = true → value.withoutRepeats = value
  | .scalar _, _ => rfl
  | .list items, hdata =>
      congrArg Value.list (withoutRepeatsList_of_areJsonData hdata)
  | .map entries, hdata => by
      rw [isJsonData, Bool.and_eq_true, decide_eq_true_eq] at hdata
      rw [withoutRepeats, withoutRepeatsEntries_of_areJsonData hdata.1,
        entriesOf_eq_self (pairwise_of_isJsonData hdata.1 hdata.2)]

theorem withoutRepeatsList_of_areJsonData :
    ∀ {items : List Value}, areJsonData items = true →
      withoutRepeatsList items = items
  | [], _ => rfl
  | item :: rest, hdata => by
      rw [areJsonData, Bool.and_eq_true] at hdata
      rw [withoutRepeatsList, withoutRepeats_of_isJsonData hdata.1,
        withoutRepeatsList_of_areJsonData hdata.2]

theorem withoutRepeatsEntries_of_areJsonData :
    ∀ {entries : List (Scalar × Value)}, areJsonEntries entries = true →
      withoutRepeatsEntries entries = entries
  | [], _ => rfl
  | (.text name, value) :: rest, hdata => by
      rw [areJsonEntries, Bool.and_eq_true] at hdata
      rw [withoutRepeatsEntries, withoutRepeats_of_isJsonData hdata.1,
        withoutRepeatsEntries_of_areJsonData hdata.2]

end

end Value

end ArangoQuery
