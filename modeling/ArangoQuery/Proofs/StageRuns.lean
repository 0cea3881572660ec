import ArangoQuery.Proofs.OperandData
import ArangoQuery.Proofs.TypedCalls

/-!
# What stages gather

A stage is begun with some of its parts, and calls on it add the others.  Between
two calls anything may happen to the builder, so a call is given with the builder
as it is when the call is made.  `Stage.run?` makes calls that all succeed without
finishing the stage; what they add to a grouping is one entry each, of which the
last with a name counts (`Stage.run?_collect_iff`).  The parts of the finished clause
are exactly those that have been gathered (`Stage.collectClause_eq_ok_iff`).
-/

namespace ArangoQuery

/-! ## Entries, one for each name -/

section Entries

variable {α : Type}

/-- A key is new unless one of the entries has the same. -/
theorem map_fst_putEntry {κ : Type} (same : κ → κ → Bool) (key : κ) (value : α)
    (entries : List (κ × α)) :
    (putEntry same key value entries).map Prod.fst =
      if entries.any (same ·.1 key) then entries.map Prod.fst
      else entries.map Prod.fst ++ [key] := by
  induction entries with
  | nil => rfl
  | cons entry rest hrest =>
      obtain ⟨other, old⟩ := entry
      cases hother : same other key with
      | true => simp [putEntry, hother]
      | false =>
          simp only [putEntry, hother, List.map_cons, hrest, List.any_cons,
            Bool.false_or, Bool.false_eq_true, if_false]
          split <;> rfl

theorem Value.same_text (left right : String) :
    Value.same (.text left) (.text right) = (left == right) := by
  rw [Value.same, Scalar.same]

theorem Value.eq_text_of_same {content : String} {value : Value}
    (hsame : Value.same (.text content) value = true) :
    value = .text content := by
  rcases value with scalar | _ | _ | _ | _ | _
  · cases scalar with
    | text other =>
        rw [same_text, beq_iff_eq] at hsame
        rw [hsame]
    | _ => simp [Value.same, Scalar.same, Scalar.toInt?] at hsame
  all_goals simp [Value.same] at hsame

/-- Entries under texts, as they are entered under values of any kind. -/
theorem entriesOf_text (pairs : List (String × α)) :
    entriesOf Value.same (pairs.map (Prod.map .text id)) =
      (lastWins pairs).map (Prod.map .text id) := by
  rw [← entriesOf_eq_lastWins]
  exact entriesOf_map Value.text id Value.same_text pairs

/-- A key that is no text stays among the entries. -/
theorem exists_text_of_entriesOf {pairs : List (Value × α)}
    (htexts : ∀ key ∈ (entriesOf Value.same pairs).map Prod.fst,
      ∃ name, key = .text name) :
    ∃ named : List (String × α), pairs = named.map (Prod.map .text id) := by
  induction pairs using List.reverseRecOn with
  | nil => exact ⟨[], rfl⟩
  | append_singleton pairs pair hpairs =>
      obtain ⟨key, value⟩ := pair
      have hkeys : (entriesOf Value.same (pairs ++ [(key, value)])).map
          Prod.fst = if (entriesOf Value.same pairs).any (Value.same ·.1 key)
            then (entriesOf Value.same pairs).map Prod.fst
            else (entriesOf Value.same pairs).map Prod.fst ++ [key] := by
        rw [← map_fst_putEntry, entriesOf, List.foldl_concat]
        rfl
      rw [hkeys] at htexts
      have hkey : ∃ name, key = .text name := by
        split at htexts
        · rename_i hany
          obtain ⟨entry, hentry, hsame⟩ := List.any_eq_true.1 hany
          obtain ⟨name, hname⟩ := htexts _ (List.mem_map_of_mem hentry)
          rw [hname] at hsame
          exact ⟨name, Value.eq_text_of_same hsame⟩
        · exact htexts key (by simp)
      obtain ⟨name, rfl⟩ := hkey
      obtain ⟨named, rfl⟩ := hpairs fun other hother => htexts other (by
        split
        · exact hother
        · exact List.mem_append_left _ hother)
      exact ⟨named ++ [(name, value)], by simp⟩

end Entries

theorem forall_text_of_namedAs {α : Type} {becomes : α → Expr → Prop}
    {given : List (Value × α)} {parts : Document Expr}
    (hnamed : List.Forall₂ (NamedAs becomes) given parts) :
    ∀ key ∈ given.map Prod.fst, ∃ name, key = .text name := by
  induction hnamed with
  | nil => exact List.forall_mem_nil _
  | cons hpart hrest hkeys =>
      exact List.forall_mem_cons.2 ⟨⟨_, hpart.1⟩, hkeys⟩

theorem forall₂_namedAs_text_iff {entries parts : Document Expr}
    (haccept : ∀ entry ∈ entries, entry.2.accept = .ok entry.2) :
    List.Forall₂ (NamedAs Expr.Becomes) (List.map (Prod.map .text id) entries)
        parts ↔ parts = entries := by
  induction entries generalizing parts with
  | nil => simp
  | cons entry rest hrest =>
      obtain ⟨hentry, haccept⟩ := List.forall_mem_cons.1 haccept
      rw [List.map_cons, List.forall₂_cons_left_iff]
      constructor
      · rintro ⟨part, others, ⟨hname, hpart⟩, hothers, rfl⟩
        have hvalue : entry.2 = part.2 := Checked.ok.inj (hentry.symm.trans hpart)
        have hkey : entry.1 = part.1 := Scalar.text.inj (Value.scalar.inj hname)
        rw [(hrest haccept).1 hothers, ← Prod.ext hkey hvalue]
      · rintro rfl
        exact ⟨entry, rest, ⟨rfl, hentry⟩, (hrest haccept).2 rfl, rfl⟩

namespace Stage

variable {ρ : Type}

/-! ## Calls in a row -/

/-- The stage after calls that all succeed without finishing it, each with the
builder at its moment. -/
def run? (look : Query → ρ → Query) (stage : Stage ρ) :
    List (Builder × StageCall ρ) → Option (Stage ρ)
  | [] => some stage
  | (builder, call) :: rest =>
      (stage.perform look builder call).stage?.bind (run? look · rest)

/-- A call enters an aggregation under a name. -/
def Enters (look : Query → ρ → Query) (moment : Builder × StageCall ρ)
    (entry : Value × Expr) : Prop :=
  ∃ function name expression, moment.2 = .aggregate function name expression ∧
    name.raw = entry.1 ∧ entry.1.isHashable = true ∧
    ∃ expr, expression.Becomes (look moment.1.record) expr ∧
      entry.2 = .of (.call function [expr])

theorem stage?_perform_collect_iff {look : Query → ρ → Query}
    {moment : Builder × StageCall ρ} {keys : List (Value × Operand ρ)}
    {aggregates : List (Value × Expr)} {next : Stage ρ} :
    ((Stage.collect keys aggregates).perform look moment.1 moment.2).stage? =
        some next ↔
      ∃ entry, Enters look moment entry ∧
        next =
          .collect keys (putEntry Value.same entry.1 entry.2 aggregates) := by
  obtain ⟨builder, call⟩ := moment
  constructor
  · intro hnext
    cases call with
    | aggregate function name expression =>
        obtain ⟨entered, hentered, hnext⟩ :=
          exists_of_orFail hnext fun _ => rfl
        obtain rfl := Option.some.inj hnext
        obtain ⟨part, hpart, hentered⟩ := exists_of_bind_eq_ok hentered
        rw [addAggregate] at hentered
        split at hentered
        · rename_i hhashable
          obtain rfl := Except.ok.inj hentered
          exact ⟨(name.raw, part), ⟨function, name, expression, rfl, rfl,
            hhashable, aggregation_eq_ok_iff.1 hpart⟩, rfl⟩
        · cases hentered
    | finish | into | sort => cases (stage?_ofOutcome _).symm.trans hnext
    | aggregateAll | insert | update => cases hnext
  · rintro ⟨⟨key, part⟩, ⟨function, name, expression, hcall, rfl, hhashable,
      hpart⟩, rfl⟩
    obtain rfl : call = _ := hcall
    rw [perform, aggregation_eq_ok_iff.2 hpart]
    simp only [addAggregate, hhashable]
    rfl

/-- Calls on a grouping enter one entry each. -/
theorem run?_collect_iff {look : Query → ρ → Query}
    {calls : List (Builder × StageCall ρ)} {keys : List (Value × Operand ρ)}
    {aggregates : List (Value × Expr)} {stage : Stage ρ} :
    (Stage.collect keys aggregates).run? look calls = some stage ↔
      ∃ entries, List.Forall₂ (Enters look) calls entries ∧
        stage = .collect keys (entries.foldl
          (fun entered (name, part) => putEntry Value.same name part entered)
          aggregates) := by
  induction calls generalizing aggregates with
  | nil => simp [run?, eq_comm]
  | cons moment rest hrest =>
      rw [run?, Option.bind_eq_some_iff]
      constructor
      · rintro ⟨next, hnext, hrun⟩
        obtain ⟨entry, hentry, rfl⟩ := stage?_perform_collect_iff.1 hnext
        obtain ⟨entries, hentries, rfl⟩ := hrest.1 hrun
        exact ⟨entry :: entries, .cons hentry hentries, rfl⟩
      · rintro ⟨_, _ | ⟨hentry, hentries⟩, rfl⟩
        exact ⟨_, stage?_perform_collect_iff.2 ⟨_, hentry, rfl⟩,
          hrest.2 ⟨_, hentries, rfl⟩⟩

theorem run?_begun_iff {look : Query → ρ → Query}
    {calls : List (Builder × StageCall ρ)} {keys : List (Value × Operand ρ)}
    {stage : Stage ρ} :
    (Stage.collect keys []).run? look calls = some stage ↔
      ∃ pairs, List.Forall₂ (Enters look) calls pairs ∧
        stage = .collect keys (entriesOf Value.same pairs) :=
  run?_collect_iff

/-- What has been entered becomes aggregations if all names are texts, and the last
entry with a name counts. -/
theorem namedAs_entered_iff {look : Query → ρ → Query}
    {calls : List (Builder × StageCall ρ)} {pairs : List (Value × Expr)}
    (hpairs : List.Forall₂ (Enters look) calls pairs) {parts : Document Expr} :
    List.Forall₂ (NamedAs Expr.Becomes) (entriesOf Value.same pairs) parts ↔
      ∃ entries : Document Expr, pairs = List.map (Prod.map .text id) entries ∧
        parts = lastWins entries := by
  have haccept : ∀ pair ∈ pairs, True ∧ pair.2.accept = .ok pair.2 := by
    induction hpairs with
    | nil => exact List.forall_mem_nil _
    | cons hpair hrest haccept =>
        obtain ⟨_, _, _, -, -, -, expr, -, hpart⟩ := hpair
        exact List.forall_mem_cons.2 ⟨⟨trivial, by rw [hpart]; rfl⟩, haccept⟩
  have hentered {entries : Document Expr}
      (hentries : pairs = List.map (Prod.map .text id) entries) :
      ∀ entry ∈ lastWins entries, entry.2.accept = .ok entry.2 := by
    rw [← entriesOf_eq_lastWins]
    intro entry hentry
    refine (forall_entriesOf (fun _ => True)
      (fun part : Expr => part.accept = .ok part) ?_ entry hentry).2
    intro pair hpair
    exact haccept _ (hentries ▸ List.mem_map_of_mem hpair)
  constructor
  · intro hparts
    obtain ⟨entries, hentries⟩ : ∃ named : Document Expr,
        pairs = List.map (Prod.map .text id) named :=
      exists_text_of_entriesOf (forall_text_of_namedAs hparts)
    refine ⟨entries, hentries, ?_⟩
    rw [hentries, entriesOf_text] at hparts
    exact (forall₂_namedAs_text_iff (hentered hentries)).1 hparts
  · rintro ⟨entries, hentries, rfl⟩
    rw [hentries, entriesOf_text]
    exact (forall₂_namedAs_text_iff (hentered hentries)).2 rfl

end Stage

end ArangoQuery
