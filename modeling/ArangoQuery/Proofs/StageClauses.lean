import ArangoQuery.Proofs.StageRuns

/-!
# Clauses that stages hand over

A stage ends when a call on it returns to the builder.  By then it has gathered
all parts of one clause (`Stage.Carries`), and every call that returns hands this
clause over, with one exception: a grouping that keeps variables can be left by
sorting, and then its clause is lost (`Stage.hands_over_iff`).
-/

namespace ArangoQuery

namespace Stage

variable {ρ : Type} {look : Query → ρ → Query} {builder after : Builder}

/-- A stage on which no call has been made. -/
def IsBegun : Stage ρ → Prop
  | .collect _ aggregates => aggregates = []
  | .collectKeep .. | .upsertInsert _ => True
  | .upsertUpdate .. | .upsertInto .. => False

/-- A clause that carries all that a stage has been begun with, all that calls have
added to it, and what the last call says.  The keys of a grouping become expressions
only at the end. -/
inductive Carries (look : Query → ρ → Query) (last : Builder)
    (call : StageCall ρ) :
    Stage ρ → List (Builder × StageCall ρ) → StagedClause → Prop
  | collect {keys : List (Value × Operand ρ)}
      {calls : List (Builder × StageCall ρ)} {entries : Document Expr}
      {clause : Collect Expr}
      (hentries : List.Forall₂ (Enters look) calls
        (List.map (Prod.map .text id) entries))
      (hkeys : List.Forall₂ (NamedAs (Operand.Becomes (look last.record))) keys
        clause.keys)
      (haggregates : clause.aggregates = lastWins entries)
      (hinto : Check.nullable Check.text call.target = .ok clause.into)
      (hkeep : clause.keep = none) :
      Carries look last call (.collect keys []) calls (.grouping clause)
  | collectKeep {keys : List (Value × Operand ρ)} {names : List String}
      {clause : Collect Expr}
      (hkeys : List.Forall₂ (NamedAs (Operand.Becomes (look last.record))) keys
        clause.keys)
      (haggregates : List.Forall₂ (NamedAs (Operand.Becomes (look last.record)))
        (call.given.map (Prod.map .text id)) clause.aggregates)
      (hinto : Check.nullable Check.text call.target = .ok clause.into)
      (hkeep : clause.keep = some names) :
      Carries look last call (.collectKeep keys (names.map .text)) []
        (.grouping clause)
  | upsert {search : Expr} {inserting updating : Builder}
      {inserted updated : Operand ρ} {insert update : Expr}
      {clause : Upsert Expr}
      (hinserted : inserted.toDocument (look inserting.record) = .ok insert)
      (hupdated : updated.toDocument (look updating.record) = .ok update)
      (hsearch : search.Becomes clause.search)
      (hinsert : insert.Becomes clause.insert)
      (hupdate : update.Becomes clause.update)
      (hcollection : call.target = .text clause.collection) :
      Carries look last call (.upsertInsert search)
        [(inserting, .insert inserted), (updating, .update updated)]
        (.upsert clause)

/-- Does a call leave a stage begun like this without handing its clause over? -/
def Drops : Stage ρ → StageCall ρ → Prop
  | .collectKeep .., .sort .. => True
  | _, _ => False

/-! ## Calls that add to a stage -/

/-- The stage after some calls.  A call that fails, and one that returns to the
builder, leaves it as it is. -/
def reach (look : Query → ρ → Query) (stage : Stage ρ) :
    List (Builder × StageCall ρ) → Stage ρ
  | [] => stage
  | (builder, call) :: rest =>
      (((stage.perform look builder call).stage?).getD stage).reach look rest

/-- The calls that have added something to the stage. -/
def heard (look : Query → ρ → Query) (stage : Stage ρ) :
    List (Builder × StageCall ρ) → List (Builder × StageCall ρ)
  | [] => []
  | (builder, call) :: rest =>
      match (stage.perform look builder call).stage? with
      | some next => (builder, call) :: next.heard look rest
      | none => stage.heard look rest

/-- Only the calls that have added something count. -/
theorem run?_heard (stage : Stage ρ) (calls : List (Builder × StageCall ρ)) :
    stage.run? look (stage.heard look calls) = some (stage.reach look calls) := by
  induction calls generalizing stage with
  | nil => rfl
  | cons moment rest hrest =>
      obtain ⟨builder, call⟩ := moment
      rw [heard, reach]
      cases hnext : (stage.perform look builder call).stage? with
      | none => exact hrest stage
      | some next =>
          rw [run?, hnext]
          exact hrest next

theorem run?_collectKeep {keys : List (Value × Operand ρ)} {keep : List Value}
    {calls : List (Builder × StageCall ρ)} {stage : Stage ρ}
    (hrun : (Stage.collectKeep keys keep).run? look calls = some stage) :
    calls = [] ∧ stage = .collectKeep keys keep := by
  cases calls with
  | nil => exact ⟨rfl, (Option.some.inj hrun).symm⟩
  | cons moment rest =>
      obtain ⟨builder, call⟩ := moment
      obtain ⟨next, hnext, -⟩ := Option.bind_eq_some_iff.1 hrun
      cases call with
      | into | aggregateAll | sort => cases (stage?_ofOutcome _).symm.trans hnext
      | _ => cases hnext

theorem run?_upsertInto {search insert update : Expr}
    {calls : List (Builder × StageCall ρ)} {stage : Stage ρ}
    (hrun : (Stage.upsertInto search insert update).run? look calls =
      some stage) :
    calls = [] ∧ stage = .upsertInto search insert update := by
  cases calls with
  | nil => exact ⟨rfl, (Option.some.inj hrun).symm⟩
  | cons moment rest =>
      obtain ⟨builder, call⟩ := moment
      obtain ⟨next, hnext, -⟩ := Option.bind_eq_some_iff.1 hrun
      cases call with
      | into collection =>
          obtain ⟨upsert, -, hnext⟩ := exists_of_orFail hnext fun _ => rfl
          cases (stage?_ofOutcome _).symm.trans hnext
      | _ => cases hnext

/-- A stage that waits for a document leaves it to the next stage. -/
theorem run?_upsertUpdate {search insert : Expr}
    {calls : List (Builder × StageCall ρ)} {stage : Stage ρ}
    (hrun : (Stage.upsertUpdate search insert).run? look calls = some stage) :
    stage = .upsertUpdate search insert ∨
      ∃ updating updated update, calls = [(updating, .update updated)] ∧
        updated.toDocument (look updating.record) = .ok update ∧
        stage = .upsertInto search insert update := by
  cases calls with
  | nil => exact .inl (Option.some.inj hrun).symm
  | cons moment rest =>
      obtain ⟨builder, call⟩ := moment
      obtain ⟨next, hnext, hrun⟩ := Option.bind_eq_some_iff.1 hrun
      cases call with
      | update document =>
          obtain ⟨update, hupdate, hnext⟩ := exists_of_orFail hnext fun _ => rfl
          obtain rfl := Option.some.inj hnext
          obtain ⟨rfl, rfl⟩ := run?_upsertInto hrun
          exact .inr ⟨builder, document, update, rfl, hupdate, rfl⟩
      | _ => cases hnext

theorem run?_upsertInsert {search : Expr}
    {calls : List (Builder × StageCall ρ)} {stage : Stage ρ}
    (hrun : (Stage.upsertInsert search).run? look calls = some stage) :
    stage = .upsertInsert search ∨
      ∃ inserting inserted rest insert,
        calls = (inserting, .insert inserted) :: rest ∧
        inserted.toDocument (look inserting.record) = .ok insert ∧
        (Stage.upsertUpdate search insert).run? look rest = some stage := by
  cases calls with
  | nil => exact .inl (Option.some.inj hrun).symm
  | cons moment rest =>
      obtain ⟨builder, call⟩ := moment
      obtain ⟨next, hnext, hrun⟩ := Option.bind_eq_some_iff.1 hrun
      cases call with
      | insert document =>
          obtain ⟨insert, hinsert, hnext⟩ := exists_of_orFail hnext fun _ => rfl
          obtain rfl := Option.some.inj hnext
          exact .inr ⟨builder, document, rest, insert, rfl, hinsert, hrun⟩
      | _ => cases hnext

/-! ## Whole clauses -/

section Whole

variable {calls : List (Builder × StageCall ρ)} {call : StageCall ρ}
  {stage : Stage ρ}

theorem exists_carries_of_collect {keys : List (Value × Operand ρ)}
    (hrun : (Stage.collect keys []).run? look calls = some stage)
    (hparent : (stage.perform look builder call).parent? = some after) :
    ∃ clause, Carries look builder call (.collect keys []) calls clause ∧
      Gains builder after call clause := by
  obtain ⟨pairs, hpairs, rfl⟩ := run?_begun_iff.1 hrun
  obtain ⟨clause, hclause, hgains⟩ := exists_of_parent_collect hparent
  obtain ⟨hkeys, haggregates, hinto, hkeep⟩ :=
    collectClause_eq_ok_iff.1 hclause
  obtain ⟨entries, rfl, hlast⟩ := (namedAs_entered_iff hpairs).1 haggregates
  exact ⟨.grouping clause, .collect hpairs hkeys hlast hinto hkeep, hgains⟩

theorem exists_carries_of_collectKeep {keys : List (Value × Operand ρ)}
    {keep : List Value}
    (hcall : ∀ field direction, call ≠ .sort field direction)
    (hparent : ((Stage.collectKeep keys keep).perform look builder
      call).parent? = some after) :
    ∃ clause, Carries look builder call (.collectKeep keys keep) [] clause ∧
      Gains builder after call clause := by
  obtain ⟨parts, aggregates, clause, hparts, hgiven, hclause, hgains⟩ :=
    exists_of_parent_collectKeep hcall hparent
  obtain ⟨rfl, rfl, hinto, hkeep⟩ := clause_eq_ok_iff.1 hclause
  obtain ⟨names, hnames, rfl⟩ := Option.map_eq_some_iff.1 hkeep.symm
  exact ⟨.grouping clause,
    .collectKeep (convertKeys_eq_ok_iff.1 hparts) hgiven hinto hnames, hgains⟩

/-- Only the last stage of an upsert returns, and there is one way to it. -/
theorem exists_carries_of_upsert {search : Expr}
    (hrun : (Stage.upsertInsert search).run? look calls = some stage)
    (hparent : (stage.perform look builder call).parent? = some after) :
    ∃ clause, Carries look builder call (.upsertInsert search) calls clause ∧
      Gains builder after call clause := by
  obtain rfl | ⟨inserting, inserted, rest, insert, rfl, hinserted, hrun⟩ :=
    run?_upsertInsert hrun
  · cases (parent?_upsertInsert search call).symm.trans hparent
  obtain rfl | ⟨updating, updated, update, rfl, hupdated, rfl⟩ :=
    run?_upsertUpdate hrun
  · cases (parent?_upsertUpdate _ _ call).symm.trans hparent
  obtain ⟨clause, hclause, hgains⟩ := exists_of_parent_upsertInto hparent
  obtain ⟨hsearch, hinsert, hupdate, hcollection⟩ :=
    exists_of_upsertClause hclause
  exact ⟨.upsert clause,
    .upsert hinserted hupdated hsearch hinsert hupdate hcollection, hgains⟩

end Whole

/-- A call on a stage that returns adds one clause to the builder, with all that the
stage has gathered, exactly if it is not a sort on a grouping that keeps variables.
Such a sort adds nothing but itself. -/
theorem hands_over_iff {start : Stage ρ} {calls : List (Builder × StageCall ρ)}
    {call : StageCall ρ} (hbegun : start.IsBegun)
    (hparent : ((start.reach look calls).perform look builder call).parent? =
      some after) :
    ((∃ clause, Carries look builder call start (start.heard look calls) clause ∧
        Gains builder after call clause) ↔ ¬ start.Drops call) ∧
    (start.Drops call → OnlySorts builder after) := by
  have hrun : start.run? look (start.heard look calls) =
      some (start.reach look calls) := run?_heard start calls
  generalize start.heard look calls = made at hrun ⊢
  generalize start.reach look calls = stage at hrun hparent
  cases start with
  | collect keys aggregates =>
      obtain rfl : aggregates = [] := hbegun
      have hclause := exists_carries_of_collect hrun hparent
      exact ⟨iff_of_true hclause id, False.elim⟩
  | collectKeep keys keep =>
      obtain ⟨rfl, rfl⟩ := run?_collectKeep hrun
      cases call with
      | sort field direction =>
          have hsorts := onlySorts_of_parent_collectKeep hparent
          refine ⟨iff_of_false ?_ (not_not_intro trivial), fun _ => hsorts⟩
          rintro ⟨clause, -, hgains⟩
          exact hsorts.not_gains hgains
      | _ =>
          have hclause := exists_carries_of_collectKeep (by simp) hparent
          exact ⟨iff_of_true hclause id, False.elim⟩
  | upsertInsert search =>
      have hclause := exists_carries_of_upsert hrun hparent
      exact ⟨iff_of_true hclause id, False.elim⟩
  | upsertUpdate | upsertInto => cases hbegun

section Example

/-- Users by city, with their number.  The name of the second aggregation is not
hashable, and a grouping has no documents. -/
def cityCalls : List (Builder × StageCall Nat) :=
  [({}, .aggregate "COUNT" (.text "n") (.bare (.reference "1"))),
    ({}, .aggregate "MAX" (.list []) (.text "u.age")),
    ({}, .update (.map []))]

def cityClause : Collect Expr where
  keys := [("city", .reference "u.city")]
  into := none
  aggregates := [("n", .of (.call "COUNT" [.reference "1"]))]
  keep := none

def cities : Stage Nat := .collect [(.text "city", .text "u.city")] []

def keptCities : Stage Nat :=
  .collectKeep [(.text "city", .text "u.city")] [.text "u"]

def byCity : StageCall Nat := .sort (.text "city") (.text "ASC")

def citySort : SortKey where
  field := "city"
  direction := .ascending

def sortedCities : Builder where
  record := { collects := some [cityClause], sorts := some [citySort] }

theorem cities_handed_over :
    cities.IsBegun ∧
      ((cities.reach (fun _ _ => {}) cityCalls).perform (fun _ _ => {}) {}
        byCity).parent? = some sortedCities ∧
      ∃ clause, Carries (fun _ _ => {}) {} byCity cities
          (cities.heard (fun _ _ => {}) cityCalls) clause ∧
        Gains {} sortedCities byCity clause := by
  have hbegun : cities.IsBegun := rfl
  have hparent : ((cities.reach (fun _ _ => {}) cityCalls).perform
      (fun _ _ => {}) {} byCity).parent? = some sortedCities := rfl
  exact ⟨hbegun, hparent, (hands_over_iff hbegun hparent).1.2 not_false⟩

/-- The grouping is lost, and the query is sorted as if there had been none. -/
theorem keptCities_dropped :
    keptCities.IsBegun ∧
      (keptCities.perform (fun _ _ => {}) {} byCity).parent? =
        some { record := { sorts := some [citySort] } } ∧
      ¬ ∃ clause,
        Gains {} { record := { sorts := some [citySort] } } byCity clause := by
  have hsorts : OnlySorts {} { record := { sorts := some [citySort] } } :=
    ⟨citySort, rfl⟩
  exact ⟨trivial, rfl, fun ⟨_, hgains⟩ => hsorts.not_gains hgains⟩

end Example

end Stage

end ArangoQuery
