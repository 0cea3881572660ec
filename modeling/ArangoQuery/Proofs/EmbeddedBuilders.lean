import ArangoQuery.Proofs.Permanence
import ArangoQuery.Proofs.ResolvedArguments
import ArangoQuery.Proofs.ScriptMoves

/-!
# Builders inside builders

A builder that is given as an argument is embedded as a subquery with a copy of
its record.  What a call does to a record is a `Deed`: the call with the records
that it has seen in the place of the builders.  So the record of a builder is made
by the deeds on it, one after the other, and by nothing else
(`Session.query_run`); and what a deed has put into it lasts, until the source or
the result that it belongs to is replaced (`Query.lasts_deeds`).

A call sees the records as they are when it is made.  There is one exception: a
search that claims the source of its main loop does so before it looks at its
conditions, and finds the source in its own record (`Session.seen`).
-/

namespace ArangoQuery

/-! ## Deeds -/

/-- What is done to a record: a call on a builder with some open loop, or on a
stage of such a builder. -/
inductive Deed where
  | call (openJoin : Option Nat) (call : Call Query)
  | callStage (openJoin : Option Nat) (stage : Stage Query)
      (call : StageCall Query)

namespace Deed

/-- The record after a deed.  A builder in the arguments is the record itself. -/
def on (record : Query) : Deed → Query
  | .call openJoin request =>
      (Builder.perform (fun _ => id) { record, openJoin }
        request).builder.record
  | .callStage openJoin stage request =>
      let builder : Builder := { record, openJoin }
      ((stage.perform (fun _ => id) builder request).builder builder).record

/-- May a deed replace the expressions at this place? -/
def Replaces : Deed → ClauseKind → Nat → Prop
  | .call openJoin request => request.Replaces openJoin
  | .callStage .. => fun _ _ => False

theorem lasts_on (record : Query) (deed : Deed) :
    record.Lasts deed.Replaces (deed.on record) := by
  cases deed with
  | call openJoin request =>
      exact Builder.lasts_perform _ { record, openJoin } request
  | callStage openJoin stage request =>
      exact (Stage.grows_perform _ { record, openJoin } stage request).lasts _

end Deed

theorem Query.lasts_deeds (record : Query) (deeds : List Deed) :
    record.Lasts
      (fun kind position => ∃ deed ∈ deeds, deed.Replaces kind position)
      (deeds.foldl Deed.on record) := by
  induction deeds generalizing record with
  | nil => exact .refl _ record
  | cons deed rest hrest =>
      intro kind position parts hkept hparts
      refine hrest (deed.on record) kind position parts ?_ ?_
      · rintro ⟨later, hlater, hreplaces⟩
        exact hkept ⟨later, List.mem_cons_of_mem _ hlater, hreplaces⟩
      · exact deed.lasts_on record kind position parts
          (fun hreplaces => hkept ⟨deed, List.mem_cons_self, hreplaces⟩) hparts

namespace Session

/-! ## The records that a call sees -/

/-- The records that a call on a builder finds when it converts its arguments. -/
def seen (session : Session) (caller : Nat) (call : Call Nat) : Nat → Query :=
  session.look caller (call.recordSeen (session.query caller))

/-- What a move does to the record of a builder. -/
def deed? (session : Session) (number : Nat) : Move → Option Deed
  | .call caller call =>
      if (session.cell caller).record = (session.cell number).record then
        some (.call (session.cell caller).openJoin
          (call.resolve (session.seen caller call)))
      else none
  | .callStage stage call =>
      session.stages[stage]?.bind fun cell =>
        if (session.cell cell.parent).record = (session.cell number).record then
          some (.callStage (session.cell cell.parent).openJoin
            (cell.stage.resolve session.query) (call.resolve session.query))
        else none
  | _ => none

/-- What a run does to the record of a builder, deed by deed. -/
def deeds (number : Nat) : Session → List Move → List Deed
  | _, [] => []
  | session, move :: rest =>
      (session.deed? number move).toList ++
        deeds number (session.after move) rest

variable {session : Session} {number : Nat}

theorem query_of_same_record {other : Nat}
    (hrecord : (session.cell other).record = (session.cell number).record) :
    session.query other = session.query number := by
  rw [query, query, hrecord]

theorem look_query (session : Session) (number : Nat) :
    session.look number (session.query number) = session.query := by
  funext other
  rw [look]
  split
  · rename_i hrecord
    exact (query_of_same_record hrecord).symm
  · rfl

theorem perform_eq_resolved (session : Session) (caller : Nat)
    (call : Call Nat) :
    (session.builder caller).perform (session.look caller) call =
      (session.builder caller).perform (fun _ => id)
        (call.resolve (session.seen caller call)) := by
  rw [Builder.perform_at_once, Builder.perform_resolve]
  rfl

theorem performStage_eq_resolved (session : Session) (parent : Nat)
    (stage : Stage Nat) (call : StageCall Nat) :
    (stage.perform (session.look parent) (session.builder parent)
        call).resolve session.query =
      (stage.resolve session.query).perform (fun _ => id)
        (session.builder parent) (call.resolve session.query) := by
  rw [Stage.perform_resolve, Stage.perform_at_once]
  exact congrArg (fun look => (stage.perform (fun _ => look)
    (session.builder parent) call).resolve session.query)
      (look_query session parent)

theorem builder_resolve {ρ : Type} (result : StageResult ρ) (look : ρ → Query)
    (builder : Builder) :
    (result.resolve look).builder builder = result.builder builder := by
  cases result <;> rfl

/-! ## Deeds of a run -/

theorem query_after_eq_deed (hsound : session.IsSound)
    (hnumber : number < session.builders.length) (move : Move) :
    (session.after move).query number =
      (session.deed? number move).toList.foldl Deed.on
        (session.query number) := by
  rw [query_after hsound hnumber]
  cases move with
  | add | share | addStage | rename => rfl
  | call caller call =>
      simp only [change?, deed?, perform_eq_resolved]
      split
      · rename_i hrecord
        rw [← query_of_same_record hrecord]
        rfl
      · rfl
  | callStage stage call =>
      simp only [change?, deed?]
      cases session.stages[stage]? with
      | none => rfl
      | some cell =>
          simp only [Option.map_some, Option.bind_some]
          split
          · rename_i hrecord
            rw [← query_of_same_record hrecord,
              ← builder_resolve _ session.query, performStage_eq_resolved]
            rfl
          · rfl

theorem query_run (hsound : session.IsSound)
    (hnumber : number < session.builders.length) (moves : List Move) :
    (session.run moves).query number =
      (session.deeds number moves).foldl Deed.on (session.query number) := by
  induction moves generalizing session with
  | nil => rfl
  | cons move rest hrest =>
      have hlater := Nat.lt_of_lt_of_le hnumber
        (length_builders_after session move)
      calc (session.run (move :: rest)).query number
          = ((session.after move).run rest).query number := rfl
        _ = ((session.after move).deeds number rest).foldl Deed.on
              ((session.after move).query number) :=
            hrest (hsound.after move) hlater
        _ = (session.deeds number (move :: rest)).foldl Deed.on
              (session.query number) := by
            rw [deeds, List.foldl_append,
              query_after_eq_deed hsound hnumber move]

/-! ## Snapshots -/

theorem seen_of_record_ne (session : Session) {caller other : Nat}
    (call : Call Nat)
    (hrecord : (session.cell other).record ≠ (session.cell caller).record) :
    session.seen caller call other = session.query other :=
  if_neg hrecord

/-- Only a search that claims its view changes the record before it converts its
conditions. -/
theorem recordSeen_eq_iff (record : Query) (call : Call Nat) :
    call.recordSeen record = record ↔
      ∀ view conditions options, call = .search view conditions options →
        record.source = none → Slot.source? view.raw = none := by
  cases call with
  | search view conditions options =>
      rw [Call.recordSeen, Builder.claimView]
      cases hsource : record.source with
      | none =>
          constructor
          · rintro hseen _ _ _ ⟨⟩ -
            exact (congrArg Record.source hseen).trans hsource
          · intro hview
            have hsame : Slot.source? view.raw = record.source :=
              (hview view conditions options rfl rfl).trans hsource.symm
            exact congrArg (fun source => { record with source := source }) hsame
      | some source =>
          refine iff_of_true ?_ ?_
          · simp only
            split <;> rfl
          · intro _ _ _ _ hnone
            cases hnone
  | _ =>
      refine iff_of_true rfl ?_
      intro _ _ _ hcall
      cases hcall

theorem seen_eq_query_iff (session : Session) (caller : Nat)
    (call : Call Nat) :
    session.seen caller call = session.query ↔
      ∀ view conditions options, call = .search view conditions options →
        (session.query caller).source = none → Slot.source? view.raw = none := by
  rw [← recordSeen_eq_iff]
  constructor
  · intro hseen
    have hown : session.seen caller call caller =
        call.recordSeen (session.query caller) := if_pos rfl
    exact hown.symm.trans (congrFun hseen caller)
  · intro hseen
    rw [seen, hseen, look_query]

theorem query_of_not_changed (hsound : session.IsSound)
    (hnumber : number < session.builders.length) {move : Move}
    (hchange : ∀ caller builder,
      session.change? move = some (caller, builder) →
      (session.cell caller).record ≠ (session.cell number).record) :
    (session.after move).query number = session.query number := by
  rw [query_after hsound hnumber]
  cases hmove : session.change? move with
  | none => rfl
  | some change => exact if_neg (hchange change.1 change.2 hmove)

theorem query_after_filter_itself (hsound : session.IsSound)
    (hnumber : number < session.builders.length) :
    (session.after (.call number (.filter (.query number)))).query number =
      (session.query number).addFilter (.subquery (session.query number)) := by
  have hlook := congrFun (look_query session number) number
  calc (session.after (.call number (.filter (.query number)))).query number
      = (session.query number).addFilter
          (.subquery (session.look number (session.query number) number)) :=
        (query_after hsound hnumber _).trans (if_pos rfl)
    _ = (session.query number).addFilter
          (.subquery (session.query number)) := by rw [hlook]

/-- Builders are embedded with the records that they have at that moment, and what
has been embedded stays as it is, in a run from some session on. -/
structure TakesSnapshots (session : Session) (moves : List Move) : Prop where
  /-- A call sees the records of other builders as they are when it is made. -/
  seen_other : ∀ caller call other,
    (session.cell other).record ≠ (session.cell caller).record →
    session.seen caller call other = session.query other
  /-- It sees its own record as it is, too, unless it is a search that claims its
  view as the source. -/
  seen_all : ∀ caller call,
    session.seen caller call = session.query ↔
      ∀ view conditions options, call = .search view conditions options →
        (session.query caller).source = none → Slot.source? view.raw = none
  /-- A record is made by the deeds on it, and by nothing else. -/
  replayed : ∀ number < session.builders.length,
    (session.run moves).query number =
      (session.deeds number moves).foldl Deed.on (session.query number)
  /-- What is in a record lasts, until the source or the result that it belongs to
  is replaced. -/
  lasting : ∀ number < session.builders.length,
    (session.query number).Lasts
      (fun kind position =>
        ∃ deed ∈ session.deeds number moves, deed.Replaces kind position)
      ((session.run moves).query number)
  /-- A move changes the builders of one record only. -/
  framed : ∀ number < session.builders.length, ∀ move,
    (∀ caller builder, session.change? move = some (caller, builder) →
      (session.cell caller).record ≠ (session.cell number).record) →
    (session.after move).query number = session.query number
  /-- A stage, too, is led to what the records at that moment say; the keys of its
  grouping are looked up by the call that finishes it. -/
  stage_call : ∀ (cell : StageCell) (call : StageCall Nat),
    (cell.stage.perform (session.look cell.parent)
        (session.builder cell.parent) call).resolve session.query =
      (cell.stage.resolve session.query).perform (fun _ => id)
        (session.builder cell.parent) (call.resolve session.query)
  /-- What a stage has converted stays until the next call on it. -/
  stage_kept : ∀ stage (cell : StageCell), session.stages[stage]? = some cell →
    (∀ call, .callStage stage call ∉ moves) →
    (session.run moves).stages[stage]? = some cell
  /-- The document that an upsert searches for is looked up at its start. -/
  upsert : ∀ search : Operand Nat,
    (Stage.ofUpsert session.query search).map (Stage.resolve session.query) =
      Stage.ofUpsert id (search.resolve session.query)
  /-- A builder that is started with a value looks it up as well. -/
  created : ∀ initial : Operand Nat,
    Builder.ofInitial session.query initial =
      Builder.ofInitial id (initial.resolve session.query)
  /-- A builder inside itself is its record from before. -/
  itself : ∀ number < session.builders.length,
    (session.after (.call number (.filter (.query number)))).query number =
      (session.query number).addFilter (.subquery (session.query number))

theorem takesSnapshots (history moves : List Move) :
    (start.run history).TakesSnapshots moves := by
  have hsound : (start.run history).IsSound := IsSound.start.run history
  exact
    { seen_other := fun caller call other => seen_of_record_ne _ call
      seen_all := seen_eq_query_iff _
      replayed := fun number hnumber => query_run hsound hnumber moves
      lasting := fun number hnumber =>
        query_run hsound hnumber moves ▸ Query.lasts_deeds _ _
      framed := fun number hnumber move => query_of_not_changed hsound hnumber
      stage_call := fun cell call =>
        performStage_eq_resolved _ cell.parent cell.stage call
      stage_kept := fun stage cell => stage_run
      upsert := fun search => (Stage.ofUpsert_resolve search).symm
      created := fun initial => (Builder.ofInitial_resolve _ initial).symm
      itself := fun number hnumber => query_after_filter_itself hsound hnumber }

end Session

/-- In every run of moves a builder is embedded with the record that it has at
that moment, and whatever a script does with builders it does by moves. -/
theorem Script.embedding_takes_snapshot (history moves : List Move) :
    (Session.start.run history).TakesSnapshots moves ∧
      ∀ (current : Handle) (step : Step),
        MovesSession (perform current step) :=
  ⟨Session.takesSnapshots history moves, movesSession_perform⟩

namespace Session

section Example

/-- An inner builder, given to an outer one, and limited afterwards. -/
def limitedLater : List Move :=
  [.add { record := { collection := some "orders" } },
    .call 0 (.declare (.text "orders") (.query 1)),
    .call 1 (.limit (.scalar (.int 1)) .null)]

example : (start.run limitedLater).query 0 =
    { letsBeforeCollect :=
        some [("orders", .subquery { collection := some "orders" })] } := rfl

/-- A builder with a loop, whose source is still to be set. -/
def openedLoop : List Move :=
  [.call 0 (.loop (.text "d"))]

/-- A search among the results of the same builder. -/
def searchItself : Call Nat :=
  .search (.text "articles") [.query 0] .null

/-- The source that a search has claimed is in the record that it embeds. -/
theorem search_not_always_snapshot :
    ¬ ∀ (history : List Move) (number : Nat) (call : Call Nat),
      number < (start.run history).builders.length →
      ((start.run history).after (.call number call)).query number =
        (((start.run history).builder number).perform (fun _ => id)
          (call.resolve (start.run history).query)).builder.record := by
  intro hsnapshot
  have hquery := hsnapshot openedLoop 0 searchItself (by decide)
  have hsearches := congrArg Record.searches hquery
  cases hsearches

end Example

end Session

end ArangoQuery
