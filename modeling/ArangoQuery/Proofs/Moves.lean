import ArangoQuery.Proofs.FailedCalls
import Mathlib.Data.List.GetD

/-!
# Moves of a session

Whatever a caller does with builders and stages is one of six moves: a new builder,
a builder on the record of another one, a new stage, a call on a builder or on a
stage, and new names for what is there already.  A run starts with one builder.
A builder keeps its record for good, and only a call on a builder of this record,
or on a stage of such a builder, changes it (`Session.query_after`).
-/

namespace ArangoQuery

/-- What a caller does with a session. -/
inductive Move where
  | add (builder : Builder)
  | share (number : Nat)
  | addStage (parent : Nat) (stage : Stage Nat)
  | call (number : Nat) (call : Call Nat)
  | callStage (number : Nat) (call : StageCall Nat)
  | rename (saved : List (Scalar × Handle))

/-- The builder after a call on a stage. -/
def StageResult.builder {ρ : Type} (builder : Builder) :
    StageResult ρ → Builder
  | .same _ | .next _ => builder
  | .parent after | .failed after _ => after

namespace Session

/-- A session with one builder. -/
def start : Session :=
  (({} : Session).addBuilder {}).2

def after (session : Session) : Move → Session
  | .add builder => (session.addBuilder builder).2
  | .share number => (session.shareRecord number).2
  | .addStage parent stage => (session.addStage parent stage).2
  | .call number call => (session.call number call).1
  | .callStage number call => (session.callStage number call).1
  | .rename saved => { session with saved }

def run (session : Session) (moves : List Move) : Session :=
  moves.foldl after session

/-- Every builder has a record. -/
structure IsSound (session : Session) : Prop where
  nonempty : 0 < session.records.length
  record : ∀ cell ∈ session.builders, cell.record < session.records.length

variable {session : Session} {number : Nat}

/-! ## The cells of builders -/

theorem record_cell_setBuilder (session : Session) (caller : Nat)
    (builder : Builder) (number : Nat) :
    ((session.setBuilder caller builder).cell number).record =
      (session.cell number).record := by
  by_cases hcaller : caller = number
  · subst hcaller
    by_cases hlength : caller < session.builders.length
    · rw [setBuilder, cell, List.getD_eq_getElem?_getD,
        List.getElem?_set_self hlength]
      rfl
    · rw [setBuilder, cell, List.set_eq_of_length_le (Nat.le_of_not_lt hlength)]
      rfl
  · rw [setBuilder, cell, List.getD_eq_getElem?_getD,
      List.getElem?_set_ne hcaller, ← List.getD_eq_getElem?_getD]
    rfl

namespace IsSound

theorem cell_record (hsound : session.IsSound) (number : Nat) :
    (session.cell number).record < session.records.length := by
  rw [cell, List.getD_eq_getElem?_getD]
  cases hcell : session.builders[number]? with
  | none => exact hsound.nonempty
  | some cell => exact hsound.record cell (List.mem_of_getElem? hcell)

theorem start : Session.start.IsSound where
  nonempty := Nat.one_pos
  record := by simp [Session.start, addBuilder]

theorem addBuilder (hsound : session.IsSound) (builder : Builder) :
    (session.addBuilder builder).2.IsSound where
  nonempty := by
    rw [Session.addBuilder, List.length_append]
    exact Nat.lt_add_right 1 hsound.nonempty
  record := by
    rw [Session.addBuilder, List.length_append]
    intro cell hcell
    obtain hcell | hcell := List.mem_append.1 hcell
    · exact Nat.lt_add_right 1 (hsound.record cell hcell)
    · rw [List.mem_singleton.1 hcell]
      exact Nat.lt_succ_self _

theorem shareRecord (hsound : session.IsSound) (number : Nat) :
    (session.shareRecord number).2.IsSound where
  nonempty := hsound.nonempty
  record := by
    intro cell hcell
    obtain hcell | hcell := List.mem_append.1 hcell
    · exact hsound.record cell hcell
    · rw [List.mem_singleton.1 hcell]
      exact hsound.cell_record number

theorem setBuilder (hsound : session.IsSound) (number : Nat)
    (builder : Builder) : (session.setBuilder number builder).IsSound where
  nonempty := by
    rw [Session.setBuilder, List.length_set]
    exact hsound.nonempty
  record := by
    rw [Session.setBuilder, List.length_set]
    intro cell hcell
    obtain hcell | rfl := List.mem_or_eq_of_mem_set hcell
    · exact hsound.record cell hcell
    · exact hsound.cell_record number

end IsSound

/-! ## The builder that a move changes -/

/-- The builder that a move changes, and what becomes of it. -/
def change? (session : Session) : Move → Option (Nat × Builder)
  | .call number call =>
      some (number,
        ((session.builder number).perform (session.look number) call).builder)
  | .callStage number call =>
      session.stages[number]?.map fun cell =>
        let builder := session.builder cell.parent
        (cell.parent,
          (cell.stage.perform (session.look cell.parent) builder call).builder
            builder)
  | _ => none

/-- A move that changes a builder changes nothing else but the stages. -/
theorem after_of_change? {move : Move} {caller : Nat} {builder : Builder}
    (hchange : session.change? move = some (caller, builder)) :
    ∃ stages, session.after move =
      { session.setBuilder caller builder with stages } := by
  cases move with
  | call caller call =>
      obtain ⟨rfl, rfl⟩ := Prod.mk.inj (Option.some.inj hchange)
      exact ⟨session.stages, rfl⟩
  | callStage number call =>
      obtain ⟨cell, hcell, hchange⟩ := Option.map_eq_some_iff.1 hchange
      obtain ⟨rfl, rfl⟩ := Prod.mk.inj hchange
      rw [after, callStage, hcell]
      simp only
      cases cell.stage.perform (session.look cell.parent)
          (session.builder cell.parent) call with
      | same stage =>
          refine ⟨session.stages.set number { cell with stage }, ?_⟩
          rw [StageResult.builder, setBuilder_builder]
      | next stage =>
          refine ⟨session.stages ++ [⟨cell.parent, stage⟩], ?_⟩
          rw [StageResult.builder, setBuilder_builder]
          rfl
      | parent builder | failed builder error => exact ⟨session.stages, rfl⟩
  | _ => cases hchange

/-- A call on a stage that is not there. -/
theorem after_callStage_of_none {call : StageCall Nat}
    (hchange : session.change? (.callStage number call) = none) :
    session.after (.callStage number call) = session := by
  rw [after, callStage, Option.map_eq_none_iff.1 hchange]

theorem query_setBuilder (hsound : session.IsSound) (caller : Nat)
    (builder : Builder) (number : Nat) :
    (session.setBuilder caller builder).query number =
      if (session.cell caller).record = (session.cell number).record then
        builder.record
      else session.query number := by
  rw [query, record_cell_setBuilder, setBuilder, List.getD_eq_getElem?_getD,
    List.getElem?_set]
  split
  · rw [if_pos (hsound.cell_record caller)]
    rfl
  · rw [← List.getD_eq_getElem?_getD, query]

/-- The builders that are there keep their records, and only a call on a builder
of the same record changes what is in it. -/
theorem query_after (hsound : session.IsSound)
    (hnumber : number < session.builders.length) (move : Move) :
    (session.after move).query number =
      match session.change? move with
      | some (caller, builder) =>
          if (session.cell caller).record = (session.cell number).record then
            builder.record
          else session.query number
      | none => session.query number := by
  cases hchange : session.change? move with
  | some change =>
      obtain ⟨stages, hafter⟩ := after_of_change? hchange
      rw [hafter]
      exact query_setBuilder hsound change.1 change.2 number
  | none =>
      cases move with
      | add builder =>
          have hcell : (session.addBuilder builder).2.cell number =
              session.cell number := List.getD_append _ _ default _ hnumber
          rw [after, query, hcell]
          exact List.getD_append _ _ {} _ (hsound.cell_record number)
      | share other =>
          have hcell : (session.shareRecord other).2.cell number =
              session.cell number := List.getD_append _ _ default _ hnumber
          rw [after, query, hcell]
          rfl
      | addStage | rename => rfl
      | call => cases hchange
      | callStage => rw [after_callStage_of_none hchange]

theorem length_builders_after (session : Session) (move : Move) :
    session.builders.length ≤ (session.after move).builders.length := by
  cases hchange : session.change? move with
  | some change =>
      obtain ⟨stages, hafter⟩ := after_of_change? hchange
      rw [hafter]
      exact Nat.le_of_eq List.length_set.symm
  | none =>
      cases move with
      | add | share => exact List.length_append ▸ Nat.le_add_right _ 1
      | addStage | rename => exact Nat.le_refl _
      | call => cases hchange
      | callStage =>
          exact (after_callStage_of_none hchange).symm ▸ Nat.le_refl _

theorem IsSound.after (hsound : session.IsSound) (move : Move) :
    (session.after move).IsSound := by
  cases hchange : session.change? move with
  | some change =>
      obtain ⟨stages, hafter⟩ := after_of_change? hchange
      obtain ⟨hnonempty, hrecord⟩ := hsound.setBuilder change.1 change.2
      rw [hafter]
      exact ⟨hnonempty, hrecord⟩
  | none =>
      cases move with
      | add builder => exact hsound.addBuilder builder
      | share other => exact hsound.shareRecord other
      | addStage | rename => exact ⟨hsound.nonempty, hsound.record⟩
      | call => cases hchange
      | callStage => exact (after_callStage_of_none hchange).symm ▸ hsound

/-- A stage is changed by calls on it only. -/
theorem stage_after {cell : StageCell} {move : Move}
    (hcell : session.stages[number]? = some cell)
    (hmove : ∀ call, move ≠ .callStage number call) :
    (session.after move).stages[number]? = some cell := by
  have happend (added : List StageCell) :
      (session.stages ++ added)[number]? = some cell := by
    rw [List.getElem?_append_left (List.getElem?_eq_some_iff.1 hcell).1, hcell]
  cases move with
  | add | share | rename | call => exact hcell
  | addStage parent stage => exact happend _
  | callStage other call =>
      have hother : other ≠ number := fun hsame =>
        hmove call (hsame ▸ rfl)
      rw [after, callStage]
      cases session.stages[other]? with
      | none => exact hcell
      | some called =>
          simp only
          cases called.stage.perform (session.look called.parent)
              (session.builder called.parent) call with
          | same stage => exact (List.getElem?_set_ne hother).trans hcell
          | next stage => exact happend _
          | parent | failed => exact hcell

theorem stage_run {cell : StageCell} {moves : List Move}
    (hcell : session.stages[number]? = some cell)
    (hmoves : ∀ call, .callStage number call ∉ moves) :
    (session.run moves).stages[number]? = some cell := by
  induction moves generalizing session with
  | nil => exact hcell
  | cons move rest hrest =>
      refine hrest (stage_after hcell fun call hmove => ?_) fun call hcall =>
        hmoves call (List.mem_cons_of_mem _ hcall)
      exact hmoves call (hmove ▸ List.mem_cons_self)

theorem IsSound.run (hsound : session.IsSound) (moves : List Move) :
    (session.run moves).IsSound := by
  induction moves generalizing session with
  | nil => exact hsound
  | cons move rest hrest => exact hrest (hsound.after move)

end Session

end ArangoQuery
