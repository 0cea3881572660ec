import ArangoQuery.Proofs.EmbeddedBuilders
import ArangoQuery.Proofs.OperationLines
import ArangoQuery.Proofs.TypedCalls

/-!
# The collections of operations

An operation is entered without a collection.  A call of `into` gives one to the
operation that is the last at that moment, and no call on a stage does: the
documents of an upsert, and its collection, are its own.  So all that matters for
the operations of a record is a list of events, and each operation has the
collection that is given last before the next one (`Query.operations_deeds`), in
every run and whatever else is called (`Session.into_binds_by_position`).
-/

namespace ArangoQuery

open Record (members)

/-! ## Events -/

/-- What happens to the operations of a record. -/
inductive OperationEvent where
  | operate (operation : Operation Expr)
  | into (collection : Option (Slot String))

namespace OperationEvent

/-- The collection that is given last before the next operation. -/
def lastInto : List OperationEvent → Option (Option (Slot String))
  | .into collection :: rest => some ((lastInto rest).getD collection)
  | _ => none

/-- An operation with the collection that later events give to it. -/
def bound (later : List OperationEvent) (operation : Operation Expr) :
    Operation Expr :=
  { operation with collection := (lastInto later).getD operation.collection }

/-- The operations that come of a list of events. -/
def operations : List OperationEvent → List (Operation Expr)
  | [] => []
  | .operate operation :: later => bound later operation :: operations later
  | .into _ :: later => operations later

/-- The operations after one event more. -/
def on (given : List (Operation Expr)) :
    OperationEvent → List (Operation Expr)
  | .operate operation => given ++ [operation]
  | .into collection =>
      Builder.modifyLast (fun operation => { operation with collection }) given

theorem modifyLast_concat {α : Type} (change : α → α) (items : List α)
    (last : α) :
    Builder.modifyLast change (items ++ [last]) = items ++ [change last] := by
  rw [Builder.modifyLast, List.length_append]
  show List.modify (items ++ [last]) items.length change = _
  induction items with
  | nil => rfl
  | cons item items hitems => exact congrArg (item :: ·) hitems

theorem foldl_on_concat (given : List (Operation Expr))
    (operation : Operation Expr) (events : List OperationEvent) :
    events.foldl on (given ++ [operation]) =
      given ++ bound events operation :: operations events := by
  induction events generalizing given operation with
  | nil => rfl
  | cons event later hlater =>
      cases event with
      | operate next =>
          rw [List.foldl_cons, on, hlater, List.append_assoc]
          rfl
      | into collection =>
          rw [List.foldl_cons, on, modifyLast_concat, hlater]
          rfl

/-- Event by event each operation gets the collection that is given to it last. -/
theorem foldl_on_nil (events : List OperationEvent) :
    events.foldl on [] = operations events := by
  induction events with
  | nil => rfl
  | cons event later hlater =>
      cases event with
      | operate operation => exact foldl_on_concat [] operation later
      | into collection => exact hlater

theorem foldl_on_map_operate (earlier given : List (Operation Expr)) :
    (given.map operate).foldl on earlier = earlier ++ given := by
  induction given generalizing earlier with
  | nil => exact (List.append_nil earlier).symm
  | cons operation rest hrest =>
      rw [List.map_cons, List.foldl_cons, hrest, on, List.append_assoc]
      rfl

/-- Operations that are there already are like those that come first. -/
theorem foldl_on (given : List (Operation Expr)) (events : List OperationEvent) :
    events.foldl on given = operations (given.map operate ++ events) := by
  rw [← foldl_on_nil, List.foldl_append, foldl_on_map_operate, List.nil_append]

theorem operations_eq_nil {events : List OperationEvent}
    (hevents : ∀ operation, .operate operation ∉ events) :
    operations events = [] := by
  induction events with
  | nil => rfl
  | cons event later hlater =>
      cases event with
      | operate operation => exact absurd List.mem_cons_self (hevents operation)
      | into collection =>
          exact hlater fun operation hlast =>
            hevents operation (List.mem_cons_of_mem _ hlast)

end OperationEvent

/-! ## Calls -/

section Calls

variable {ρ : Type}

namespace Call

/-- The kind of modification that a call asks for. -/
def operationKind? : Call ρ → Option OperationKind
  | .insert _ => some .insert
  | .replace .. => some .replace
  | .remove _ => some .remove
  | .update .. => some .update
  | _ => none

/-- What a call says about the operations.  A call that fails says nothing. -/
def event? (look : ρ → Query) : Call ρ → Option OperationEvent
  | .into collection => some (.into (Slot.text? collection.raw))
  | call =>
      (call.operation? look).bind fun operation =>
        operation.toOption.map .operate

end Call

/-- The event of a deed.  Stages have no operations. -/
def Deed.event? : Deed → Option OperationEvent
  | .call _ request => request.event? id
  | .callStage .. => none

theorem Operation.of_ofParts {kind : OperationKind} {target : Option Value}
    {document : Option Expr} {operation : Operation Expr}
    (hoperation : ofParts kind target document = .ok operation) :
    operation.kind = kind ∧ operation.collection = none := by
  obtain ⟨build, document, hbuild, -, rfl⟩ :=
    Checked.exists_of_seq (Checked.orInvalid_eq_ok hoperation)
  obtain ⟨target, -, rfl⟩ := Checked.exists_of_map hbuild
  exact ⟨rfl, rfl⟩

namespace Builder

variable {look : Query → ρ → Query} {builder : Builder}

/-- A modification extends the record exactly if its arguments are in order. -/
theorem perform_of_operation? {call : Call ρ}
    {operation : Except Error (Operation Expr)}
    (hcall : call.operation? (look builder.record) = some operation) :
    builder.perform look call =
      builder.onRecord (operation.map builder.record.addOperation) := by
  have haddition :
      call.addition? (look builder.record) builder.record =
        some (.operation <$> operation) := by
    cases call with
    | insert | replace | remove | update =>
        exact congrArg (Option.map (Functor.map Addition.operation)) hcall
    | _ => cases hcall
  rw [perform_of_addition? haddition, Functor.map_map]
  rfl

/-! ## Calls that leave the operations alone -/

/-- Whatever a change comes to, the operations are the same as before. -/
def KeepsOperations {α : Type} (record : Query) (recordOf : α → Query)
    (change : Except Error α) : Prop :=
  ∀ after, change = .ok after → (recordOf after).operations = record.operations

section Changes

variable {record : Query}

theorem KeepsOperations.attempt {change : Except Error Builder}
    (hchange : KeepsOperations builder.record Builder.record change) :
    (builder.attempt change).builder.record.operations =
      builder.record.operations :=
  record_attempt (motive := fun record =>
    record.operations = builder.record.operations) rfl hchange

theorem KeepsOperations.onRecord {change : Except Error Query}
    (hchange : KeepsOperations builder.record id change) :
    (builder.onRecord change).builder.record.operations =
      builder.record.operations :=
  record_onRecord (motive := fun record =>
    record.operations = builder.record.operations) rfl hchange

theorem operations_andThen {outcome : Outcome} {next : Builder → Outcome}
    (houtcome : outcome.builder.record.operations = record.operations)
    (hnext : ∀ builder, (next builder).builder.record.operations =
      builder.record.operations) :
    (outcome.andThen next).builder.record.operations = record.operations :=
  record_andThen (motive := fun after => after.operations = record.operations)
    houtcome ((hnext _).trans houtcome)

end Changes

theorem operations_setSource (source : Option (Slot (Source Expr))) :
    (builder.setSource source).record.operations =
      builder.record.operations := by
  unfold setSource
  split <;> rfl

theorem keepsOperations_openLoop (variableName : Operand ρ) :
    KeepsOperations builder.record Builder.record
      (builder.openLoop variableName) := by
  intro after hafter
  obtain ⟨name, -, ⟨-, loop, -, rfl⟩ | ⟨-, rfl⟩⟩ := exists_of_openLoop hafter
  · rfl
  · rfl

theorem keepsOperations_iterate (source : Operand ρ) :
    KeepsOperations builder.record Builder.record (builder.iterate source) := by
  intro after hafter
  obtain ⟨value, collection, -, rfl⟩ := exists_of_iterate hafter
  exact operations_setSource _

theorem keepsOperations_iterateGraph {look : ρ → Query}
    (graph direction vertex minDepth maxDepth options : Operand ρ) :
    KeepsOperations builder.record Builder.record
      (iterateGraph look builder graph direction vertex minDepth maxDepth
        options) := by
  intro after hafter
  obtain ⟨traversal, -, rfl⟩ := exists_of_iterateGraph hafter
  exact operations_setSource _

theorem keepsOperations_claimView (record : Query) (view : Value) :
    KeepsOperations record id (claimView record view) := by
  intro after hafter
  obtain ⟨-, rfl⟩ | ⟨-, rfl⟩ := of_claimView hafter
  · rfl
  · rfl

theorem operations_addFilter (record : Query) (condition : Expr) :
    (record.addFilter condition).operations = record.operations := by
  unfold Query.addFilter
  split <;> rfl

theorem operations_addLet (record : Query) (clause : String × Expr) :
    (record.addLet clause).operations = record.operations := by
  unfold Query.addLet
  split <;> rfl

theorem operations_add {record : Query} {addition : Addition}
    (hother : ∀ operation, addition ≠ .operation operation) :
    (record.add addition).operations = record.operations := by
  cases addition with
  | filter condition => exact operations_addFilter record condition
  | declaration clause => exact operations_addLet record clause
  | operation operation => exact absurd rfl (hother operation)
  | _ => rfl

/-- Clauses of other kinds are added. -/
theorem keepsOperations_add {record : Query} {converted : Except Error Addition}
    (hother : ∀ operation, converted ≠ .ok (.operation operation)) :
    KeepsOperations record id (record.add <$> converted) := by
  intro after hafter
  obtain ⟨addition, hconverted, rfl⟩ := exists_of_map_eq_ok hafter
  refine operations_add fun operation hoperation => hother operation ?_
  rw [hconverted, hoperation]

theorem ne_operation_of_addition? (look : ρ → Query) (record : Query)
    {call : Call ρ} (hkind : call.operationKind? = none)
    (operation : Operation Expr) :
    call.addition? look record ≠ some (.ok (.operation operation)) := by
  intro hcall
  cases call with
  | insert | replace | remove | update => cases hkind
  | addCollect | addUpsert => cases Except.ok.inj (Option.some.inj hcall)
  | filter | declare | sort | updateWith | traverse | prune | window =>
      obtain ⟨clause, -, hclause⟩ :=
        exists_of_map_eq_ok (Option.some.inj hcall)
      cases hclause
  | _ => cases hcall

theorem operations_setLimit (record : Query) (count offset : Operand ρ) :
    (setLimit record count offset).operations = record.operations := by
  unfold setLimit
  split <;> rfl

/-- Only modifications and `into` touch the operations. -/
theorem operations_perform_of_other (look : Query → ρ → Query)
    (builder : Builder) {call : Call ρ} (hkind : call.operationKind? = none)
    (hinto : ∀ collection, call ≠ .into collection) :
    (builder.perform look call).builder.record.operations =
      builder.record.operations := by
  cases call with
  | insert | replace | remove | update => cases hkind
  | into collection => exact absurd rfl (hinto collection)
  | filter | declare | sort | updateWith | traverse | prune | window =>
      rw [perform_of_addition? rfl]
      refine (keepsOperations_add fun operation hadded => ?_).onRecord
      exact ne_operation_of_addition? (look builder.record) builder.record hkind
        operation (congrArg some hadded)
  | search view conditions options =>
      have hclaimed :=
        (keepsOperations_claimView builder.record view.raw).onRecord
      refine operations_andThen hclaimed fun claimed => ?_
      rw [search_eq]
      refine (keepsOperations_add fun operation hadded => ?_).onRecord
      obtain ⟨clause, -, hclause⟩ := exists_of_map_eq_ok hadded
      cases hclause
  | addCollect | addUpsert | offset => rfl
  | useCollections names =>
      simp only [perform, adjust, changed]
      split <;> rfl
  | loop variableName => exact (keepsOperations_openLoop variableName).attempt
  | source source => exact (keepsOperations_iterate source).attempt
  | join collection variableName =>
      exact operations_andThen (keepsOperations_openLoop variableName).attempt
        fun opened => (keepsOperations_iterate collection).attempt
  | graph graph direction vertex minDepth maxDepth options =>
      have hgraph : KeepsOperations builder.record Builder.record
          (iterateGraph (look builder.record) builder graph direction vertex
            minDepth maxDepth options) :=
        keepsOperations_iterateGraph graph direction vertex minDepth maxDepth
          options
      exact hgraph.attempt
  | loops vertex edge path =>
      refine KeepsOperations.onRecord fun after hafter => ?_
      obtain ⟨names, rfl⟩ := exists_of_nameLoops hafter
      rfl
  | result value distinct =>
      refine KeepsOperations.onRecord fun after hafter => ?_
      obtain ⟨expr, distinct, -, rfl⟩ := exists_of_setResult hafter
      rfl
  | limit count skipped => exact operations_setLimit _ count skipped
  | paginate page size =>
      refine KeepsOperations.onRecord fun after hafter => ?_
      obtain ⟨offset, -, rfl⟩ := exists_of_map_eq_ok hafter
      exact operations_setLimit _ _ _

/-! ## What a call does to the operations -/

theorem into_of_empty {record : Query} (hempty : members record.operations = [])
    (collection : Operand ρ) :
    into record collection = .error (.value .intoWithoutOperation) := by
  rw [into, hempty]
  rfl

/-- The last operation gets the collection. -/
theorem exists_of_nonempty {record : Query}
    (hnonempty : members record.operations ≠ []) (collection : Operand ρ) :
    ∃ after, into record collection = .ok after ∧
      members after.operations = OperationEvent.on (members record.operations)
        (.into (Slot.text? collection.raw)) := by
  cases hoperations : record.operations with
  | none => rw [hoperations] at hnonempty; exact absurd rfl hnonempty
  | some operations =>
      rw [hoperations] at hnonempty
      have hempty : (members (some operations)).isEmpty = false :=
        List.isEmpty_eq_false_iff.2 hnonempty
      rw [into, hoperations, hempty]
      exact ⟨_, rfl, rfl⟩

theorem operations_perform (look : Query → ρ → Query) (builder : Builder)
    (call : Call ρ) :
    members (builder.perform look call).builder.record.operations =
      (call.event? (look builder.record)).toList.foldl OperationEvent.on
        (members builder.record.operations) := by
  have hmodification {operation : Except Error (Operation Expr)} :
      members (builder.onRecord
          (operation.map builder.record.addOperation)).builder.record.operations =
        (operation.toOption.map OperationEvent.operate).toList.foldl
          OperationEvent.on (members builder.record.operations) := by
    cases operation <;> rfl
  cases call with
  | insert | replace | remove | update =>
      rw [perform_of_operation? rfl]
      exact hmodification
  | into collection =>
      by_cases hempty : members builder.record.operations = []
      · rw [perform, into_of_empty hempty]
        show members builder.record.operations =
          OperationEvent.on (members builder.record.operations)
            (.into (Slot.text? collection.raw))
        rw [hempty]
        rfl
      · obtain ⟨after, hafter, hoperations⟩ := exists_of_nonempty hempty collection
        rw [perform, hafter]
        exact hoperations
  | _ =>
      refine congrArg members (operations_perform_of_other look builder rfl ?_)
      rintro collection ⟨⟩

end Builder

/-! ## Stages have no operations -/

namespace Stage

variable {look : Query → ρ → Query} {builder : Builder}

theorem operations_hand (builder : Builder) (clause : Except Error (Collect Expr)) :
    (hand look builder clause).builder.record.operations =
      builder.record.operations := by
  cases clause <;> rfl

theorem operations_performSort (builder : Builder)
    (field direction : Operand ρ) :
    (builder.perform look (.sort field direction)).builder.record.operations =
      builder.record.operations := by
  refine Builder.operations_perform_of_other look builder rfl ?_
  rintro collection ⟨⟩

theorem operations_orFail {α : Type} {step : Except Error α}
    {next : α → StageResult ρ}
    (hnext : ∀ value, ((next value).builder builder).record.operations =
      builder.record.operations) :
    ((orFail builder step next).builder builder).record.operations =
      builder.record.operations := by
  cases step with
  | error error => rfl
  | ok value => exact hnext value

/-- No call on a stage touches the operations, whatever its name is. -/
theorem operations_perform (look : Query → ρ → Query) (builder : Builder)
    (stage : Stage ρ) (call : StageCall ρ) :
    ((stage.perform look builder call).builder builder).record.operations =
      builder.record.operations := by
  cases stage with
  | collect keys aggregates =>
      cases call with
      | aggregate => exact operations_orFail fun _ => rfl
      | finish | into =>
          rw [perform, builder_ofOutcome]
          exact operations_hand builder _
      | sort field direction =>
          rw [perform, builder_ofOutcome]
          exact Builder.operations_andThen (operations_hand builder _)
            fun between => operations_performSort between field direction
      | _ => rfl
  | collectKeep keys keep =>
      cases call with
      | into | aggregateAll =>
          rw [perform, builder_ofOutcome]
          exact operations_hand builder _
      | sort field direction =>
          rw [perform, builder_ofOutcome]
          exact operations_performSort builder field direction
      | _ => rfl
  | upsertInsert search =>
      cases call with
      | insert => exact operations_orFail fun _ => rfl
      | _ => rfl
  | upsertUpdate search insert =>
      cases call with
      | update => exact operations_orFail fun _ => rfl
      | _ => rfl
  | upsertInto search insert update =>
      cases call with
      | into => exact operations_orFail fun upsert => rfl
      | _ => rfl

end Stage

end Calls

/-! ## Deeds -/

theorem Deed.operations_on (record : Query) (deed : Deed) :
    members (deed.on record).operations =
      deed.event?.toList.foldl OperationEvent.on (members record.operations) := by
  cases deed with
  | call openJoin request =>
      exact Builder.operations_perform (fun _ => id) { record, openJoin } request
  | callStage openJoin stage request =>
      exact congrArg members (Stage.operations_perform (fun _ => id)
        { record, openJoin } stage request)

/-- The operations of a record after some deeds: those that are there already, and
one for each modification, each with the collection that is given last before the
next one. -/
theorem Query.operations_deeds (record : Query) (deeds : List Deed) :
    members (deeds.foldl Deed.on record).operations =
      OperationEvent.operations ((members record.operations).map .operate ++
        deeds.filterMap Deed.event?) := by
  rw [← OperationEvent.foldl_on]
  induction deeds generalizing record with
  | nil => rfl
  | cons deed rest hrest =>
      rw [List.foldl_cons, hrest, deed.operations_on, ← List.foldl_append,
        List.filterMap_cons]
      cases deed.event? <;> rfl

/-! ## Runs -/

theorem Call.operationKind?_resolve {ρ : Type} (look : ρ → Query)
    (call : Call ρ) : (call.resolve look).operationKind? = call.operationKind? := by
  cases call <;> rfl

theorem Call.exists_operation? {call : Call Query} {kind : OperationKind}
    (hkind : call.operationKind? = some kind) :
    ∃ operation, call.operation? id = some operation ∧
      call.event? id = operation.toOption.map .operate ∧
      ∀ given, operation = .ok given →
        given.kind = kind ∧ given.collection = none := by
  cases call with
  | insert | remove =>
      obtain rfl := Option.some.inj hkind
      refine ⟨_, rfl, rfl, fun given hgiven => ?_⟩
      obtain ⟨part, -, hgiven⟩ := exists_of_bind_eq_ok hgiven
      exact Operation.of_ofParts hgiven
  | replace | update =>
      obtain rfl := Option.some.inj hkind
      refine ⟨_, rfl, rfl, fun given hgiven => ?_⟩
      obtain ⟨target, -, hgiven⟩ := exists_of_bind_eq_ok hgiven
      obtain ⟨document, -, hgiven⟩ := exists_of_bind_eq_ok hgiven
      exact Operation.of_ofParts hgiven
  | _ => cases hkind

/-- A modification is entered exactly if the call succeeds, and without a
collection. -/
theorem Builder.error_eq_none_iff {builder : Builder} {call : Call Query}
    {kind : OperationKind} (hkind : call.operationKind? = some kind) :
    (builder.perform (fun _ => id) call).error = none ↔
      ∃ operation, call.event? id = some (.operate operation) ∧
        operation.kind = kind ∧ operation.collection = none := by
  obtain ⟨result, hresult, hevent, hgiven⟩ := Call.exists_operation? hkind
  rw [perform_of_operation? hresult, hevent]
  cases result with
  | error error =>
      refine iff_of_false (Option.some_ne_none error) ?_
      rintro ⟨operation, ⟨⟩, -⟩
  | ok operation =>
      obtain ⟨hoperation, hcollection⟩ := hgiven operation rfl
      exact iff_of_true rfl ⟨operation, rfl, hoperation, hcollection⟩

namespace Session

/-- All that has to do with the operations of a builder in a run, those that are
there at its beginning first. -/
def operationEvents (session : Session) (number : Nat) (moves : List Move) :
    List OperationEvent :=
  (members (session.query number).operations).map .operate ++
    (session.deeds number moves).filterMap Deed.event?

/-- A run gives the operations of a builder their collections by position. -/
structure BindsByPosition (session : Session) (number : Nat)
    (moves : List Move) : Prop where
  /-- Each operation has the collection that is given last before the next one. -/
  operations : members ((session.run moves).query number).operations =
    OperationEvent.operations (session.operationEvents number moves)
  /-- A call for a modification succeeds exactly if it is an event. -/
  entered : ∀ (caller : Nat) (call : Call Nat) (kind : OperationKind),
    call.operationKind? = some kind →
    ((session.call caller call).2 = none ↔
      ∃ operation, (call.resolve (session.seen caller call)).event? id =
          some (.operate operation) ∧
        operation.kind = kind ∧ operation.collection = none)
  /-- Before the first operation there is nothing to give a collection to. -/
  refused : (∀ operation,
      .operate operation ∉ session.operationEvents number moves) →
    ∀ collection, (session.run moves).call number (.into collection) =
      (session.run moves, some (.value .intoWithoutOperation))
  /-- A query that is in order otherwise is written with one line for each
  operation exactly if all of them have a collection, and else it is refused. -/
  built : ((session.run moves).query number).IsOtherwiseValid →
    (((session.run moves).query number).WritesOperations ↔
        ((session.run moves).query number).HasCollections) ∧
      (¬ ((session.run moves).query number).HasCollections →
        ((session.run moves).query number).compile =
          .error (.configuration .operationWithoutCollection))

theorem call_into_of_empty {session : Session} {number : Nat}
    (hempty : members (session.query number).operations = [])
    (collection : Operand Nat) :
    session.call number (.into collection) =
      (session, some (.value .intoWithoutOperation)) := by
  have hperform : (session.builder number).perform (session.look number)
      (.into collection) =
        { builder := session.builder number,
          error := some (.value .intoWithoutOperation) } := by
    have hinto : Builder.into (session.builder number).record collection =
        .error (.value .intoWithoutOperation) :=
      Builder.into_of_empty hempty collection
    rw [Builder.perform, hinto]
    rfl
  rw [call, hperform]
  exact Prod.ext (setBuilder_builder session number) rfl

theorem into_binds_by_position (history moves : List Move) {number : Nat}
    (hnumber : number < (start.run history).builders.length) :
    (start.run history).BindsByPosition number moves := by
  have hsound : (start.run history).IsSound := IsSound.start.run history
  have hoperations : members (((start.run history).run moves).query
      number).operations = OperationEvent.operations
        ((start.run history).operationEvents number moves) := by
    rw [query_run hsound hnumber, Query.operations_deeds]
    rfl
  exact
    { operations := hoperations
      entered := fun caller call kind hkind => by
        rw [Session.call, perform_eq_resolved]
        exact Builder.error_eq_none_iff
          ((call.operationKind?_resolve _).trans hkind)
      refused := fun hevents collection => call_into_of_empty
        (hoperations.trans (OperationEvent.operations_eq_nil hevents)) collection
      built := Query.writesOperations_iff }

section Example

/-- An order is inserted, and then moved to a second collection.  Between these
calls an upsert is declared with documents and a collection of its own, and another
one is begun.  Last a user is removed, but from no collection. -/
def orderMoves : List Move :=
  [.call 0 (.into (.text "early")),
    .call 0 (.insert (.map [])),
    .addStage 0 (.upsertInsert (.object [])),
    .call 0 (.into (.text "drafts")),
    .callStage 0 (.insert (.map [])),
    .callStage 1 (.update (.map [])),
    .callStage 2 (.into (.text "audit")),
    .addStage 0 (.upsertInsert (.object [])),
    .call 0 (.into (.text "orders")),
    .call 0 (.remove (.text "u"))]

def orderOperations : List (Operation Expr) :=
  [⟨.insert, some (.object []), some (.proper "orders"), none⟩,
    ⟨.remove, none, none, some "u"⟩]

/-- Operations of all kinds, each followed by its collection. -/
def accountMoves : List Move :=
  [.call 0 (.insert (.map [])), .call 0 (.into (.text "accounts")),
    .call 0 (.replace (.text "a")
      (.map [(.text "open", .built (.reference "a.open"))])),
    .call 0 (.into (.text "drafts")), .call 0 (.into (.text "accounts")),
    .call 0 (.update (.text "u") (.map [(.text "visits", .scalar (.int 1))])),
    .call 0 (.into (.text "users")), .call 0 (.remove (.text "s")),
    .call 0 (.into (.text "sessions"))]

theorem orderMoves_bound :
    0 < (start.run []).builders.length ∧
      ((start.run []).BindsByPosition 0 orderMoves ∧
        members (((start.run []).run orderMoves).query 0).operations =
          orderOperations ∧
        (((start.run []).run orderMoves).query 0).IsOtherwiseValid ∧
        (((start.run []).run orderMoves).query 0).compile =
          .error (.configuration .operationWithoutCollection)) ∧
      (start.run []).BindsByPosition 0 accountMoves ∧
        (((start.run []).run accountMoves).query 0).WritesOperations ∧
        ∃ compiled, (((start.run []).run accountMoves).query 0).compile =
            .ok compiled ∧
          compiled.text = "INSERT \x7b\x7d INTO accounts\n" ++
            "REPLACE a WITH \x7b\"open\": a.open\x7d IN accounts\n" ++
            "UPDATE u WITH \x7b\"visits\": @value0\x7d IN users\n" ++
            "REMOVE s IN sessions" := by
  have hnumber : 0 < (start.run []).builders.length := by decide
  refine ⟨hnumber, ?refused, ?written⟩
  case refused =>
    have hbinds := into_binds_by_position [] orderMoves hnumber
    have hoperations : members (((start.run []).run orderMoves).query
        0).operations = orderOperations := hbinds.operations.trans rfl
    have hvalid : (((start.run []).run orderMoves).query 0).IsOtherwiseValid :=
      ⟨rfl, "users", _, rfl⟩
    refine ⟨hbinds, hoperations, hvalid,
      (hbinds.built hvalid).2 fun hcollections => ?_⟩
    have hremoval := hcollections ⟨.remove, none, none, some "u"⟩
    rw [hoperations] at hremoval
    exact absurd (hremoval (by simp [orderOperations])) Bool.false_ne_true
  case written =>
    have hbinds := into_binds_by_position [] accountMoves hnumber
    have hvalid :
        (((start.run []).run accountMoves).query 0).IsOtherwiseValid :=
      ⟨rfl, "users", _, rfl⟩
    refine ⟨hbinds, (hbinds.built hvalid).1.2 ?_, _, rfl, rfl⟩
    decide

end Example

end Session

end ArangoQuery
