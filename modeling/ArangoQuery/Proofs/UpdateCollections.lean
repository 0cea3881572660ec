import ArangoQuery.Proofs.AcceptedSnapshots
import ArangoQuery.Proofs.DeclaredLoops

/-!
# The collections of updates

An update that is given no collection takes that of the query, which is the last
plain collection that the main loop has been given (`Builder.mainSources`).  It
takes it when it is called, not when the query is built.  So it follows the main
loop if the loop is given its source before and no other one after
(`Builder.default_collection_of_update`); what the loop is given later does not
reach it.
-/

namespace ArangoQuery

open Record (members)
open Template (exists_of_fills_text fillsEach_append_iff)

/-! ## Sources of the main loop -/

/-- The collection that a loop iterates, if that is what it iterates. -/
def Slot.collection? : Option (Slot (Source Expr)) → Option String
  | some (.proper (.text name)) => if startsWithAt name then none else some name
  | _ => none

namespace ChainStep

/-- Does the main loop take the source of a step?  A nested loop that is open, or
that the step opens, takes it instead. -/
def reachesMain (builder : Builder) : ChainStep → Bool
  | .call (.join ..) =>
      builder.openJoin.isNone && !Slot.isPresentText builder.record.loop
  | _ => builder.openJoin.isNone

/-- The source that a step gives to the main loop. -/
def mainSource? (look : Nat → Query) (builder : Builder) (step : ChainStep) :
    Option (Option (Slot (Source Expr))) :=
  if step.reachesMain builder then step.given? look else none

def isUpdate : ChainStep → Bool
  | .call (.updateWith ..) => true
  | _ => false

end ChainStep

namespace Builder

variable {look : Nat → Query} {builder after : Builder} {step : ChainStep}

/-- What a chain gives to the main loop, in order. -/
def mainSources (look : Nat → Query) :
    Builder → List ChainStep → List (Option (Slot (Source Expr)))
  | _, [] => []
  | builder, step :: rest =>
      (step.mainSource? look builder).toList ++
        (step.perform look builder).elim [] fun between =>
          mainSources look between rest

/-- The collection of the query after a chain: the last one that the main loop has
been given, or the one that the query was begun with. -/
def collectionAfter (look : Nat → Query) (start : Builder)
    (steps : List ChainStep) : Option String :=
  ((mainSources look start steps).filterMap Slot.collection?).getLast?.or
    start.record.collection

/-! ## What one step does -/

/-- A tagged source is a range or a graph. -/
theorem collection?_of_checkTagged {sub : Value → Checked Expr} {value : Value}
    {source : Source Expr}
    (htagged : Source.checkTagged sub value = .ok source) :
    Slot.collection? (some (.proper source)) = none := by
  unfold Source.checkTagged at htagged
  split at htagged
  · obtain ⟨members, -, hmembers, -⟩ := exists_of_model htagged
    clear htagged
    revert source
    simp only [Checked.forall_seq, Checked.forall_map]
    intros
    rfl
  · obtain ⟨members, -, hmembers, -⟩ := exists_of_model htagged
    clear htagged
    revert source
    simp only [Checked.forall_seq, Checked.forall_map]
    intros
    rfl
  · cases htagged

/-- A value is iterated as a collection only if it is a text. -/
theorem collection?_source? (value : Value) :
    Slot.collection? (Slot.source? value) =
      match value with
      | .text name => if startsWithAt name then none else some name
      | _ => none := by
  cases value with
  | scalar value => cases value <;> rfl
  | model name fields =>
      rw [Slot.source?, Slot.ofValue?, Value.asSource?]
      swap
      · nofun
      cases hsource : Source.checkTagged
        (Expr.checkWithin (Value.model name fields).depth)
        (Value.model name fields) with
      | rejected faults => rfl
      | ok source => exact collection?_of_checkTagged hsource
  | _ => rfl

/-- Opening a loop decides who takes the next source, and nothing else here. -/
theorem mainLoop_of_openLoop {variableName : Operand Nat}
    (hopen : builder.openLoop variableName = .ok after) :
    after.record.collection = builder.record.collection ∧
      after.record.source = builder.record.source ∧
      after.record.updates = builder.record.updates ∧
      after.openJoin.isNone =
        (builder.openJoin.isNone &&
          !Slot.isPresentText builder.record.loop) := by
  obtain ⟨name, -, ⟨hpresent, loop, -, rfl⟩ | ⟨habsent, rfl⟩⟩ :=
    exists_of_openLoop hopen
  · exact ⟨rfl, rfl, rfl, by simp [hpresent]⟩
  · exact ⟨rfl, rfl, rfl, by simp [habsent]⟩

theorem mainLoop_of_setSource (builder : Builder)
    (source : Option (Slot (Source Expr))) :
    (builder.setSource source).record.collection = builder.record.collection ∧
      (builder.setSource source).record.source =
        (if builder.openJoin.isNone then source else builder.record.source) ∧
      (builder.setSource source).record.updates = builder.record.updates := by
  unfold setSource
  split
  · rename_i hopen
    simp [hopen]
  · rename_i hopen
    simp [hopen]

/-- A source that the main loop takes is noted before it is set. -/
theorem iterate_eq (builder : Builder) (source : Operand Nat) :
    builder.iterate source = (sourceValue source).map fun value =>
      setSource
        { builder with
          record :=
            { builder.record with
              collection :=
                if builder.openJoin.isNone then
                  (Slot.collection? (Slot.source? value)).or
                    builder.record.collection
                else builder.record.collection } }
        (Slot.source? value) := by
  rw [iterate]
  cases sourceValue source with
  | error error => rfl
  | ok value =>
      obtain ⟨record, openJoin⟩ := builder
      rw [Except.map, collection?_source?]
      cases openJoin with
      | some position => rfl
      | none =>
          cases value with
          | scalar value =>
              cases value with
              | text name =>
                  cases hat : startsWithAt name <;> simp [hat]
              | _ => rfl
          | _ => rfl

theorem mainLoop_of_iterate {source : Operand Nat}
    (hiterate : builder.iterate source = .ok after) :
    ∃ value, sourceValue source = .ok value ∧
      after.record.collection =
        (if builder.openJoin.isNone then
          (Slot.collection? (Slot.source? value)).or builder.record.collection
        else builder.record.collection) ∧
      after.record.source =
        (if builder.openJoin.isNone then Slot.source? value
        else builder.record.source) ∧
      after.record.updates = builder.record.updates := by
  rw [iterate_eq] at hiterate
  cases hvalue : sourceValue source with
  | error error => rw [hvalue] at hiterate; cases hiterate
  | ok value =>
      rw [hvalue] at hiterate
      obtain rfl := Except.ok.inj hiterate
      exact ⟨value, rfl, mainLoop_of_setSource _ _⟩

/-- An update is added behind the others.  Without a collection of its own it
takes that of the query. -/
theorem exists_of_updateWith {record : Query}
    {document updates collection : Operand Nat} {oldReference : Bool}
    (hupdate : updateWith look builder.record document updates collection
      oldReference = .ok record) :
    ∃ update, record =
        { builder.record with
          updates := Record.append builder.record.updates update } ∧
      (collection.raw.isTrue = false →
        update.collection = builder.record.collection) := by
  rw [updateWith_eq] at hupdate
  obtain ⟨addition, haddition, rfl⟩ := exists_of_map_eq_ok hupdate
  obtain ⟨update, hclause, rfl⟩ := exists_of_map_eq_ok haddition
  obtain ⟨variableName, -, hclause⟩ := exists_of_bind_eq_ok hclause
  obtain ⟨path, -, hclause⟩ := exists_of_bind_eq_ok hclause
  obtain ⟨fields, -, hchecked⟩ := exists_of_bind_eq_ok hclause
  refine ⟨update, rfl, fun hcollection => ?_⟩
  have htext : ∀ target,
      Check.nullable Check.text (targetCollection builder.record collection) =
        .ok target → target = builder.record.collection := by
    intro target htarget
    rw [targetCollection, hcollection] at htarget
    cases hquery : builder.record.collection with
    | none => rw [hquery] at htarget; exact (Checked.ok.inj htarget).symm
    | some name => rw [hquery] at htarget; exact (Checked.ok.inj htarget).symm
  obtain ⟨withTarget, loop, htargeted, -, rfl⟩ :=
    Checked.exists_of_seq (Checked.orInvalid_eq_ok hchecked)
  obtain ⟨withFields, target, hfields, htarget, rfl⟩ :=
    Checked.exists_of_seq htargeted
  obtain ⟨fields, -, rfl⟩ := Checked.exists_of_map hfields
  exact htext target htarget

theorem mainLoop_of_search {view : Operand Nat}
    {conditions : List (Operand Nat)} {options : Operand Nat}
    (hafter : (builder.perform (fun _ => look)
      (.search view conditions options)).success? = some after) :
    after.record.collection = builder.record.collection ∧
      after.record.updates = builder.record.updates := by
  obtain ⟨claimed, clause, hclaim, -, rfl⟩ := exists_of_search hafter
  obtain ⟨-, rfl⟩ | ⟨-, rfl⟩ := of_claimView hclaim
  · exact ⟨rfl, rfl⟩
  · exact ⟨rfl, rfl⟩

/-- What the main loop is given is its source, and the collection of the query if
it is one.  A search could still claim the source of a main loop that has none. -/
structure Follows (look : Nat → Query) (builder : Builder) (step : ChainStep)
    (after : Builder) : Prop where
  collection : after.record.collection =
    ((step.mainSource? look builder).bind Slot.collection?).or
      builder.record.collection
  source : ∀ slot,
    (step.mainSource? look builder).getD builder.record.source = some slot →
      after.record.source = some slot
  updates : step.isUpdate = false →
    after.record.updates = builder.record.updates

theorem follows_of_none (hgiven : step.given? look = none)
    (hcollection : after.record.collection = builder.record.collection)
    (hsource : builder.record.source.isSome = true →
      after.record.source = builder.record.source)
    (hupdates : step.isUpdate = false →
      after.record.updates = builder.record.updates) :
    Follows look builder step after := by
  have hmain : step.mainSource? look builder = none := by
    rw [ChainStep.mainSource?, hgiven, ite_self]
  refine ⟨by rw [hmain]; exact hcollection, fun slot hslot => ?_, hupdates⟩
  rw [hmain, Option.getD_none] at hslot
  rw [hsource (by rw [hslot]; rfl), hslot]

theorem follows_of_some {source : Option (Slot (Source Expr))}
    (hgiven : step.given? look = some source)
    (hcollection : after.record.collection =
      if step.reachesMain builder then
        (Slot.collection? source).or builder.record.collection
      else builder.record.collection)
    (hsource : after.record.source =
      if step.reachesMain builder then source else builder.record.source)
    (hupdates : after.record.updates = builder.record.updates) :
    Follows look builder step after := by
  refine ⟨?_, ?_, fun _ => hupdates⟩
  · rw [ChainStep.mainSource?, hgiven, hcollection]
    split <;> rfl
  · rw [ChainStep.mainSource?, hgiven, hsource]
    split <;> exact fun _ hslot => hslot

theorem follows_of_step (hstep : step.perform look builder = some after) :
    Follows look builder step after := by
  have hothers (hloops : (Family.ofStep step).contains .loops = false)
      (hgiven : step.given? look = none) : Follows look builder step after := by
    have hview : Family.view .loops after = Family.view .loops builder :=
      (Family.respects_step look step).of_not_mem hloops hstep
    have hcollection : (Family.view .loops after).record.collection =
        (Family.view .loops builder).record.collection := by rw [hview]
    have hsource : (Family.view .loops after).record.source =
        (Family.view .loops builder).record.source := by rw [hview]
    have hupdates : (Family.view .loops after).record.updates =
        (Family.view .loops builder).record.updates := by rw [hview]
    exact follows_of_none hgiven hcollection (fun _ => hsource)
      fun _ => hupdates
  cases step with
  | pruneWith condition => exact hothers rfl rfl
  | finish stage request =>
      apply hothers _ rfl
      cases stage <;> cases request <;> rfl
  | call request =>
      cases request with
      | loop variableName =>
          obtain ⟨hcollection, hsource, hupdates, -⟩ :=
            mainLoop_of_openLoop (of_success?_attempt hstep)
          exact follows_of_none rfl hcollection (fun _ => hsource)
            fun _ => hupdates
      | source source =>
          obtain ⟨value, hvalue, hcollection, hsource, hupdates⟩ :=
            mainLoop_of_iterate (of_success?_attempt hstep)
          refine follows_of_some ?_ hcollection hsource hupdates
          rw [ChainStep.given?, hvalue]
          rfl
      | join collection variableName =>
          obtain ⟨opened, hopen, hiterate⟩ := of_success?_andThen hstep
          obtain ⟨hkeptCollection, hkeptSource, hkeptUpdates, hreaches⟩ :=
            mainLoop_of_openLoop (of_success?_attempt hopen)
          obtain ⟨value, hvalue, hcollection, hsource, hupdates⟩ :=
            mainLoop_of_iterate (of_success?_attempt hiterate)
          rw [hreaches, hkeptCollection] at hcollection
          rw [hreaches, hkeptSource] at hsource
          refine follows_of_some ?_ hcollection hsource
            (hupdates.trans hkeptUpdates)
          rw [ChainStep.given?, hvalue]
          rfl
      | graph graph direction vertex minDepth maxDepth options =>
          obtain ⟨traversal, htraversal, rfl⟩ := exists_of_graph hstep
          obtain ⟨hcollection, hsource, hupdates⟩ :=
            mainLoop_of_setSource builder (some (.proper (.graph traversal)))
          refine follows_of_some ?_ ?_ hsource hupdates
          · rw [ChainStep.given?, htraversal]
            rfl
          · rw [hcollection]
            exact (ite_self _).symm
      | updateWith document updates collection oldReference =>
          obtain ⟨record, hupdate, rfl⟩ := of_success?_onRecord hstep
          obtain ⟨update, rfl, -⟩ := exists_of_updateWith hupdate
          exact follows_of_none rfl rfl (fun _ => rfl) fun hother => by
            cases hother
      | search view conditions options =>
          obtain ⟨-, hkept⟩ := loopState_of_search hstep
          obtain ⟨hcollection, hupdates⟩ := mainLoop_of_search hstep
          exact follows_of_none rfl hcollection hkept fun _ => hupdates
      | _ => exact hothers rfl rfl

/-- A step adds an update or leaves the updates alone. -/
theorem exists_updates_of_step (hstep : step.perform look builder = some after) :
    ∃ added, members after.record.updates =
        members builder.record.updates ++ added ∧
      added.length = [step].countP ChainStep.isUpdate := by
  cases hupdate : step.isUpdate with
  | false =>
      refine ⟨[], ?_, by simp [hupdate]⟩
      rw [(follows_of_step hstep).updates hupdate, List.append_nil]
  | true =>
      unfold ChainStep.isUpdate at hupdate
      split at hupdate
      · obtain ⟨record, hrecord, rfl⟩ := of_success?_onRecord hstep
        obtain ⟨update, rfl, -⟩ := exists_of_updateWith hrecord
        exact ⟨[update], rfl, rfl⟩
      · cases hupdate

/-! ## What a chain does -/

section Chains

variable {steps : List ChainStep}

theorem collection_of_runChain (hrun : runChain look builder steps = some after) :
    after.record.collection = collectionAfter look builder steps := by
  induction steps generalizing builder with
  | nil => obtain rfl := Option.some.inj hrun; rfl
  | cons step rest hrest =>
      obtain ⟨between, hstep, hrun⟩ := Option.bind_eq_some_iff.1 hrun
      rw [hrest hrun, collectionAfter, collectionAfter, mainSources, hstep,
        (follows_of_step hstep).collection, Option.elim_some,
        List.filterMap_append, List.getLast?_append, Option.or_assoc]
      apply congrArg
      cases step.mainSource? look builder with
      | none => rfl
      | some source =>
          cases hsource : Slot.collection? source <;> simp [hsource]

/-- In the end the main loop iterates what it was given last. -/
theorem source_of_runChain {slot : Slot (Source Expr)}
    (hrun : runChain look builder steps = some after)
    (hlast : (mainSources look builder steps).getLast?.getD
      builder.record.source = some slot) :
    after.record.source = some slot := by
  induction steps generalizing builder with
  | nil => obtain rfl := Option.some.inj hrun; exact hlast
  | cons step rest hrest =>
      obtain ⟨between, hstep, hrun⟩ := Option.bind_eq_some_iff.1 hrun
      apply hrest hrun
      rw [mainSources, hstep, Option.elim_some, List.getLast?_append] at hlast
      cases hmain : (mainSources look between rest).getLast? with
      | some source => rw [hmain] at hlast; exact hlast
      | none =>
          apply (follows_of_step hstep).source
          rw [hmain] at hlast
          cases hgiven : step.mainSource? look builder <;>
            simpa [hgiven] using hlast

theorem exists_updates_of_runChain
    (hrun : runChain look builder steps = some after) :
    ∃ added, members after.record.updates =
        members builder.record.updates ++ added ∧
      added.length = steps.countP ChainStep.isUpdate := by
  induction steps generalizing builder with
  | nil => obtain rfl := Option.some.inj hrun; exact ⟨[], by simp, rfl⟩
  | cons step rest hrest =>
      obtain ⟨between, hstep, hrun⟩ := Option.bind_eq_some_iff.1 hrun
      obtain ⟨first, hfirst, hfirstLength⟩ := exists_updates_of_step hstep
      obtain ⟨others, hothers, hothersLength⟩ := hrest hrun
      refine ⟨first ++ others, ?_, ?_⟩
      · rw [hothers, hfirst, List.append_assoc]
      · rw [List.length_append, hfirstLength, hothersLength,
          ← List.countP_append]
        rfl

end Chains

end Builder

/-! ## The lines of an update -/

/-- An update with a collection names it in the third of its lines. -/
theorem Query.Writes.exists_update_lines {query : Query}
    {compiled : CompiledQuery} {linesOf : ClauseKind → List String}
    (hwrites : query.Writes compiled linesOf) {left right : List (Update Expr)}
    {update : Update Expr} {name : String}
    (hupdates : members query.updates = left ++ update :: right)
    (hname : update.collection = some name) :
    ∃ front document fields back, linesOf .update =
      front ++ ("UPDATE " ++ document) :: ("WITH " ++ fields) ::
        ("IN " ++ name) :: back := by
  obtain ⟨before, after, hfills⟩ := hwrites.fillsEach_kind .update
  have hlines : query.lineTemplates.linesOf .update =
      (left.flatMap fun update =>
          (update.map Expr.template).lines query.result.isSome) ++
        ((update.map Expr.template).lines query.result.isSome ++
          right.flatMap fun update =>
            (update.map Expr.template).lines query.result.isSome) := by
    simp [Record.linesOf, Query.lineTemplates, Record.map, Record.members_map,
      hupdates, List.flatMap_map]
  rw [hlines, fillsEach_append_iff] at hfills
  obtain ⟨front, rest, next, -, hupdate, htexts⟩ := hfills
  simp only [Update.lines, Update.map, hname, Option.getD_some,
    List.cons_append] at hupdate
  cases hupdate with
  | cons hdocument hupdate =>
      cases hupdate with
      | cons hfields hupdate =>
          cases hupdate with
          | cons hcollection hback =>
              obtain ⟨document, rfl⟩ := exists_of_fills_text hdocument
              obtain ⟨fields, rfl⟩ := exists_of_fills_text hfields
              cases hcollection with
              | text _ run =>
                  cases run
                  exact ⟨front, document, fields, _, by simpa using htexts⟩

namespace Builder

variable {look : Nat → Query}

theorem updates_of_ofInitial {initial : Operand Nat} {start : Builder}
    (hstart : ofInitial look initial = .ok start) :
    members start.record.updates = [] := by
  obtain ⟨collection, rfl⟩ | ⟨result, -, rfl⟩ := exists_of_ofInitial hstart
  · rfl
  · rfl

/-- A query with an update that has no collection does not compile. -/
theorem compile_of_missing_collection {query : Query} {update : Update Expr}
    (hraw : query.raw = none) (hupdate : update ∈ members query.updates)
    (hmissing : update.collection.getD "" = "") :
    ∃ fault, query.compile = .error (.configuration fault) := by
  apply Query.compile_of_fault hraw
  intro hfaults
  have hupdates : query.modificationFaults = [] := by
    simp only [Query.faults, List.append_eq_nil_iff] at hfaults
    tauto
  obtain ⟨-, hupdates⟩ := List.append_eq_nil_iff.1 hupdates
  split at hupdates
  · rename_i hall
    simpa [hmissing] using List.all_eq_true.1 hall update hupdate
  · cases hupdates

/-- An update that is given no collection takes the one that the main loop was
given last before the call, or else the one that the query was begun with.
Whatever the main loop is given afterwards leaves it alone, so it names what the
main loop iterates in the end if that was given before.  Without any collection
the query does not compile. -/
theorem default_collection_of_update {initial : Operand Nat}
    {start builder : Builder} {before after : List ChainStep}
    {document updates collection : Operand Nat} {oldReference : Bool}
    (hstart : ofInitial look initial = .ok start)
    (hcollection : collection.raw.isTrue = false)
    {chain : List ChainStep}
    (hchain : chain = before ++
      .call (.updateWith document updates collection oldReference) :: after)
    (hrun : runChain look start chain = some builder) :
    (∀ slot, (mainSources look start chain).getLast? = some (some slot) →
      builder.record.source = some slot) ∧
    ∃ update, (members builder.record.updates)[before.countP
          ChainStep.isUpdate]? = some update ∧
      update.collection = collectionAfter look start before ∧
      (∀ source name, (mainSources look start chain).getLast? = some source →
        Slot.collection? source = some name →
        mainSources look start chain = mainSources look start before →
        update.collection = some name) ∧
      (update.collection.getD "" = "" →
        ∃ fault, builder.record.compile = .error (.configuration fault)) ∧
      ∀ compiled, builder.record.compile = .ok compiled →
        ∃ linesOf name front document fields back,
          builder.record.Writes compiled linesOf ∧
          update.collection = some name ∧
          linesOf .update = front ++ ("UPDATE " ++ document) ::
            ("WITH " ++ fields) :: ("IN " ++ name) :: back := by
  have hraw : builder.record.raw = none :=
    raw_of_runChain hrun (of_ofInitial hstart).2.1
  refine ⟨fun slot hslot => source_of_runChain hrun (by rw [hslot]; rfl), ?_⟩
  subst hchain
  obtain ⟨between, hbefore, hrest⟩ :=
    Option.bind_eq_some_iff.1 (runChain_append look start before _ ▸ hrun)
  obtain ⟨next, hcall, hafter⟩ := Option.bind_eq_some_iff.1 hrest
  obtain ⟨record, hrecord, rfl⟩ := of_success?_onRecord hcall
  obtain ⟨update, rfl, hdefault⟩ := exists_of_updateWith hrecord
  have hnamed : update.collection = collectionAfter look start before := by
    rw [hdefault hcollection, collection_of_runChain hbefore]
  -- The updates before this one are those of the chain before it.
  obtain ⟨earlier, hearlier, hlength⟩ := exists_updates_of_runChain hbefore
  obtain ⟨later, hlater, -⟩ := exists_updates_of_runChain hafter
  rw [updates_of_ofInitial hstart, List.nil_append] at hearlier
  have hupdates : members builder.record.updates =
      earlier ++ update :: later := by
    rw [hlater]
    show members between.record.updates ++ [update] ++ later = _
    rw [hearlier, List.append_assoc]
    rfl
  have hmem : update ∈ members builder.record.updates := by
    rw [hupdates]
    exact List.mem_append_right earlier List.mem_cons_self
  refine ⟨update, ?_, hnamed, ?_, compile_of_missing_collection hraw hmem, ?_⟩
  · rw [hupdates, ← hlength, List.getElem?_append_right le_rfl, Nat.sub_self]
    rfl
  · intro source name hlast hname hsources
    rw [hsources] at hlast
    obtain ⟨init, hinit⟩ := List.getLast?_eq_some_iff.1 hlast
    rw [hnamed, collectionAfter, hinit, List.filterMap_append]
    simp [hname]
  · intro compiled hcompile
    obtain ⟨linesOf, hwrites⟩ := Query.exists_writes hraw hcompile
    cases hcase : update.collection with
    | none =>
        obtain ⟨fault, hfault⟩ :=
          compile_of_missing_collection hraw hmem (by rw [hcase]; rfl)
        rw [hfault] at hcompile
        cases hcompile
    | some name =>
        obtain ⟨front, document, fields, back, hlines⟩ :=
          hwrites.exists_update_lines hupdates hcase
        exact ⟨linesOf, name, front, document, fields, back, hwrites, rfl,
          hlines⟩

section Example

/-- An update of a user without a collection. -/
def activation : ChainStep :=
  .call (.updateWith (.text "u")
    (.map [(.text "active", .scalar (.bool true))]) .null false)

/-- The loop has its source when the update is called. -/
def activatedUsers : List ChainStep :=
  [.call (.loop (.text "u")), .call (.source (.text "users")), activation,
    .call (.filter (.built (.reference "u.verified")))]

theorem activatedUsers_follow_loop :
    ∃ builder compiled update,
      runChain (fun _ => {}) {} activatedUsers = some builder ∧
      builder.record.compile = .ok compiled ∧
      (members builder.record.updates)[0]? = some update ∧
      update.collection = some "users" ∧
      ∃ linesOf front document fields back,
        builder.record.Writes compiled linesOf ∧
        linesOf .update = front ++ ("UPDATE " ++ document) ::
          ("WITH " ++ fields) :: "IN users" :: back := by
  have hstart : ofInitial (fun _ => {}) (.null : Operand Nat) = .ok {} := rfl
  obtain ⟨builder, hrun⟩ : ∃ builder,
      runChain (fun _ => {}) {} activatedUsers = some builder := ⟨_, rfl⟩
  have hdefault : (.null : Operand Nat).raw.isTrue = false := rfl
  obtain ⟨-, update, hupdate, -, hfollows, -, hlines⟩ :=
    default_collection_of_update hstart hdefault
      (show activatedUsers = activatedUsers.take 2 ++
        activation :: activatedUsers.drop 3 from rfl) hrun
  have hcollection := hfollows _ "users" rfl rfl rfl
  obtain rfl := Option.some.inj hrun
  obtain ⟨linesOf, name, front, document, fields, back, hwrites, hname,
    hupdateLines⟩ := hlines _ rfl
  obtain rfl := Option.some.inj (hname.symm.trans hcollection)
  exact ⟨_, _, update, rfl, rfl, hupdate, hcollection, linesOf, front, document,
    fields, back, hwrites, hupdateLines⟩

/-- Called before the loop has its source the update has no collection, and called
between two sources it keeps the first one. -/
theorem default_collection_not_always_followed :
    (∃ builder,
      runChain (fun _ => {}) {}
          [.call (.loop (.text "u")), activation,
            .call (.source (.text "users"))] = some builder ∧
        builder.record.source = some (.proper (.text "users")) ∧
        builder.record.compile =
          .error (.configuration .updateWithoutCollection)) ∧
      ∃ builder compiled,
        runChain (fun _ => {}) {}
            [.call (.loop (.text "u")), .call (.source (.text "users")),
              activation, .call (.source (.text "@@people"))] = some builder ∧
          builder.record.source = some (.proper (.text "@@people")) ∧
          builder.record.compile = .ok compiled ∧
          compiled.text = "FOR u IN @@people\nUPDATE u\nWITH " ++
            "\x7b\"active\": @value0\x7d\nIN users" :=
  ⟨⟨_, rfl, rfl, rfl⟩, _, _, rfl, rfl, rfl, rfl⟩

end Example

end Builder

end ArangoQuery
