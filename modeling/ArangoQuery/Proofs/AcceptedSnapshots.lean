import ArangoQuery.Diagnostics.Build
import ArangoQuery.Proofs.Restorable
import ArangoQuery.Proofs.SnapshotSchema
import ArangoQuery.Proofs.TypedCalls

/-!
# Snapshots that are accepted

The check of a typed record reads its fields one by one and refuses every other
key.  So when it succeeds, the positions of its schema hold what the check of
expressions has accepted, one for each part of the result (`Collects`), and every
key is the name of a field (`Members.key_of_unknown`).  Level by level, an accepted
snapshot spells the expressions of the query that is read from it
(`Query.accepted_expressions_are_nodes`).
-/

namespace ArangoQuery

open Check
open Record (members)

/-! ## Fields and keys -/

theorem Scalar.eq_of_same_text {key : Scalar} {name : String}
    (hsame : Scalar.same key (.text name) = true) : key = .text name := by
  cases key with
  | text other => exact congrArg Scalar.text (eq_of_beq hsame)
  | _ => simp [Scalar.same, Scalar.toInt?] at hsame

theorem mem_of_lookupText {α : Type} {name : String}
    {entries : List (Scalar × α)} {value : α}
    (hfound : lookupEntry Scalar.same (.text name) entries = some value) :
    (Scalar.text name, value) ∈ entries := by
  obtain ⟨key, hsame, hmem⟩ := exists_of_lookupEntry hfound
  rwa [Scalar.eq_of_same_text hsame] at hmem

namespace Members

variable {members : Members} {labels : List Label}

/-- The key under which a field is found. -/
def keyOf (members : Members) (label : Label) : String :=
  if (lookupEntry Scalar.same (.text label.snapshot) members).isSome then
    label.snapshot
  else label.own

theorem keyOf_mem {label : Label} (hfound : (members.find? label).isSome) :
    Scalar.text (members.keyOf label) ∈ members.map Prod.fst := by
  unfold find? at hfound
  unfold keyOf
  cases hsnapshot : lookupEntry Scalar.same (.text label.snapshot) members with
  | some value => exact List.mem_map_of_mem (mem_of_lookupText hsnapshot)
  | none =>
      rw [hsnapshot] at hfound
      obtain ⟨value, hown⟩ := Option.isSome_iff_exists.1 hfound
      exact List.mem_map_of_mem (mem_of_lookupText hown)

theorem keyOf_eq (members : Members) (label : Label) :
    members.keyOf label = label.snapshot ∨ members.keyOf label = label.own := by
  unfold keyOf
  split
  · exact .inl rfl
  · exact .inr rfl

/-- No two fields are found under one key. -/
theorem keyOf_inj (hapart : Label.AreApart labels)
    (howns : (labels.map Label.own).Nodup) {left right : Label}
    (hleft : left ∈ labels) (hright : right ∈ labels)
    (hkeys : members.keyOf left = members.keyOf right) : left = right := by
  obtain ⟨hsnapshots, hdifferent⟩ := hapart
  -- The own name of one field may only be the snapshot name of itself.
  have hcrossed {label other : Label} (hlabel : label ∈ labels)
      (hother : other ∈ labels) (heq : label.own = other.snapshot) :
      label = other := by
    obtain hsame | hnot := hdifferent label hlabel
    · exact List.inj_on_of_nodup_map hsnapshots hlabel hother
        (hsame.symm.trans heq)
    · exact absurd (heq ▸ List.mem_map_of_mem hother) hnot
  obtain hl | hl := members.keyOf_eq left <;>
    obtain hr | hr := members.keyOf_eq right <;> rw [hl, hr] at hkeys
  · exact List.inj_on_of_nodup_map hsnapshots hleft hright hkeys
  · exact (hcrossed hright hleft hkeys.symm).symm
  · exact hcrossed hleft hright hkeys
  · exact List.inj_on_of_nodup_map howns hleft hright hkeys

/-- If no member is left over, every key is the name of a field. -/
theorem key_of_unknown (hapart : Label.AreApart labels)
    (howns : (labels.map Label.own).Nodup)
    (hunknown : members.unknown labels = 0) :
    ∀ member ∈ members, ∃ label ∈ labels,
      member.1 = .text label.snapshot ∨ member.1 = .text label.own := by
  let found := labels.filter fun label => (members.find? label).isSome
  let keys := found.map fun label => Scalar.text (members.keyOf label)
  have hsub : keys ⊆ members.map Prod.fst := by
    intro key hkey
    obtain ⟨label, hlabel, rfl⟩ := List.mem_map.1 hkey
    exact keyOf_mem (List.mem_filter.1 hlabel).2
  have hnodup : keys.Nodup := by
    apply List.Nodup.map_on
    · intro left hleft right hright hkeys
      exact keyOf_inj hapart howns (List.mem_filter.1 hleft).1
        (List.mem_filter.1 hright).1 (Scalar.text.inj hkeys)
    · exact (List.Nodup.of_map _ howns).filter _
  have hlength : (members.map Prod.fst).length ≤ keys.length := by
    rw [List.length_map, List.length_map]
    exact Nat.le_of_sub_eq_zero hunknown
  have hperm : keys.Perm (members.map Prod.fst) :=
    (List.subperm_of_subset hnodup hsub).perm_of_length_le hlength
  intro member hmember
  obtain ⟨label, hlabel, hkey⟩ :=
    List.mem_map.1 (hperm.mem_iff.2 (List.mem_map_of_mem hmember))
  refine ⟨label, (List.mem_filter.1 hlabel).1, ?_⟩
  rw [← hkey]
  exact (members.keyOf_eq label).imp (congrArg _) (congrArg _)

end Members

/-! ## What a check collects -/

/-- What holds of all results of two checks in a row. -/
theorem Checked.forall_seq {α β : Type} {function : Checked (α → β)}
    {argument : Checked α} {motive : β → Prop} :
    (∀ result, function <*> argument = .ok result → motive result) ↔
      ∀ f, function = .ok f → ∀ value, argument = .ok value →
        motive (f value) := by
  constructor
  · rintro hresults f rfl value rfl
    exact hresults _ rfl
  · intro hparts result hresult
    obtain ⟨f, value, hf, hvalue, rfl⟩ := exists_of_seq hresult
    exact hparts f hf value hvalue

theorem Checked.forall_map {α β : Type} {f : α → β} {checked : Checked α}
    {motive : β → Prop} :
    (∀ result, f <$> checked = .ok result → motive result) ↔
      ∀ value, checked = .ok value → motive (f value) := by
  constructor
  · rintro hresults value rfl
    exact hresults _ rfl
  · intro hvalues result hresult
    obtain ⟨value, hvalue, rfl⟩ := exists_of_map hresult
    exact hvalues value hvalue

section Entries

variable {α β : Type} {tells : α → β → Prop}

/-- Two entries of one text key, the value of one telling that of the other. -/
def TellsEntry (tells : α → β → Prop) (entry : Scalar × α)
    (told : String × β) : Prop :=
  entry.1 = .text told.1 ∧ tells entry.2 told.2

theorem TellsEntry.putEntry {left : List (Scalar × α)}
    {right : List (String × β)} {entry : Scalar × α} {told : String × β}
    (hentries : List.Forall₂ (TellsEntry tells) left right)
    (hentry : TellsEntry tells entry told) :
    List.Forall₂ (TellsEntry tells)
      (ArangoQuery.putEntry Scalar.same entry.1 entry.2 left)
      (ArangoQuery.putEntry (· == ·) told.1 told.2 right) := by
  obtain ⟨key, value⟩ := entry
  obtain ⟨name, result⟩ := told
  obtain ⟨rfl, hvalue⟩ := hentry
  induction hentries with
  | nil => exact .cons ⟨rfl, hvalue⟩ .nil
  | @cons first other left right hfirst hrest hput =>
      obtain ⟨firstKey, firstValue⟩ := first
      obtain ⟨firstName, firstResult⟩ := other
      obtain ⟨rfl, hfirst⟩ := hfirst
      have hsame : Scalar.same (.text firstName) (.text name) =
          (firstName == name) := rfl
      rw [ArangoQuery.putEntry, ArangoQuery.putEntry, hsame]
      split
      · exact .cons ⟨rfl, hvalue⟩ hrest
      · exact .cons ⟨rfl, hfirst⟩ hput

/-- Entries of text keys are entered alike under both kinds of keys. -/
theorem TellsEntry.entriesOf {left : List (Scalar × α)}
    {right : List (String × β)}
    (hentries : List.Forall₂ (TellsEntry tells) left right) :
    List.Forall₂ (TellsEntry tells)
      (ArangoQuery.entriesOf Scalar.same left)
      (ArangoQuery.entriesOf (· == ·) right) := by
  have hfold {done : List (Scalar × α)} {told : List (String × β)}
      (hdone : List.Forall₂ (TellsEntry tells) done told) :
      List.Forall₂ (TellsEntry tells)
        (left.foldl (fun entries entry =>
          ArangoQuery.putEntry Scalar.same entry.1 entry.2 entries) done)
        (right.foldl (fun entries entry =>
          ArangoQuery.putEntry (· == ·) entry.1 entry.2 entries) told) := by
    induction hentries generalizing done told with
    | nil => exact hdone
    | cons hentry _ hrest => exact hrest (putEntry hdone hentry)
  exact hfold .nil

end Entries

section Collecting

variable {ε α : Type} {tells : Value → ε → Prop} {shape : Shape}
variable {check : Value → Checked α} {parts : α → List ε}

/-- Of what a check accepts, the positions tell the parts of the result, one for
one. -/
def Collects (tells : Value → ε → Prop) (shape : Shape)
    (check : Value → Checked α) (parts : α → List ε) : Prop :=
  ∀ value result, check value = .ok result →
    List.Forall₂ tells (shape.positions value) (parts result)

namespace Collects

theorem listOf (hcheck : Collects tells shape check parts) :
    Collects tells (.list shape) (Check.listOf check) fun items =>
      items.flatMap parts := by
  intro value results hresults
  have hitems : List.Forall₂ (fun value result => check value = .ok result)
      value.itemsOf results := by
    cases value with
    | list items => exact Checked.forall₂_of_traverse hresults
    | tuple items => exact Checked.forall₂_of_traverse hresults
    | _ => cases hresults
  exact List.rel_flatMap hitems fun value result => hcheck value result

theorem nullable (hcheck : Collects tells shape check parts)
    {someParts : Option α → List ε} (hnone : someParts none = [])
    (hsome : ∀ result, someParts (some result) = parts result) :
    Collects tells (.optional shape) (Check.nullable check) someParts := by
  intro value result hresult
  rw [Shape.positions]
  cases hnull : value.isNull with
  | true =>
      have hvalue : value = .null := by
        unfold Value.isNull at hnull
        split at hnull
        · rfl
        · cases hnull
      subst hvalue
      obtain rfl := Checked.ok.inj hresult
      rw [hnone]
      exact .nil
  | false =>
      have hchecked : (check value).map some = .ok result := by
        unfold Check.nullable at hresult
        split at hresult
        · cases hnull
        · exact hresult
      obtain ⟨given, hgiven, rfl⟩ := Checked.exists_of_map hchecked
      rw [hsome]
      exact hcheck value given hgiven

/-- A family of clauses. -/
theorem family (hcheck : Collects tells shape check parts) :
    Collects tells (.family shape) (Check.nullable (Check.listOf check))
      fun clauses => (members clauses).flatMap parts :=
  hcheck.listOf.nullable rfl fun _ => rfl

/-- A mapping from names. -/
theorem mapOf {sub : Value → Checked ε}
    (hsub : ∀ value part, sub value = .ok part → tells value part) :
    Collects tells (.values .expression) (Check.mapOf sub) Document.parts := by
  intro value result hresult
  cases value with
  | map entries =>
      obtain ⟨pairs, hpairs, rfl⟩ := Checked.exists_of_map hresult
      have hentries : List.Forall₂ (TellsEntry tells) entries pairs := by
        refine (Checked.forall₂_of_traverse hpairs).imp ?_
        rintro ⟨key, value⟩ told hentry
        cases key with
        | text name =>
            obtain ⟨part, hpart, rfl⟩ := Checked.exists_of_map hentry
            exact ⟨rfl, hsub _ _ hpart⟩
        | _ => cases hentry
      have hvalues := (TellsEntry.entriesOf hentries).imp fun _ _ h => h.2
      have hpositions : (Shape.values .expression).positions (.map entries) =
          (Value.map entries).valuesOf := by
        simp [Shape.positions, List.flatMap_singleton']
      rw [hpositions]
      exact List.forall₂_map_left_iff.2 (List.forall₂_map_right_iff.2 hvalues)
  | _ => cases hresult

theorem expression {sub : Value → Checked ε}
    (hsub : ∀ value part, sub value = .ok part → tells value part) :
    Collects tells .expression sub fun part => [part] := by
  intro value part hpart
  rw [Shape.positions]
  exact .cons (hsub value part hpart) .nil

end Collects

/-! ### Typed records -/

theorem exists_of_model {name : String} {labels : List Label}
    {check : Members → Checked α} {value : Value} {result : α}
    (hmodel : Check.model name labels check value = .ok result) :
    ∃ members, Members.ofAny? value = some members ∧
      check members = .ok result ∧ members.unknown labels = 0 := by
  unfold Check.model at hmodel
  split at hmodel
  · rename_i members hmembers
    have hany : Members.ofAny? value = some members := by
      unfold Members.ofValue? at hmembers
      split at hmembers
      · exact hmembers
      · split at hmembers
        · exact hmembers
        · cases hmembers
      · cases hmembers
    unfold Checked.withFaults at hmodel
    split at hmodel
    · split at hmodel
      · rename_i hchecked hunknown
        obtain rfl := Checked.ok.inj hmodel
        exact ⟨members, hany, hchecked, hunknown⟩
      · cases hmodel
    · cases hmodel
  · cases hmodel

namespace Collects

theorem model {name : String} {labels : List Label}
    {schema : List (Label × Shape)} {check : Members → Checked α}
    (hcheck : ∀ members result, check members = .ok result →
      List.Forall₂ tells (Shape.positionsOf schema members) (parts result)) :
    Collects tells (.fields schema) (Check.model name labels check) parts := by
  intro value result hresult
  obtain ⟨members, hmembers, hresult, -⟩ := exists_of_model hresult
  rw [Shape.positions, hmembers]
  exact hcheck members result hresult

variable {rest : List (Label × Shape)} {members : Members} {label : Label}
variable {back : List ε}

theorem noMore :
    List.Forall₂ tells (Shape.positionsOf [] members) ([] : List ε) :=
  .nil

/-- A field that has to be there, in front of others. -/
theorem required (hcheck : Collects tells shape check parts) {result : α}
    (hfield : members.required label check = .ok result)
    (hrest : List.Forall₂ tells (Shape.positionsOf rest members) back) :
    List.Forall₂ tells (Shape.positionsOf ((label, shape) :: rest) members)
      (parts result ++ back) := by
  rw [Shape.positionsOf]
  refine List.rel_append ?_ hrest
  unfold Members.required at hfield
  split at hfield
  · rename_i value hvalue
    rw [hvalue]
    exact hcheck _ _ hfield
  · cases hfield

/-- A field with a default that has no parts. -/
theorem withDefault (hcheck : Collects tells shape check parts)
    {default result : α}
    (hfield : members.withDefault label default check = .ok result)
    (hnull : shape.positions .null = []) (hdefault : parts default = [])
    (hrest : List.Forall₂ tells (Shape.positionsOf rest members) back) :
    List.Forall₂ tells (Shape.positionsOf ((label, shape) :: rest) members)
      (parts result ++ back) := by
  rw [Shape.positionsOf]
  refine List.rel_append ?_ hrest
  unfold Members.withDefault at hfield
  split at hfield
  · rename_i value hvalue
    rw [hvalue]
    exact hcheck _ _ hfield
  · rename_i hvalue
    obtain rfl := Checked.ok.inj hfield
    rw [hvalue, hdefault]
    exact hnull ▸ .nil

/-- A family of clauses, in front of other fields. -/
theorem inFamily (hcheck : Collects tells shape check parts)
    {clauses : Option (List α)}
    (hfamily : members.family label check = .ok clauses)
    (hrest : List.Forall₂ tells (Shape.positionsOf rest members) back) :
    List.Forall₂ tells
      (Shape.positionsOf ((label, .family shape) :: rest) members)
      ((Record.members clauses).flatMap parts ++ back) :=
  hcheck.family.withDefault hfamily rfl rfl hrest

end Collects

end Collecting

/-! ## Clauses -/

section Clauses

variable {ε : Type} {tells : Value → ε → Prop} {sub : Value → Checked ε}
variable (hsub : ∀ value part, sub value = .ok part → tells value part)

include hsub

theorem Document.collects :
    Collects tells (.fields [(.same "fields", .values .expression)])
      (Document.check sub) Document.parts := by
  apply Collects.model
  intro members
  simp only [Checked.forall_seq, Checked.forall_map]
  intro _ _ document hdocument
  simpa using (Collects.mapOf hsub).withDefault hdocument rfl rfl Collects.noMore

theorem Document.collects_options :
    Collects tells .options (nullable (Document.check sub)) fun options =>
      Document.parts (members options) :=
  (Document.collects hsub).nullable rfl fun _ => rfl

theorem Source.collects_graph :
    Collects tells (.fields [(.same "options", .options)])
      (Source.checkGraph sub) Source.parts := by
  apply Collects.model
  intro members
  simp only [Checked.forall_seq, Checked.forall_map]
  intro _ _ graph _ direction _ vertex _ minDepth _ maxDepth _ options hoptions
  simpa [Source.parts] using
    (Document.collects_options hsub).withDefault hoptions rfl rfl
      Collects.noMore

omit hsub in
theorem Source.collects_range :
    Collects tells (.fields []) checkRange (Source.parts : Source ε → List ε) := by
  apply Collects.model
  intro members
  simp only [Checked.forall_seq, Checked.forall_map]
  intro _ _ first _ last _
  exact Collects.noMore

theorem Source.collects_tagged :
    Collects tells
      (.tagged "graph" (.fields [(.same "options", .options)]))
      (Source.checkTagged sub) Source.parts := by
  intro value source hsource
  rw [Shape.positions]
  unfold checkTagged at hsource
  split at hsource
  · rename_i htag
    have hparts : List.Forall₂ tells ((Shape.fields []).positions value)
        source.parts := collects_range value source hsource
    have hnone : (Shape.fields []).positions value = [] := by
      rw [Shape.positions]
      split <;> rfl
    rw [hnone] at hparts
    rw [htag, if_neg (by decide)]
    exact hparts
  · rename_i htag
    rw [if_pos htag]
    exact collects_graph hsub value source hsource
  · cases hsource

theorem Source.collects :
    Collects tells .source (nullable (Source.check sub)) fun source =>
      Slot.parts (source.map .proper) := by
  have hsource : Collects tells
      (.tagged "graph" (.fields [(.same "options", .options)]))
      (Source.check sub) Source.parts := by
    intro value source hsource
    unfold Source.check at hsource
    split at hsource
    · obtain rfl := Checked.ok.inj hsource
      exact .nil
    · split at hsource
      · rename_i htagged
        obtain rfl := Checked.ok.inj hsource
        exact collects_tagged hsub _ _ htagged
      · cases hsource
  exact hsource.nullable rfl fun _ => rfl

theorem Join.collects :
    Collects tells (.fields [(.same "source", .source)]) (Join.check sub)
      Join.parts := by
  apply Collects.model
  intro members
  simp only [Checked.forall_seq, Checked.forall_map]
  intro loop _ source hsource
  simpa [Join.parts] using
    (Source.collects hsub).withDefault hsource rfl rfl Collects.noMore

theorem collects_named {name : String} {nameLabel partLabel : Label} :
    Collects tells (.named partLabel) (checkNamed name nameLabel partLabel sub)
      fun clause => [clause.2] := by
  apply Collects.model
  intro members
  simp only [Checked.forall_seq, Checked.forall_map]
  intro name _ part hpart
  simpa using
    (Collects.expression hsub).required hpart Collects.noMore

theorem Collect.collects :
    Collects tells
      (.fields [(.same "variables", .list (.named (.same "value"))),
        (.same "aggregate", .list (.named (.same "expression")))])
      (Collect.check sub) Collect.parts := by
  apply Collects.model
  intro members
  simp only [Checked.forall_seq, Checked.forall_map]
  intro keys hkeys into _ aggregates haggregates keep _
  have hparts := (collects_named hsub).listOf.withDefault hkeys rfl rfl
    ((collects_named hsub).listOf.withDefault haggregates rfl rfl
      Collects.noMore)
  simpa [Collect.parts, Document.parts, List.map_eq_flatMap] using hparts

theorem Operation.collects :
    Collects tells (.fields [(.same "document", .optional .expression)])
      (Operation.check sub) Operation.parts := by
  have hsome : Collects tells (.optional .expression) (nullable sub)
      Option.toList := (Collects.expression hsub).nullable rfl fun _ => rfl
  apply Collects.model
  intro members
  simp only [Checked.forall_seq, Checked.forall_map]
  intro kind _ document hdocument collection _ target _
  simpa [Operation.parts] using
    hsome.withDefault hdocument rfl rfl Collects.noMore

theorem Upsert.collects :
    Collects tells
      (.fields [(.camel "search_doc", .expression),
        (.camel "insert_doc", .expression), (.camel "update_doc", .expression)])
      (Upsert.check sub) Upsert.parts := by
  apply Collects.model
  intro members
  simp only [Checked.forall_seq, Checked.forall_map]
  intro _ _ search hsearch insert hinsert update hupdate collection _
  have hexpr := Collects.expression hsub
  exact hexpr.required hsearch (hexpr.required hinsert
    (hexpr.required hupdate Collects.noMore))

theorem Update.collects :
    Collects tells
      (.fields [(.same "document", .expression),
        (.camel "update_fields", .expression)])
      (Update.check sub) Update.parts := by
  apply Collects.model
  intro members
  simp only [Checked.forall_seq, Checked.forall_map]
  intro _ _ document hdocument fields hfields collection _ loop _ old _
  have hexpr := Collects.expression hsub
  exact hexpr.required hdocument
    (hexpr.required hfields Collects.noMore)

theorem Search.collects :
    Collects tells
      (.fields [(.same "conditions", .list .expression),
        (.same "options", .options)])
      (Search.check sub) Search.parts := by
  apply Collects.model
  intro members
  simp only [Checked.forall_seq, Checked.forall_map]
  intro _ _ view _ conditions hconditions options hoptions
  have hparts := (Collects.expression hsub).listOf.withDefault hconditions rfl
    rfl ((Document.collects_options hsub).withDefault hoptions rfl rfl
      Collects.noMore)
  simpa [Search.parts, List.flatMap_singleton'] using hparts

theorem collects_prune :
    Collects tells (.named (.same "condition")) (checkPrune sub)
      fun condition => [condition] := by
  apply Collects.model
  intro members
  simp only [Checked.forall_seq, Checked.forall_map]
  intro _ _ condition hcondition
  exact (Collects.expression hsub).required hcondition Collects.noMore

theorem Window.collects :
    Collects tells (.named (.same "aggregation")) (Window.check sub)
      Window.parts := by
  apply Collects.model
  intro members
  simp only [Checked.forall_seq, Checked.forall_map]
  intro _ _ preceding _ following _ aggregation haggregation name _
  exact (Collects.expression hsub).required haggregation Collects.noMore

theorem Record.collects_check :
    Collects tells (.fields Record.schema) (Record.check sub) Record.parts := by
  have hexpr := Collects.expression hsub
  have hsome : Collects tells (.optional .expression) (nullable sub)
      Option.toList := hexpr.nullable rfl fun _ => rfl
  apply Collects.model
  intro members
  simp only [Checked.forall_seq, Checked.forall_map]
  intro collection _ loop _ source hsource filters hfilters filtersAfter
    hfiltersAfter joins hjoins letsAfter hletsAfter letsBefore hletsBefore
    collects hcollects sorts _ result hresult distinct _ limit _ offset _
    operations hoperations upserts hupserts updates hupdates loopNames _
    searches hsearches traversals _ prunes hprunes windows hwindows
    withCollections _ raw _ rawBindings _
  have hparts :=
    (Source.collects hsub).withDefault hsource rfl rfl <|
    hexpr.inFamily hfilters <|
    hexpr.inFamily hfiltersAfter <|
    (Join.collects hsub).inFamily hjoins <|
    (collects_named hsub).inFamily hletsAfter <|
    (collects_named hsub).inFamily hletsBefore <|
    (Collect.collects hsub).inFamily hcollects <|
    hsome.withDefault hresult rfl rfl <|
    (Operation.collects hsub).inFamily hoperations <|
    (Upsert.collects hsub).inFamily hupserts <|
    (Update.collects hsub).inFamily hupdates <|
    (Search.collects hsub).inFamily hsearches <|
    (collects_prune hsub).inFamily hprunes <|
    (Window.collects hsub).inFamily hwindows Collects.noMore
  simpa [Record.schema, Record.parts, Document.parts, List.map_eq_flatMap,
    List.flatMap_singleton'] using hparts

/-! ## Nodes -/

theorem Node.collects_fields (kind : NodeKind) (members : Members) :
    ∀ node, Node.checkFields sub members kind = .ok node →
      node.kind? = some kind ∧
        List.Forall₂ tells (Shape.positionsOf kind.schema members)
          node.parts := by
  have hexpr := Collects.expression hsub
  cases kind <;> simp only [Node.checkFields, Checked.forall_seq,
    Checked.forall_map]
  case literal | reference | old =>
    intro _ _
    exact ⟨rfl, Collects.noMore⟩
  case parameter =>
    intro name _ collection _
    exact ⟨rfl, Collects.noMore⟩
  case binary =>
    intro operator _ left hleft right hright
    exact ⟨rfl, hexpr.required hleft (hexpr.required hright Collects.noMore)⟩
  case unary =>
    intro operator _ operand hoperand
    exact ⟨rfl, hexpr.required hoperand Collects.noMore⟩
  case call =>
    intro function _ arguments harguments
    refine ⟨rfl, ?_⟩
    simpa [NodeKind.schema, Node.parts, List.flatMap_singleton'] using
      hexpr.listOf.withDefault harguments rfl rfl Collects.noMore
  case ternary =>
    intro condition hcondition thenValue hthen elseValue helse
    exact ⟨rfl, hexpr.required hcondition (hexpr.required hthen
      (hexpr.required helse Collects.noMore))⟩
  case like | regex =>
    intro subject hsubject _ _ _ _
    exact ⟨rfl, hexpr.required hsubject Collects.noMore⟩
  case all | any =>
    intro subject hsubject condition hcondition
    exact ⟨rfl, hexpr.required hsubject
      (hexpr.required hcondition Collects.noMore)⟩
  case unset =>
    intro document hdocument fields _
    exact ⟨rfl, hexpr.required hdocument Collects.noMore⟩
  case object =>
    intro document hdocument
    refine ⟨rfl, ?_⟩
    simpa [NodeKind.schema, Node.parts] using
      (Collects.mapOf hsub).withDefault hdocument rfl rfl Collects.noMore
  case array =>
    intro items hitems
    refine ⟨rfl, ?_⟩
    simpa [NodeKind.schema, Node.parts, List.flatMap_singleton'] using
      hexpr.listOf.withDefault hitems rfl rfl Collects.noMore
  case subquery =>
    intro query hquery
    refine ⟨rfl, ?_⟩
    simpa [NodeKind.schema, Node.parts] using
      (Record.collects_check hsub).required hquery Collects.noMore

theorem Node.collects {value : Value} {node : Node ε}
    (hnode : Node.check sub value = .ok node) :
    ∃ kind, value.IsNode kind ∧ node.kind? = some kind ∧
      List.Forall₂ tells (value.nodePositions kind) node.parts := by
  unfold Node.check at hnode
  split at hnode
  · rename_i kind htag
    obtain ⟨tag, htag, hkind⟩ := Option.bind_eq_some_iff.1 htag
    have hsame := List.find?_some hkind
    obtain rfl : kind.tag = tag := eq_of_beq hsame
    obtain ⟨members, hmembers, hfields, hunknown⟩ := exists_of_model hnode
    have htold : ∀ node, (fun _ node => node) <$> members.tag kind.tag <*>
        Node.checkFields sub members kind = .ok node →
          node.kind? = some kind ∧
            List.Forall₂ tells (Shape.positionsOf kind.schema members)
              node.parts := by
      simp only [Checked.forall_seq, Checked.forall_map]
      intro _ _ node hnode
      exact collects_fields hsub kind members node hnode
    obtain ⟨hkind, hparts⟩ := htold _ hfields
    refine ⟨kind, ⟨htag, members, hmembers, ?_⟩, hkind, ?_⟩
    · exact Members.key_of_unknown kind.areApart_labels
        (by cases kind <;> decide) hunknown
    · rw [Value.nodePositions, Shape.positions, hmembers]
      exact hparts
  · cases hnode

end Clauses

/-! ## Expressions and queries -/

theorem Expr.spelled_of_checkWithin {depth : Nat} {value : Value} {expr : Expr}
    (hexpr : checkWithin depth value = .ok expr) : value.Spells expr := by
  induction depth generalizing value expr with
  | zero => cases hexpr
  | succ depth hdepth =>
      obtain ⟨node, hnode, rfl⟩ := Checked.exists_of_map hexpr
      obtain ⟨kind, hvalue, hkind, hparts⟩ :=
        Node.collects (fun value part => hdepth) hnode
      exact .node hvalue hkind hparts

namespace Query

/-- What stands in the place of the expressions of an accepted snapshot spells
those of the query. -/
theorem spelled_of_check {snapshot : Value} {query : Query}
    (hcheck : check snapshot = .ok query) :
    List.Forall₂ Value.Spells snapshot.recordPositions query.parts :=
  Record.collects_check (fun _ _ => Expr.spelled_of_checkWithin) snapshot query
    hcheck

theorem exists_of_forall₂ {positions : List Value} {parts : List Expr}
    (hparts : List.Forall₂ Value.Spells positions parts) {position : Value}
    (hposition : position ∈ positions) : ∃ expr, position.Spells expr := by
  induction hparts with
  | nil => cases hposition
  | cons hfirst _ hrest =>
      cases hposition with
      | head => exact ⟨_, hfirst⟩
      | tail _ hposition => exact hrest hposition

/-- So it is at any depth, since the positions inside a node are those of its
kind. -/
theorem exists_spelled {snapshot position : Value} {query : Query}
    (hcheck : check snapshot = .ok query)
    (hposition : HasPosition snapshot position) :
    ∃ expr, position.Spells expr := by
  induction hposition with
  | direct hposition =>
      exact exists_of_forall₂ (spelled_of_check hcheck) hposition
  | @inside outer position kind _ htag hposition houter =>
      obtain ⟨expr, hspells⟩ := houter
      cases hspells with
      | @node _ own node hvalue _ hparts =>
          have htags : kind.tag = own.tag :=
            Option.some.inj (htag.symm.trans hvalue.tag)
          have hkinds : kind = own := by
            have hown := own.ofTag?_tag
            rw [← htags, kind.ofTag?_tag] at hown
            exact Option.some.inj hown
          exact exists_of_forall₂ hparts (hkinds ▸ hposition)

/-- A snapshot is accepted only if there is a node with its own tag and with
declared fields wherever an expression is expected, at any depth, and the query
is made of the nodes that they spell.  A snapshot with anything else in such a
place is rejected as a snapshot, and so is every other one that is rejected. -/
theorem accepted_expressions_are_nodes (snapshot : Value) :
    (∀ query, (restoreLogged (check snapshot)).1 = .ok query →
      (∀ position, HasPosition snapshot position →
        ∃ kind, position.IsNode kind) ∧
      List.Forall₂ Value.Spells snapshot.recordPositions query.parts) ∧
    ((∃ position, HasPosition snapshot position ∧
        ∀ kind, ¬ position.IsNode kind) →
      ∃ faults, (restoreLogged (check snapshot)).1 =
        .error (.snapshotRejected faults)) ∧
    ∀ error, (restoreLogged (check snapshot)).1 = .error error →
      error.kind = "SerializationError" := by
  have hnodes {query : Query} (hcheck : check snapshot = .ok query)
      {position : Value} (hposition : HasPosition snapshot position) :
      ∃ kind, position.IsNode kind := by
    obtain ⟨expr, hspells⟩ := exists_spelled hcheck hposition
    cases hspells with
    | node hvalue _ _ => exact ⟨_, hvalue⟩
  cases hcheck : check snapshot with
  | ok query =>
      refine ⟨?_, ?_, ?_⟩
      · intro restored hrestored
        obtain rfl := Except.ok.inj hrestored
        exact ⟨fun position => hnodes hcheck, spelled_of_check hcheck⟩
      · rintro ⟨position, hposition, hmalformed⟩
        obtain ⟨kind, hnode⟩ := hnodes hcheck hposition
        exact absurd hnode (hmalformed kind)
      · intro error herror
        cases herror
  | rejected faults =>
      refine ⟨?_, fun _ => ⟨faults, rfl⟩, ?_⟩
      · intro restored hrestored
        cases hrestored
      · intro error herror
        obtain rfl := Except.error.inj herror
        rfl

section Example

/-- A condition on a literal that looks like a node, or on something else. -/
def comparing (right : Value) : Value :=
  .ofFields
    [("variable", .text "d"), ("source", .text "articles"),
      ("filters", .list
        [.ofFields
          [("type", .text "binary"), ("operator", .text "=="),
            ("left", .ofFields
              [("type", .text "reference"), ("name", .text "d.state")]),
            ("right", right)]])]

/-- What is inside a literal is not looked at; a node without its tag is not
accepted. -/
theorem comparing_literal :
    (∃ query,
      (restoreLogged (check (comparing (.ofFields
        [("type", .text "literal"),
          ("value", .ofFields [("type", .text "new")])])))).1 = .ok query ∧
      List.Forall₂ Value.Spells
        (comparing (.ofFields
          [("type", .text "literal"),
            ("value", .ofFields [("type", .text "new")])])).recordPositions
        query.parts) ∧
    ∃ faults,
      (restoreLogged (check (comparing (.ofFields
        [("value", .text "new")])))).1 = .error (.snapshotRejected faults) := by
  constructor
  · obtain ⟨query, hquery⟩ : ∃ query,
        (restoreLogged (check (comparing (.ofFields
          [("type", .text "literal"),
            ("value", .ofFields [("type", .text "new")])])))).1 = .ok query :=
      ⟨_, rfl⟩
    exact ⟨query, hquery,
      ((accepted_expressions_are_nodes _).1 query hquery).2⟩
  · apply (accepted_expressions_are_nodes _).2.1
    refine ⟨.ofFields [("value", .text "new")], ?_, ?_⟩
    · have hcondition : HasPosition
          (comparing (.ofFields [("value", .text "new")])) _ :=
        .direct List.mem_cons_self
      have hright : Value.ofFields [("value", .text "new")] ∈
          (Value.ofFields
            [("type", .text "binary"), ("operator", .text "=="),
              ("left", .ofFields
                [("type", .text "reference"), ("name", .text "d.state")]),
              ("right", .ofFields [("value", .text "new")])]).nodePositions
            .binary :=
        List.mem_cons_of_mem _ List.mem_cons_self
      exact .inside hcondition rfl hright
    · rintro kind ⟨htag, -⟩
      cases htag

end Example

end Query

end ArangoQuery
