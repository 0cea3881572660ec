import ArangoQuery.Check.Node
import ArangoQuery.Proofs.SnapshotData
import ArangoQuery.Proofs.Tree
import Mathlib.Data.List.Nodup

/-!
# Fields of snapshots

A typed record is dumped to a mapping that leaves out its unset fields.  Reading
a field finds what was dumped for it, or nothing if it was unset
(`DumpsTo.found`), provided that the names of the fields cannot be taken for one
another.  `Restores` says that a check reads back what a description was made of,
and `ReadsBack` says it of the fields of a record, one after the other; a typed
record is restored as soon as its fields are read back (`restores_model`).
-/

namespace ArangoQuery

open Check

/-! ## Fields of typed records -/

/-- The names of the fields of a typed record cannot be taken for one another. -/
def Label.AreApart (labels : List Label) : Prop :=
  (labels.map Label.snapshot).Nodup ∧
    ∀ label ∈ labels,
      label.own = label.snapshot ∨ label.own ∉ labels.map Label.snapshot

instance (labels : List Label) : Decidable (Label.AreApart labels) :=
  inferInstanceAs (Decidable (_ ∧ _))

/-- What is dumped for a field: nothing if it is unset. -/
def Value.dumpField? (field : Label × Value) : Option (Option Value) :=
  if field.2.isNull then some none
  else
    (field.2.dump? .setFields).map fun value =>
      some (if field.1.isCount then value.asCount else value)

/-- The fields of a typed record are dumped to the members of a mapping, and each
field is read as what was dumped for it. -/
structure DumpsTo (fields : List (Label × Value)) (members : Members) :
    Prop where
  dump : Value.dumpFields? .setFields fields = some members
  keys : members.Pairwise fun left right => Scalar.same left.1 right.1 = false
  found : ∀ field ∈ fields,
    Value.dumpField? field = some (members.find? field.1)
  unknown : members.unknown (fields.map Prod.fst) = 0

section Fields

variable {fields : List (Label × Value)}

/-- The member that is dumped for a field. -/
def Value.member? (field : Label × Value) : Option (Scalar × Value) :=
  (dumpField? field).join.map fun value =>
    (Scalar.text field.1.snapshot, value)

theorem dumpFields?_eq
    (hdumps : ∀ field ∈ fields, (Value.dumpField? field).isSome = true) :
    Value.dumpFields? .setFields fields =
      some (fields.filterMap Value.member?) := by
  induction fields with
  | nil => rfl
  | cons field rest hrest =>
      obtain ⟨hfield, htail⟩ := List.forall_mem_cons.1 hdumps
      obtain ⟨label, value⟩ := field
      cases hnull : value.isNull with
      | true =>
          have hmember : Value.member? (label, value) = none := by
            simp [Value.member?, Value.dumpField?, hnull]
          rw [List.filterMap_cons_none hmember, ← hrest htail]
          simp [Value.dumpFields?, hnull]
      | false =>
          simp only [Value.dumpField?, hnull, Bool.false_eq_true, if_false,
            Option.isSome_map, Option.isSome_iff_exists] at hfield
          obtain ⟨dumped, hdumped⟩ := hfield
          have hmember : Value.member? (label, value) =
              some (.text label.snapshot,
                if label.isCount then dumped.asCount else dumped) := by
            simp [Value.member?, Value.dumpField?, hnull, hdumped]
          rw [List.filterMap_cons_some hmember]
          simp [Value.dumpFields?, hnull, hdumped, hrest htail]

theorem key_of_mem_filterMap {member : Scalar × Value}
    (hmember : member ∈ fields.filterMap Value.member?) :
    ∃ field ∈ fields, member.1 = .text field.1.snapshot := by
  obtain ⟨field, hfield, hmember⟩ := List.mem_filterMap.1 hmember
  obtain ⟨value, -, rfl⟩ := Option.map_eq_some_iff.1 hmember
  exact ⟨field, hfield, rfl⟩

theorem pairwise_filterMap
    (hnodup : (fields.map fun field => field.1.snapshot).Nodup) :
    (fields.filterMap Value.member?).Pairwise fun left right =>
      Scalar.same left.1 right.1 = false := by
  apply List.Pairwise.filterMap Value.member? _ (List.pairwise_map.1 hnodup)
  intro left right hne left' hleft right' hright
  obtain ⟨_, -, rfl⟩ := Option.map_eq_some_iff.1 hleft
  obtain ⟨_, -, rfl⟩ := Option.map_eq_some_iff.1 hright
  exact beq_false_of_ne hne

theorem lookupEntry_filterMap_of_not_mem {name : String}
    (hname : name ∉ fields.map fun field => field.1.snapshot) :
    lookupEntry Scalar.same (.text name) (fields.filterMap Value.member?) =
      none := by
  apply lookupEntry_eq_none
  intro member hmember
  obtain ⟨field, hfield, hkey⟩ := key_of_mem_filterMap hmember
  rw [hkey]
  apply beq_false_of_ne
  rintro rfl
  exact hname (List.mem_map_of_mem hfield)

theorem lookupEntry_filterMap
    (hnodup : (fields.map fun field => field.1.snapshot).Nodup)
    {field : Label × Value} (hfield : field ∈ fields) :
    lookupEntry Scalar.same (.text field.1.snapshot)
        (fields.filterMap Value.member?) =
      (Value.dumpField? field).join := by
  cases hdumped : (Value.dumpField? field).join with
  | some value =>
      have hself : Scalar.same (.text field.1.snapshot)
          (.text field.1.snapshot) = true := beq_self_eq_true _
      apply lookupEntry_of_pairwise hself (pairwise_filterMap hnodup)
      apply List.mem_filterMap.2
      exact ⟨field, hfield, by rw [Value.member?, hdumped]; rfl⟩
  | none =>
      apply lookupEntry_eq_none
      intro member hmember
      obtain ⟨other, hother, hmember⟩ := List.mem_filterMap.1 hmember
      have hne : other ≠ field := by
        rintro rfl
        rw [Value.member?, hdumped] at hmember
        cases hmember
      obtain ⟨_, -, rfl⟩ := Option.map_eq_some_iff.1 hmember
      apply beq_false_of_ne
      intro heq
      exact hne (List.inj_on_of_nodup_map hnodup hother hfield heq)

theorem find?_filterMap
    (hlabels : Label.AreApart (fields.map Prod.fst))
    {field : Label × Value} (hfield : field ∈ fields) :
    Members.find? (fields.filterMap Value.member?) field.1 =
      (Value.dumpField? field).join := by
  obtain ⟨hnodup, hown⟩ := hlabels
  simp only [List.map_map] at hnodup hown
  have hsnapshot := lookupEntry_filterMap hnodup hfield
  rw [Members.find?, hsnapshot]
  cases hdumped : (Value.dumpField? field).join with
  | some value => rfl
  | none =>
      rcases hown field.1 (List.mem_map_of_mem hfield) with hsame | hapart
      · rw [hsame, hsnapshot, hdumped]
      · exact lookupEntry_filterMap_of_not_mem hapart

theorem exists_dumpsTo (hlabels : Label.AreApart (fields.map Prod.fst))
    (hdumps : ∀ field ∈ fields, (Value.dumpField? field).isSome = true) :
    ∃ members, DumpsTo fields members := by
  refine ⟨_, dumpFields?_eq hdumps, ?_, ?_, ?_⟩
  · exact pairwise_filterMap (List.map_map .. ▸ hlabels.1)
  · intro field hfield
    obtain ⟨found, hfound⟩ := Option.isSome_iff_exists.1 (hdumps field hfield)
    rw [find?_filterMap hlabels hfield, hfound]
    rfl
  · have hfilter :
        ((fields.map Prod.fst).filter fun label =>
          (Members.find? (fields.filterMap Value.member?) label).isSome) =
        (fields.filter fun field => (Value.member? field).isSome).map
          Prod.fst := by
      rw [List.filter_map]
      apply congrArg
      apply List.filter_congr
      intro field hfield
      simp [find?_filterMap hlabels hfield, Value.member?]
    rw [Members.unknown, hfilter, List.length_map,
      List.length_filterMap_eq_countP, List.countP_eq_length_filter,
      Nat.sub_self]

end Fields

/-! ## Checks that read back -/

/-- A check reads back a result from the dump of its description, as soon as the
bound on the depth of expressions is at most the given number of levels below the
depth of the dump.  The dump is not null, so it is not taken for an unset
field. -/
def RestoresBelow {β : Type} (levels : Nat) (check : Nat → Value → Checked β)
    (described : Value) (result : β) : Prop :=
  ∃ dumped, described.dump? .setFields = some dumped ∧
    dumped.isNull = false ∧
    ∀ bound, dumped.depth ≤ bound + levels → check bound dumped = .ok result

abbrev Restores {β : Type} (check : Nat → Value → Checked β)
    (described : Value) (result : β) : Prop :=
  RestoresBelow 0 check described result

/-- An unset value, or one that has a data form. -/
def Value.Dumps (value : Value) : Prop :=
  value.isNull = true ∨ ∃ dumped, value.dump? .setFields = some dumped

theorem Value.Dumps.dumpField? {value : Value} (hdumps : value.Dumps)
    (label : Label) : (Value.dumpField? (label, value)).isSome = true := by
  rw [Value.dumpField?]
  split
  · rfl
  · next hset =>
    rcases hdumps with hnull | ⟨dumped, hdump⟩
    · exact absurd hnull hset
    · simp [hdump]

theorem depth_le_depthEntries {members : Members} {key : Scalar} {value : Value}
    (hmember : (key, value) ∈ members) :
    value.depth ≤ Value.depthEntries members := by
  induction members with
  | nil => exact absurd hmember List.not_mem_nil
  | cons member rest hrest =>
      obtain ⟨other, old⟩ := member
      rw [Value.depthEntries]
      rcases List.mem_cons.1 hmember with heq | hmem
      · obtain ⟨rfl, rfl⟩ := Prod.mk.inj heq
        exact Nat.le_max_left _ _
      · exact Nat.le_trans (hrest hmem) (Nat.le_max_right _ _)

/-- A member is not as deep as the mapping that it is a member of. -/
theorem depth_of_find? {members : Members} {label : Label} {value : Value}
    (hfind : members.find? label = some value) :
    value.depth < (Value.map members).depth := by
  have hmember : ∃ key other, Scalar.same other key = true ∧
      (other, value) ∈ members := by
    rw [Members.find?] at hfind
    split at hfind
    · next hlookup =>
      obtain rfl := Option.some.inj hfind
      exact ⟨_, exists_of_lookupEntry hlookup⟩
    · exact ⟨_, exists_of_lookupEntry hfind⟩
  obtain ⟨-, key, -, hmember⟩ := hmember
  rw [Value.depth]
  exact Nat.lt_succ_of_le (depth_le_depthEntries hmember)

section Restoring

variable {β : Type} {check : Nat → Value → Checked β}
variable {described : Value} {result : β}

theorem RestoresBelow.restores
    (hrestores : RestoresBelow 1 check described result) :
    Restores check described result := by
  obtain ⟨dumped, hdump, hnull, hcheck⟩ := hrestores
  exact ⟨dumped, hdump, hnull, fun bound hbound => hcheck bound (by omega)⟩

theorem Restores.isNull (hrestores : Restores check described result) :
    described.isNull = false := by
  obtain ⟨dumped, hdump, hnull, -⟩ := hrestores
  cases described with
  | scalar value =>
      cases value with
      | null =>
          obtain rfl := Option.some.inj hdump
          exact hnull
      | _ => rfl
  | _ => rfl

theorem Restores.dumps (hrestores : Restores check described result) :
    described.Dumps := by
  obtain ⟨dumped, hdump, -, -⟩ := hrestores
  exact .inr ⟨dumped, hdump⟩

/-- Data is restored by a check that accepts it. -/
theorem restores_of_isJsonData {check : Value → Checked β}
    (hcheck : check described = .ok result)
    (hdata : described.isJsonData = true) (hset : described.isNull = false) :
    Restores (fun _ => check) described result :=
  ⟨described, Value.dump?_of_isJsonData _ hdata, hset, fun _ _ => hcheck⟩

theorem restores_text (content : String) :
    Restores (fun _ => text) (.text content) content :=
  restores_of_isJsonData rfl rfl rfl

theorem restores_int (number : Int) :
    Restores (fun _ => int) (.int number) number :=
  restores_of_isJsonData rfl rfl rfl

theorem restores_bool (value : Bool) :
    Restores (fun _ => bool) (.bool value) value :=
  restores_of_isJsonData rfl rfl rfl

theorem restores_word {ofText? : String → Option β} {spelling : String}
    (hword : ofText? spelling = some result) :
    Restores (fun _ => word ofText?) (.text spelling) result := by
  apply restores_of_isJsonData _ rfl rfl
  show Checked.ofOption (ofText? spelling) = .ok result
  rw [hword]
  rfl

/-! ### Lists and documents -/

theorem restores_items {describe : β → Value} {items : List β}
    (hitems : ∀ item ∈ items, Restores check (describe item) item) :
    ∃ dumped, Value.dumpList? .setFields (items.map describe) = some dumped ∧
      ∀ bound, Value.depthList dumped ≤ bound →
        Checked.traverse (check bound) dumped = .ok items := by
  induction items with
  | nil => exact ⟨[], rfl, fun _ _ => rfl⟩
  | cons item rest hrest =>
      obtain ⟨hitem, htail⟩ := List.forall_mem_cons.1 hitems
      obtain ⟨first, hfirst, -, hcheck⟩ := hitem
      obtain ⟨others, hothers, htraverse⟩ := hrest htail
      refine ⟨first :: others, ?_, ?_⟩
      · simp [Value.dumpList?, hfirst, hothers]
      · intro bound hbound
        rw [Value.depthList] at hbound
        have hchecked := hcheck bound (by omega)
        have htraversed := htraverse bound (by omega)
        rw [Checked.traverse, hchecked, htraversed, Checked.both_ok]

theorem restores_list {describe : β → Value} {items : List β}
    (hitems : ∀ item ∈ items, Restores check (describe item) item) :
    Restores (fun bound => listOf (check bound)) (.list (items.map describe))
      items := by
  obtain ⟨dumped, hdump, hcheck⟩ := restores_items hitems
  refine ⟨.list dumped, ?_, rfl, ?_⟩
  · rw [Value.dump?, hdump, Option.map_some]
  · intro bound hbound
    rw [Value.depth] at hbound
    exact hcheck bound (by omega)

/-- A tuple is dumped as a list. -/
theorem restores_tuple {describe : β → Value} {items : List β}
    (hitems : ∀ item ∈ items, Restores check (describe item) item) :
    Restores (fun bound => listOf (check bound)) (.tuple (items.map describe))
      items := by
  obtain ⟨dumped, hdump, hnull, hcheck⟩ := restores_list hitems
  exact ⟨dumped, hdump, hnull, hcheck⟩

theorem restores_entries {describe : β → Value} {document : Document β}
    (hparts : ∀ part ∈ document.parts,
      Restores check (describe part) part) :
    ∃ dumped : List (String × Value),
      Value.dumpEntries? .setFields (List.map (fun member =>
          (Scalar.text member.1, describe member.2)) document) =
        some (dumped.map fun member => (Scalar.text member.1, member.2)) ∧
      dumped.map Prod.fst = List.map Prod.fst document ∧
      ∀ bound, Value.depthEntries (dumped.map fun member =>
            (Scalar.text member.1, member.2)) ≤ bound →
        Checked.traverse (entry (check bound)) (dumped.map fun member =>
            (Scalar.text member.1, member.2)) =
          .ok document := by
  induction document with
  | nil => exact ⟨[], rfl, rfl, fun _ _ => rfl⟩
  | cons member rest hrest =>
      obtain ⟨hmember, htail⟩ := List.forall_mem_cons.1 hparts
      obtain ⟨first, hfirst, -, hcheck⟩ := hmember
      obtain ⟨others, hothers, hnames, htraverse⟩ := hrest htail
      refine ⟨(member.1, first) :: others, ?_, ?_, ?_⟩
      · simp [Value.dumpEntries?, hfirst, hothers, Scalar.dumpKey,
          Scalar.display]
      · simp [hnames]
      · intro bound hbound
        rw [List.map_cons, Value.depthEntries] at hbound
        have hdepth : first.depth ≤ bound :=
          Nat.le_trans (Nat.le_max_left _ _) hbound
        have hchecked := hcheck bound hdepth
        have htraversed := htraverse bound (by omega)
        rw [List.map_cons, Checked.traverse, htraversed, entry, hchecked]
        rfl

/-- A document with different names is restored name by name. -/
theorem restores_document {describe : β → Value} {document : Document β}
    (hnames : (List.map Prod.fst document).Nodup)
    (hparts : ∀ part ∈ document.parts,
      Restores check (describe part) part) :
    Restores (fun bound => mapOf (check bound))
      (Description.document (Document.map describe document)) document := by
  obtain ⟨dumped, hdump, hkeys, hcheck⟩ := restores_entries hparts
  have hdumped : (Description.document
      (Document.map describe document)).dump? .setFields =
        some (.map (dumped.map fun member =>
          (Scalar.text member.1, member.2))) := by
    rw [Description.document, Document.map, List.map_map, Value.dump?]
    erw [hdump]
    rw [Option.map_some,
      entriesOf_eq_self (pairwise_textKeys (hkeys ▸ hnames))]
  refine ⟨_, hdumped, rfl, ?_⟩
  intro bound hbound
  rw [Value.depth] at hbound
  show Checked.map _ (Checked.traverse _ _) = _
  rw [hcheck bound (by omega), Checked.map_ok]
  apply congrArg Checked.ok
  apply entriesOf_eq_self
  exact (List.pairwise_map.1 hnames).imp beq_false_of_ne

/-! ## Reading fields -/

/-- A reader of typed records gets the same result from whatever the given fields
are dumped to. -/
structure ReadsBack (fields : List (Label × Value))
    (read : Nat → Members → Checked β) (result : β) : Prop where
  dumps : ∀ field ∈ fields, field.2.Dumps
  reads : ∀ (members : Members) (bound : Nat),
    (∀ field ∈ fields,
      Value.dumpField? field = some (members.find? field.1)) →
    (Value.map members).depth ≤ bound + 1 →
    read bound members = .ok result

variable {γ : Type} {fields : List (Label × Value)} {own snapshot : String}

/-- What was dumped for a field is read back. -/
theorem find?_of_restores {members : Members} {bound : Nat}
    (hrestores : Restores check described result)
    (hfound : Value.dumpField? ({ own, snapshot }, described) =
      some (members.find? { own, snapshot }))
    (hbound : (Value.map members).depth ≤ bound + 1) :
    ∃ value, members.find? { own, snapshot } = some value ∧
      value.isNull = false ∧ check bound value = .ok result := by
  have hset := hrestores.isNull
  obtain ⟨dumped, hdump, hnull, hcheck⟩ := hrestores
  simp only [Value.dumpField?, hset, hdump, Bool.false_eq_true,
    if_false, Option.map_some, Option.some.injEq] at hfound
  have hdepth := depth_of_find? hfound.symm
  exact ⟨dumped, hfound.symm, hnull, hcheck bound (by omega)⟩

theorem nullable_of_set {check : Value → Checked β} {value : Value}
    (hset : value.isNull = false) (hcheck : check value = .ok result) :
    nullable check value = .ok (some result) := by
  unfold nullable
  split
  · exact absurd hset Bool.noConfusion
  · rw [hcheck, Checked.map_ok]

namespace ReadsBack

/-- The reader of a single field. -/
theorem single {label : Label} {read : Nat → Members → Checked β}
    (hdumps : described.Dumps)
    (hreads : ∀ (members : Members) (bound : Nat),
      Value.dumpField? (label, described) = some (members.find? label) →
      (Value.map members).depth ≤ bound + 1 →
      read bound members = .ok result) :
    ReadsBack [(label, described)] read result where
  dumps := by
    intro field hfield
    obtain rfl := List.mem_singleton.1 hfield
    exact hdumps
  reads := by
    intro members bound hfound hbound
    exact hreads members bound (hfound _ (List.mem_singleton_self _)) hbound

theorem required (hrestores : Restores check described result) :
    ReadsBack [({ own, snapshot }, described)]
      (fun bound members => members.required { own, snapshot } (check bound))
      result := by
  apply single hrestores.dumps
  intro members bound hfound hbound
  obtain ⟨value, hfind, -, hcheck⟩ :=
    find?_of_restores hrestores hfound hbound
  rw [Members.required, hfind]
  exact hcheck

theorem withDefault {default : β}
    (hrestores : Restores check described result) :
    ReadsBack [({ own, snapshot }, described)]
      (fun bound members =>
        members.withDefault { own, snapshot } default (check bound))
      result := by
  apply single hrestores.dumps
  intro members bound hfound hbound
  obtain ⟨value, hfind, -, hcheck⟩ :=
    find?_of_restores hrestores hfound hbound
  rw [Members.withDefault, hfind]
  exact hcheck

theorem tag (tag : String) :
    ReadsBack [(.same "type", .text tag)] (fun _ members => members.tag tag)
      () := by
  apply withDefault
  apply restores_word
  exact if_pos rfl

/-- An unset field is read as such. -/
theorem optional {describe : β → Value} {option : Option β}
    (hrestores : ∀ value ∈ option, Restores check (describe value) value) :
    ReadsBack [({ own, snapshot }, .ofOption describe option)]
      (fun bound members => members.optional { own, snapshot } (check bound))
      option := by
  cases option with
  | none =>
      apply single (.inl rfl)
      intro members bound hfound _
      have hfind : members.find? { own, snapshot } = none :=
        (Option.some.inj hfound).symm
      rw [Members.optional, Members.withDefault, hfind]
  | some value =>
      apply single (hrestores value rfl).dumps
      intro members bound hfound hbound
      obtain ⟨dumped, hfind, hset, hcheck⟩ :=
        find?_of_restores (hrestores value rfl) hfound hbound
      rw [Members.optional, Members.withDefault, hfind]
      exact nullable_of_set hset hcheck

theorem family {describe : β → Value} {clauses : Option (List β)}
    (hrestores : ∀ clause ∈ Record.members clauses,
      Restores check (describe clause) clause) :
    ReadsBack [({ own, snapshot }, describeFamily describe clauses)]
      (fun bound members => members.family { own, snapshot } (check bound))
      clauses := by
  apply optional
  rintro clauses rfl
  exact restores_list hrestores

/-- The described values may be made from those that are read. -/
theorem optional_map {f : β → γ} {describe : γ → Value} {option : Option β}
    (hrestores : ∀ value ∈ option, Restores check (describe (f value)) value) :
    ReadsBack [({ own, snapshot }, .ofOption describe (option.map f))]
      (fun bound members => members.optional { own, snapshot } (check bound))
      option := by
  have hdescribed : Value.ofOption describe (option.map f) =
      Value.ofOption (fun value => describe (f value)) option := by
    cases option <;> rfl
  rw [hdescribed]
  exact optional hrestores

theorem family_map {f : β → γ} {describe : γ → Value}
    {clauses : Option (List β)}
    (hrestores : ∀ clause ∈ Record.members clauses,
      Restores check (describe (f clause)) clause) :
    ReadsBack
      [({ own, snapshot }, describeFamily describe (clauses.map (List.map f)))]
      (fun bound members => members.family { own, snapshot } (check bound))
      clauses := by
  apply optional_map
  rintro clauses rfl
  rw [List.map_map]
  exact restores_list hrestores

theorem someText (content : Option String) :
    ReadsBack [({ own, snapshot }, Description.someText content)]
      (fun _ members => members.optional { own, snapshot } Check.text)
      content :=
  optional fun content _ => restores_text content

theorem someInt (number : Option Int) :
    ReadsBack [({ own, snapshot }, Description.someInt number)]
      (fun _ members => members.optional { own, snapshot } int) number :=
  optional fun number _ => restores_int number

/-- A count is dumped as the number that it is. -/
theorem count (name : String) (number : Option Int) :
    ReadsBack [(.count name, .ofOption .int number)]
      (fun _ members => members.optional (.count name) int) number := by
  cases number with
  | none =>
      apply single (.inl rfl)
      intro members bound hfound _
      have hfind := Option.some.inj hfound
      rw [Members.optional, Members.withDefault, ← hfind]
  | some number =>
      apply single (.inr ⟨.int number, rfl⟩)
      intro members bound hfound _
      have hfind := Option.some.inj hfound
      rw [Members.optional, Members.withDefault, ← hfind]
      rfl

/-- A null in place of data is left out, and null is what is read then. -/
theorem anything {value : Value} (hdata : value.isJsonData = true) :
    ReadsBack [({ own, snapshot }, value)]
      (fun _ members =>
        members.withDefault { own, snapshot } .null Check.anything)
      value := by
  have hcheck : Check.anything value = .ok value :=
    congrArg Checked.ok (Value.withoutRepeats_of_isJsonData hdata)
  cases hnull : value.isNull with
  | false => exact withDefault (restores_of_isJsonData hcheck hdata hnull)
  | true =>
      apply single (.inl hnull)
      intro members bound hfound _
      rw [Value.dumpField?, if_pos hnull] at hfound
      rw [Members.withDefault, ← Option.some.inj hfound]
      unfold Value.isNull at hnull
      split at hnull
      · rfl
      · cases hnull

theorem map {read : Nat → Members → Checked β} (f : β → γ)
    (hreads : ReadsBack fields read result) :
    ReadsBack fields (fun bound members => f <$> read bound members)
      (f result) where
  dumps := hreads.dumps
  reads := by
    intro members bound hfound hbound
    rw [hreads.reads members bound hfound hbound]
    rfl

/-- The fields that are read next are put in front. -/
theorem seq {next : List (Label × Value)} {f : β → γ}
    {readEarlier : Nat → Members → Checked (β → γ)}
    {read : Nat → Members → Checked β}
    (hearlier : ReadsBack fields readEarlier f)
    (hnext : ReadsBack next read result) :
    ReadsBack (next ++ fields)
      (fun bound members => readEarlier bound members <*> read bound members)
      (f result) where
  dumps := List.forall_mem_append.2 ⟨hnext.dumps, hearlier.dumps⟩
  reads := by
    intro members bound hfound hbound
    obtain ⟨hnextFound, hearlierFound⟩ := List.forall_mem_append.1 hfound
    rw [hearlier.reads members bound hearlierFound hbound,
      hnext.reads members bound hnextFound hbound]
    rfl

end ReadsBack

/-! ## Restoring typed records -/

variable {name : String} {labels : List Label}
variable {read : Nat → Members → Checked β}

theorem exists_dumped (name : String) (hapart : Label.AreApart labels)
    (hlabels : fields.map Prod.fst = labels)
    (hreads : ReadsBack fields.reverse read result) :
    ∃ members, DumpsTo fields members ∧
      ∀ bound, (Value.map members).depth ≤ bound + 1 →
        Check.model name labels (read bound) (.map members) = .ok result := by
  subst hlabels
  have hdumps : ∀ field ∈ fields, (Value.dumpField? field).isSome = true := by
    intro field hfield
    exact (hreads.dumps field (List.mem_reverse.2 hfield)).dumpField? field.1
  obtain ⟨members, hmembers⟩ := exists_dumpsTo hapart hdumps
  refine ⟨members, hmembers, ?_⟩
  intro bound hbound
  have hread : read bound members = .ok result := by
    apply hreads.reads members bound _ hbound
    intro field hfield
    exact hmembers.found field (List.mem_reverse.1 hfield)
  have hvalue : Members.ofValue? name (.map members) = some members :=
    congrArg some (entriesOf_eq_self hmembers.keys)
  rw [Check.model, hvalue]
  show (read bound members).withFaults _ = _
  rw [hread, hmembers.unknown]
  rfl

/-- A typed record is restored if its fields are read back. -/
theorem restores_model {built : β} (hapart : Label.AreApart labels)
    (hlabels : fields.map Prod.fst = labels)
    (hreads : ReadsBack fields.reverse read built) (hresult : built = result) :
    RestoresBelow 1 (fun bound => Check.model name labels (read bound))
      (.model name fields) result := by
  subst hresult
  obtain ⟨members, hmembers, hcheck⟩ := exists_dumped name hapart hlabels hreads
  refine ⟨.map members, ?_, rfl, hcheck⟩
  rw [Value.dump?, hmembers.dump, Option.map_some]

/-- The tag of a typed record decides about the check of its dump. -/
theorem restores_tagged {tag : String} {built : β}
    (checkModel : Nat → Value → Checked β)
    (hmodel : ∀ bound, checkModel bound = Check.model name labels (read bound))
    (hapart : Label.AreApart labels)
    (hlabels : fields.map Prod.fst = labels)
    (htag : (Label.same "type", Value.text tag) ∈ fields)
    (hcheck : ∀ bound members,
      Members.tagOf? (.map members) = some tag →
      checkModel bound (.map members) = .ok result →
      check bound (.map members) = .ok result)
    (hreads : ReadsBack fields.reverse read built) (hresult : built = result) :
    RestoresBelow 1 check (.model name fields) result := by
  subst hresult
  obtain ⟨members, hmembers, hread⟩ := exists_dumped name hapart hlabels hreads
  have hfind := Option.some.inj (hmembers.found _ htag)
  have htagged : Members.tagOf? (.map members) = some tag := by
    have hvalue : Members.ofAny? (.map members) = some members :=
      congrArg some (entriesOf_eq_self hmembers.keys)
    rw [Members.tagOf?, hvalue, Option.bind_some, ← hfind]
    rfl
  refine ⟨.map members, ?_, rfl, ?_⟩
  · rw [Value.dump?, hmembers.dump, Option.map_some]
  · intro bound hbound
    apply hcheck bound members htagged
    rw [hmodel]
    exact hread bound hbound

end Restoring

end ArangoQuery
