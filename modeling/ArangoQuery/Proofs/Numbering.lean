import ArangoQuery.Proofs.Filling

/-!
# The numbers of names

All stems are free of digits, so a number that has been used with one stem never
gets in the way of another one.  What names are made up therefore shows in the
template: the numbers go up from the counter and pass over those whose names raw
subqueries have brought along (`Template.Fills.generatedNames_eq`).
-/

namespace ArangoQuery

open BindingStore (IsStem leastFree leastFree_nil numbered)

/-! ## Stems -/

/-- A hole has a stem without digits. -/
def Piece.HasStem : Piece → Prop
  | .hole stem _ => IsStem stem
  | _ => True

theorem isStem_literalStem (value : Value) : IsStem (literalStem value) := by
  have harray : IsStem "array" := by decide +kernel
  have hvalue : IsStem "value" := by decide +kernel
  cases value with
  | list items => exact harray
  | _ => exact hvalue

def Template.HasStems (template : Template) : Prop :=
  ∀ piece ∈ template, piece.HasStem

namespace Template.HasStems

variable {left right : Template}

theorem nil : HasStems [] :=
  List.forall_mem_nil _

theorem append (hleft : HasStems left) (hright : HasStems right) :
    HasStems (left ++ right) :=
  List.forall_mem_append.2 ⟨hleft, hright⟩

theorem text (content : String) (hright : HasStems right) :
    HasStems (.text content :: right) :=
  List.forall_mem_cons.2 ⟨trivial, hright⟩

theorem hole {stem : String} (hstem : IsStem stem) (value : Value) :
    HasStems [.hole stem value] :=
  List.forall_mem_cons.2 ⟨hstem, nil⟩

theorem ofText (content : String) : HasStems (Template.ofText content) :=
  text content nil

theorem enclose (opening closing : String) (hinner : HasStems left) :
    HasStems (Template.enclose opening left closing) :=
  (text opening hinner).append (ofText closing)

theorem intercalate (separator : String) {templates : List Template}
    (htemplates : ∀ template ∈ templates, HasStems template) :
    HasStems (Template.intercalate separator templates) := by
  induction templates with
  | nil => exact nil
  | cons template rest hrest =>
      obtain ⟨htemplate, htail⟩ := List.forall_mem_cons.1 htemplates
      cases rest with
      | nil => exact htemplate
      | cons next rest => exact htemplate.append (text separator (hrest htail))

theorem document {document : Document Template}
    (hparts : ∀ part ∈ Document.parts document, HasStems part) :
    HasStems (Document.template document) := by
  apply enclose
  apply intercalate
  refine List.forall_mem_map.2 ?_
  intro member hmember
  exact text _ (hparts member.2 (List.mem_map_of_mem hmember))

theorem record {record : Record Template}
    (hparts : ∀ part ∈ record.parts, HasStems part) :
    HasStems record.template :=
  Record.template_forall (fun _ => trivial) (fun _ => trivial) hparts

end Template.HasStems

open Template.HasStems

theorem rightTemplate_hasStems (operator : BinaryOperator)
    {right : Expr × Template} (hright : right.2.HasStems) :
    (rightTemplate operator right).HasStems := by
  unfold rightTemplate
  split
  · exact hole (by decide +kernel) _
  · exact hright

theorem subqueryTemplate_hasStems {query : Record (Expr × Template)}
    (hparts : ∀ part ∈ query.parts, part.2.HasStems) :
    (subqueryTemplate query).HasStems := by
  have hlines : ∀ part ∈ (query.map Prod.snd).parts, part.HasStems := by
    rw [Record.parts_map]
    exact List.forall_mem_map.2 hparts
  unfold subqueryTemplate
  split
  · exact List.forall_mem_cons.2 ⟨trivial, text _ nil⟩
  · split
    · exact List.forall_mem_cons.2 ⟨trivial, nil⟩
    · exact record hlines

theorem Node.template_hasStems {node : Node (Expr × Template)}
    (hparts : ∀ part ∈ node.parts, part.2.HasStems) :
    (Node.template node).HasStems := by
  cases node with
  | literal value => exact hole (isStem_literalStem value) value
  | reference path => exact ofText path
  | parameter placeholder => exact ofText _
  | binary operator left right =>
      simp only [parts, List.forall_mem_cons] at hparts
      exact enclose _ _ (hparts.1.append
        (text _ (rightTemplate_hasStems operator hparts.2.1)))
  | unary operator operand =>
      simp only [parts, List.forall_mem_cons] at hparts
      exact text _ hparts.1
  | call function arguments =>
      exact enclose _ _ (intercalate _ (List.forall_mem_map.2 hparts))
  | ternary condition thenValue elseValue =>
      simp only [parts, List.forall_mem_cons] at hparts
      exact enclose _ _ ((hparts.1.append (text _ hparts.2.1)).append
        (text _ hparts.2.2.1))
  | like subject pattern ignoreCase =>
      simp only [parts, List.forall_mem_cons] at hparts
      have hpattern : IsStem "likePattern" := by decide +kernel
      cases ignoreCase <;>
        exact enclose _ _ (hparts.1.append (text _ (hole hpattern _)))
  | regex subject pattern flags =>
      simp only [parts, List.forall_mem_cons] at hparts
      have hpattern : IsStem "regexPattern" := by decide +kernel
      exact enclose _ _ (hparts.1.append (text _ (hole hpattern _)))
  | old path => exact ofText path
  | quantified quantifier subject condition =>
      simp only [parts, List.forall_mem_cons] at hparts
      exact enclose _ _ (hparts.1.append (text _ hparts.2.1))
  | unset document fields =>
      simp only [parts, List.forall_mem_cons] at hparts
      have hfield : IsStem "value" := by decide +kernel
      exact enclose _ _ (intercalate _ (List.forall_mem_cons.2
        ⟨hparts.1, List.forall_mem_map.2 fun _ _ => hole hfield _⟩))
  | object members =>
      apply document
      rw [Document.parts_map]
      exact List.forall_mem_map.2 hparts
  | array items =>
      exact enclose _ _ (intercalate _ (List.forall_mem_map.2 hparts))
  | subquery query =>
      exact enclose _ _ (subqueryTemplate_hasStems hparts)
  | stray content => exact List.forall_mem_cons.2 ⟨trivial, nil⟩

theorem Expr.template_hasStems (expr : Expr) : expr.template.HasStems := by
  induction expr using Expr.induction with
  | step node hparts =>
      rw [Expr.template, Expr.fold_of]
      apply Node.template_hasStems
      rw [Node.parts_map]
      exact List.forall_mem_map.2 hparts

theorem Query.template_hasStems (query : Query) : query.template.HasStems := by
  apply subqueryTemplate_hasStems
  rw [Record.parts_map]
  exact List.forall_mem_map.2 fun part _ => part.template_hasStems

/-! ## What is in use -/

namespace BindingStore

variable {store : BindingStore String} {taken : List String}

/-- The names of a store have been taken over from somewhere or were made up with
a number that the counter has passed. -/
structure Accounts (store : BindingStore String) (taken : List String) :
    Prop where
  overtaken : ∀ name ∈ taken, name ∈ store.names
  generated : ∀ name ∈ store.names, name ∈ taken ∨
    ∃ stem number, IsStem stem ∧ number < store.counter ∧
      name = numbered stem number

theorem accounts_empty : Accounts {} [] :=
  { overtaken := List.forall_mem_nil _
    generated := List.forall_mem_nil _ }

namespace Accounts

/-- Only names taken over get in the way of a new one. -/
theorem nextNumber_eq (haccounts : store.Accounts taken) {stem : String}
    (hstem : IsStem stem) :
    store.nextNumber stem = leastFree taken stem store.counter := by
  have hfree (number : Nat) (hcounter : store.counter ≤ number) :
      numbered stem number ∉ store.names ↔ numbered stem number ∉ taken := by
    apply not_congr
    constructor
    · intro hname
      rcases haccounts.generated _ hname with htaken | hgenerated
      · exact htaken
      · obtain ⟨stem', number', hstem', hnumber, heq⟩ := hgenerated
        have hsame := (BindingStore.numbered_inj hstem hstem' heq).2
        omega
    · exact haccounts.overtaken _
  have hsets : {number | store.counter ≤ number ∧
        numbered stem number ∉ store.names} =
      {number | store.counter ≤ number ∧ numbered stem number ∉ taken} := by
    ext number
    exact and_congr_right (hfree number)
  have hleast := store.nextNumber_isLeast stem
  rw [hsets] at hleast
  exact hleast.unique (leastFree_isLeast taken stem store.counter)

theorem bind (haccounts : store.Accounts taken) {stem : String}
    (hstem : IsStem stem) (value : Value) :
    (store.bind stem value).2.Accounts taken := by
  have hcounter : store.counter ≤ store.nextNumber stem :=
    (store.nextNumber_isLeast stem).1.1
  constructor
  · intro name hname
    rw [names_bind]
    exact List.mem_append_left _ (haccounts.overtaken name hname)
  · intro name hname
    rw [names_bind, List.mem_append, List.mem_singleton] at hname
    rcases hname with hold | hnew
    · rcases haccounts.generated name hold with htaken | hgenerated
      · exact .inl htaken
      · obtain ⟨stem', number, hstem', hnumber, heq⟩ := hgenerated
        exact .inr ⟨stem', number, hstem',
          Nat.lt_succ_of_lt (Nat.lt_of_lt_of_le hnumber hcounter), heq⟩
    · exact .inr ⟨stem, _, hstem, Nat.lt_succ_self _, hnew⟩

theorem merge (haccounts : store.Accounts taken) {last : BindingStore String}
    {bindings : List (String × Value)}
    (hmerge : store.merge bindings = (none, last)) :
    last.Accounts (taken ++ bindings.map Prod.fst) := by
  constructor
  · intro name hname
    rw [mem_names_merge hmerge]
    rcases List.mem_append.1 hname with htaken | hbinding
    · exact .inl (haccounts.overtaken name htaken)
    · exact .inr hbinding
  · intro name hname
    rw [counter_merge hmerge]
    rcases (mem_names_merge hmerge name).1 hname with hold | hbinding
    · rcases haccounts.generated name hold with htaken | hgenerated
      · exact .inl (List.mem_append_left _ htaken)
      · exact .inr hgenerated
    · exact .inl (List.mem_append_right _ hbinding)

end Accounts

end BindingStore

/-! ## Numbers read off a template -/

namespace Template

variable {template : Template} {store last : BindingStore String}
variable {text : String} {taken : List String}

/-- The names that a template will be given: each number is the least from the
last one on whose name has not been taken over. -/
def numberedNames : Template → List String → Nat → List String
  | [], _, _ => []
  | .text _ :: rest, taken, counter => numberedNames rest taken counter
  | .hole stem _ :: rest, taken, counter =>
      let number := leastFree taken stem counter
      numbered stem number :: numberedNames rest taken (number + 1)
  | .adopt bindings :: rest, taken, counter =>
      numberedNames rest (taken ++ bindings.map Prod.fst) counter
  | .halt _ :: _, _, _ => []

/-- The names made up while a template is filled are those read off it. -/
theorem Fills.generatedNames_eq (hfills : Fills template store text last)
    (hstems : template.HasStems) (haccounts : store.Accounts taken) :
    Request.generatedNames (template.requests store) =
      template.numberedNames taken store.counter := by
  induction hfills generalizing taken with
  | nil store => rfl
  | text content run hrun =>
      obtain ⟨-, htail⟩ := List.forall_mem_cons.1 hstems
      exact hrun htail haccounts
  | @hole stem value _ store _ _ run hrun =>
      obtain ⟨hstem, htail⟩ := List.forall_mem_cons.1 hstems
      have hnumber := haccounts.nextNumber_eq hstem
      rw [numberedNames, ← hnumber]
      exact congrArg (numbered stem (store.nextNumber stem) :: ·)
        (hrun htail (haccounts.bind hstem value))
  | adopt hmerge run hrun =>
      obtain ⟨-, htail⟩ := List.forall_mem_cons.1 hstems
      have hnames := hrun htail (haccounts.merge hmerge)
      rw [BindingStore.counter_merge hmerge] at hnames
      rw [requests, Request.generatedNames_taken_append, hmerge]
      exact hnames

/-- No name is made up twice, and none that is in use. -/
theorem Fills.generatedNames_fresh (hfills : Fills template store text last) :
    (Request.generatedNames (template.requests store)).Nodup ∧
      ∀ name ∈ Request.generatedNames (template.requests store),
        name ∉ store.names := by
  induction hfills with
  | nil store => exact ⟨List.nodup_nil, List.forall_mem_nil _⟩
  | text content run hrun => exact hrun
  | @hole stem value _ store _ _ run hrun =>
      obtain ⟨hnodup, hfresh⟩ := hrun
      rw [BindingStore.names_bind] at hfresh
      constructor
      · refine List.nodup_cons.2 ⟨?_, hnodup⟩
        intro hname
        exact hfresh _ hname
          (List.mem_append_right _ (List.mem_singleton_self _))
      · refine List.forall_mem_cons.2 ⟨store.bind_fresh stem value, ?_⟩
        intro name hname hused
        exact hfresh name hname (List.mem_append_left _ hused)
  | adopt hmerge run hrun =>
      obtain ⟨hnodup, hfresh⟩ := hrun
      rw [requests, Request.generatedNames_taken_append, hmerge]
      refine ⟨hnodup, ?_⟩
      intro name hname hused
      exact hfresh name hname
        ((BindingStore.mem_names_merge hmerge name).2 (.inl hused))

/-- Without raw subqueries no number is passed over. -/
theorem numberedNames_of_isPlain
    (hplain : ∀ piece ∈ template, piece.isPlain = true) (counter : Nat) :
    template.numberedNames [] counter =
      template.calls.mapIdx fun position (stem, _) =>
        numbered stem (counter + position) := by
  induction template generalizing counter with
  | nil => rfl
  | cons piece rest hrest =>
      obtain ⟨hpiece, htail⟩ := List.forall_mem_cons.1 hplain
      cases piece with
      | text content => exact hrest htail counter
      | hole stem value =>
          have hcalls : calls (.hole stem value :: rest) =
              (stem, value) :: calls rest := rfl
          rw [hcalls, List.mapIdx_cons, numberedNames, leastFree_nil,
            hrest htail]
          simp [Nat.add_assoc, Nat.add_comm 1]
      | adopt bindings => exact absurd hpiece Bool.false_ne_true
      | halt error => exact absurd hpiece Bool.false_ne_true

end Template

end ArangoQuery
