import ArangoQuery.Proofs.Filling
import ArangoQuery.Proofs.Typed

/-!
# Queries without their data

`Query.withoutData` blanks the data of a query: literals, patterns, the names of
unset fields and the values of raw bindings.  Of a literal only remains whether
it is a list, which decides the stem of its name.  Templates are blanked in the
same way, and a query may be blanked before or after its template is written
(`Query.template_withoutData`).  The proof goes through for any change of pieces
that does not see their data (`Query.template_blank`).

A field that takes whatever it is given is not data: what it holds is written
into the text.
-/

namespace ArangoQuery

open Template (enclose intercalate map_enclose map_intercalate)
open Record (members)

/-! ## Blank data -/

namespace Value

/-- A list becomes the empty list, anything else the empty text. -/
def withoutData : Value → Value
  | .list _ => .list []
  | _ => .text ""

end Value

/-- Bindings without their values. -/
def blankBindings (bindings : List (String × Value)) : List (String × Value) :=
  bindings.map fun (name, _) => (name, .null)

theorem map_fst_blankBindings (bindings : List (String × Value)) :
    (blankBindings bindings).map Prod.fst = bindings.map Prod.fst := by
  simp [blankBindings]

variable {α β : Type}

def Record.withoutRawData (record : Record α) : Record α :=
  { record with rawBindings := record.rawBindings.map blankBindings }

def Node.withoutData : Node α → Node α
  | .literal value => .literal value.withoutData
  | .like subject _ ignoreCase => .like subject "" ignoreCase
  | .regex subject _ flags => .regex subject "" flags
  | .unset document fields => .unset document (fields.map fun _ => "")
  | .subquery query => .subquery query.withoutRawData
  | node => node

def Expr.withoutData : Expr → Expr :=
  Expr.reduce fun node => .of node.withoutData

/-- A query with all its data blanked, at any depth. -/
def Query.withoutData (query : Query) : Query :=
  (query.map Expr.withoutData).withoutRawData

theorem Node.withoutData_map (f : α → β) (node : Node α) :
    (node.map f).withoutData = node.withoutData.map f := by
  cases node <;> rfl

theorem Expr.withoutData_of (node : Node Expr) :
    (Expr.of node).withoutData =
      .of (node.withoutData.map Expr.withoutData) := by
  rw [Expr.withoutData, Expr.reduce_of, Node.withoutData_map]

/-! ## Blank templates -/

/-- The description of a source shows the data in its options. -/
def ConfigurationFault.withoutData : ConfigurationFault → ConfigurationFault
  | .viewIsNotSource view _ => .viewIsNotSource view .null
  | fault => fault

def Error.withoutData : Error → Error
  | .configuration fault => .configuration fault.withoutData
  | error => error

def Piece.withoutData : Piece → Piece
  | .text content => .text content
  | .hole stem value => .hole stem value.withoutData
  | .adopt bindings => .adopt (blankBindings bindings)
  | .halt error => .halt error.withoutData

def Template.withoutData : Template → Template :=
  List.map Piece.withoutData

theorem Piece.keepsText_withoutData : KeepsText Piece.withoutData :=
  { text := fun _ => rfl
    typeFault := fun _ => rfl }

@[simp]
theorem Piece.isPlain_withoutData (piece : Piece) :
    piece.withoutData.isPlain = piece.isPlain := by
  cases piece <;> rfl

/-! ## Faults -/

namespace Query

/-- Of the faults of a query those of its searches alone look at expressions. -/
theorem faults_map_eq (f : Expr → Expr) (query : Query) :
    faults (query.map f) =
      query.loopFaults ++ query.sourceFaults ++ searchFaults (query.map f) ++
        query.traversalFaults ++ query.modificationFaults ++
        query.countFaults ++ query.windowFaults := by
  have hpresent := Slot.isPresentSource_map f query.source
  have hsource (field : SourceField) (source : Option (Slot (Source Expr))) :
      ConfigurationFault.ofSource field
          (source.map (Slot.map (Source.map f))) =
        ConfigurationFault.ofSource field source := by
    rcases source with _ | ⟨_ | _ | _⟩ | _ <;> rfl
  have hloops : loopFaults (query.map f) = loopFaults query := by
    simp only [loopFaults, Record.map, hpresent, Record.members_map,
      List.flatMap_map, Join.map, Slot.isPresentSource_map]
  have hsources : sourceFaults (query.map f) = sourceFaults query := by
    simp only [sourceFaults, Record.map, hsource, Record.members_map,
      List.flatMap_map, Join.map]
  have hmodifications :
      modificationFaults (query.map f) = modificationFaults query := by
    simp only [modificationFaults, Record.map, Record.members_map,
      List.all_map, Function.comp_def, Operation.map, Update.map]
  have hwindows : windowFaults (query.map f) = windowFaults query := by
    simp only [windowFaults, Record.map, Record.members_map, List.flatMap_map,
      Window.map]
  have htraversals :
      traversalFaults (query.map f) = traversalFaults query := rfl
  have hcounts : countFaults (query.map f) = countFaults query := rfl
  rw [faults, hloops, hsources, htraversals, hmodifications, hcounts, hwindows]

/-- The faults of a query whose expressions are replaced differ at most in a
description. -/
theorem faults_map (f : Expr → Expr) (query : Query) :
    (faults (query.map f)).map ConfigurationFault.withoutData =
      (faults query).map ConfigurationFault.withoutData := by
  have hsearches : (searchFaults (query.map f)).map
        ConfigurationFault.withoutData =
      (searchFaults query).map ConfigurationFault.withoutData := by
    simp only [searchFaults, Record.map, Record.members_map, List.flatMap_map,
      Search.map, List.map_flatMap]
    rcases query.source with _ | ⟨_ | _ | _⟩ | _ <;> rfl
  rw [faults_map_eq, faults]
  simp only [List.map_append, hsearches]

end Query

/-! ## Blanking before and after writing -/

/-- A change of pieces that does not see their data. -/
structure IgnoresData (change : Piece → Piece) : Prop
    extends KeepsText change where
  hole : ∀ stem value,
    change (.hole stem value.withoutData) = change (.hole stem value)
  adopt : ∀ bindings,
    change (.adopt (blankBindings bindings)) = change (.adopt bindings)

theorem IgnoresData.textHole {change : Piece → Piece}
    (hchange : IgnoresData change) (stem content : String) :
    change (.hole stem (.text "")) = change (.hole stem (.text content)) :=
  hchange.hole stem (.text content)

theorem Piece.ignoresData_withoutData : IgnoresData Piece.withoutData where
  toKeepsText := Piece.keepsText_withoutData
  hole stem value := by cases value <;> rfl
  adopt bindings := by simp [Piece.withoutData, blankBindings]

/-- Two queries have faults that a change of pieces makes equal. -/
def HaltsAlike (change : Piece → Piece) (left right : Query) : Prop :=
  left.faults.map (fun fault => change (.halt (.configuration fault))) =
    right.faults.map fun fault => change (.halt (.configuration fault))

/-- One part is another one without its data, and a change of pieces makes their
templates equal. -/
structure Blanks (change : Piece → Piece) (blank part : Expr × Template) :
    Prop where
  expr : blank.1 = part.1.withoutData
  template : blank.2.map change = part.2.map change

section Parts

variable {change : Piece → Piece} (hchange : IgnoresData change)
variable {f g : α → Expr × Template}

include hchange

theorem rightTemplate_blank (operator : BinaryOperator)
    {blank right : Expr × Template} (hright : Blanks change blank right) :
    (rightTemplate operator blank).map change =
      (rightTemplate operator right).map change := by
  obtain ⟨expr, template⟩ := blank
  obtain ⟨⟨node⟩, template'⟩ := right
  obtain rfl : expr = _ := hright.expr.trans (Expr.withoutData_of node)
  have htemplate : template.map change = template'.map change :=
    hright.template
  rw [rightTemplate, rightTemplate]
  cases operator.isMembership with
  | false => exact htemplate
  | true =>
      cases node with
      | literal value =>
          cases value with
          | list items => exact congrArg ([·]) (hchange.hole _ (.list items))
          | _ => exact htemplate
      | _ => exact htemplate

omit hchange in
theorem map_templates_blank (parts : List α)
    (h : ∀ part ∈ parts, Blanks change (f part) (g part)) :
    ((parts.map f).map Prod.snd).map (List.map change) =
      ((parts.map g).map Prod.snd).map (List.map change) := by
  simp only [List.map_map]
  apply List.map_congr_left
  intro part hpart
  exact (h part hpart).template

theorem Document.template_blank {document : Document α}
    (h : ∀ part ∈ parts document, Blanks change (f part) (g part)) :
    (Document.map Prod.snd (Document.map f document)).template.map change =
      (Document.map Prod.snd
        (Document.map g document)).template.map change := by
  rw [template_map hchange.toKeepsText, template_map hchange.toKeepsText]
  simp only [map_map]
  apply congrArg
  apply map_congr
  intro part hpart
  exact (h part hpart).template

theorem Record.template_blank {record : Record α}
    (h : ∀ part ∈ record.parts, Blanks change (f part) (g part)) :
    ((record.map f).map Prod.snd).template.map change =
      ((record.map g).map Prod.snd).template.map change := by
  rw [template_map hchange.toKeepsText, template_map hchange.toKeepsText]
  simp only [map_map]
  apply congrArg
  apply map_congr
  intro part hpart
  exact (h part hpart).template

omit hchange in
theorem Record.map_fst_blank {record : Record α}
    (h : ∀ part ∈ record.parts, Blanks change (f part) (g part)) :
    (record.map f).map Prod.fst =
      ((record.map g).map Prod.fst).map Expr.withoutData := by
  simp only [Record.map_map]
  apply Record.map_congr
  intro part hpart
  exact (h part hpart).expr

/-- Subqueries that differ in their data halt alike or have the same lines. -/
theorem subqueryTemplate_blank (record : Record α)
    (h : ∀ part ∈ record.parts, Blanks change (f part) (g part))
    (hfaults : HaltsAlike change ((record.map f).map Prod.fst)
      ((record.map g).map Prod.fst)) :
    (subqueryTemplate (record.withoutRawData.map f)).map change =
      (subqueryTemplate (record.map g)).map change := by
  -- What is blanked in a record itself shows in its raw bindings only.
  have hfst : Query.faults ((record.withoutRawData.map f).map Prod.fst) =
      Query.faults ((record.map f).map Prod.fst) := rfl
  have hsnd : ((record.withoutRawData.map f).map Prod.snd).template =
      ((record.map f).map Prod.snd).template := rfl
  cases hraw : record.raw with
  | some raw =>
      have hbindings : members (record.withoutRawData.map f).rawBindings =
          blankBindings (members (record.map g).rawBindings) := by
        simp only [Record.withoutRawData, Record.map]
        cases record.rawBindings <;> rfl
      rw [subqueryTemplate_of_raw (show _ = some raw from hraw),
        subqueryTemplate_of_raw (show _ = some raw from hraw), hbindings]
      exact congrArg (fun adopted => [adopted, change (.text raw)])
        (hchange.adopt _)
  | none =>
      rw [HaltsAlike] at hfaults
      cases hleft : Query.faults ((record.map f).map Prod.fst) with
      | nil =>
          have hright : Query.faults ((record.map g).map Prod.fst) = [] := by
            rw [hleft] at hfaults
            exact List.map_eq_nil_iff.1 hfaults.symm
          rw [subqueryTemplate_of_sound hraw (hfst.trans hleft),
            subqueryTemplate_of_sound hraw hright, hsnd]
          exact Record.template_blank hchange h
      | cons fault faults =>
          cases hright : Query.faults ((record.map g).map Prod.fst) with
          | nil => simp [hleft, hright] at hfaults
          | cons fault' faults' =>
              rw [hleft, hright] at hfaults
              rw [subqueryTemplate_of_fault hraw (hfst.trans hleft),
                subqueryTemplate_of_fault hraw hright]
              exact congrArg ([·]) (List.cons.inj hfaults).1

/-- What is written for two nodes that differ in their data differs in data
only. -/
theorem Node.template_blank {node : Node α}
    (h : ∀ part ∈ node.parts, Blanks change (f part) (g part))
    (hfaults : ∀ record, node = .subquery record →
      HaltsAlike change ((record.map f).map Prod.fst)
        ((record.map g).map Prod.fst)) :
    (Node.template (node.withoutData.map f)).map change =
      (Node.template (node.map g)).map change := by
  have hkeeps := hchange.toKeepsText
  cases node with
  | literal value =>
      have hhole := hchange.hole (literalStem value) value
      cases value <;> exact congrArg ([·]) hhole
  | reference path => rfl
  | parameter placeholder => rfl
  | old path => rfl
  | stray content => rfl
  | binary operator left right =>
      simp only [parts, List.forall_mem_cons] at h
      obtain ⟨hleft, hright, -⟩ := h
      simp [Node.template, Node.withoutData, Node.map, map_enclose hkeeps,
        hleft.template, rightTemplate_blank hchange operator hright]
  | unary operator operand =>
      simp only [parts, List.forall_mem_cons] at h
      simp [Node.template, Node.withoutData, Node.map, h.1.template]
  | call function arguments =>
      have harguments := map_templates_blank arguments h
      simp only [Node.template, Node.withoutData, Node.map,
        map_enclose hkeeps, map_intercalate hkeeps, harguments]
  | ternary condition thenValue elseValue =>
      simp only [parts, List.forall_mem_cons] at h
      obtain ⟨hcondition, hthen, helse, -⟩ := h
      simp [Node.template, Node.withoutData, Node.map, map_enclose hkeeps,
        hcondition.template, hthen.template, helse.template]
  | like subject pattern ignoreCase =>
      simp only [parts, List.forall_mem_cons] at h
      have hhole := hchange.textHole "likePattern" pattern
      cases ignoreCase <;>
        simp [Node.template, Node.withoutData, Node.map, map_enclose hkeeps,
          h.1.template, hhole]
  | regex subject pattern flags =>
      simp only [parts, List.forall_mem_cons] at h
      have hhole := hchange.textHole "regexPattern" pattern
      simp [Node.template, Node.withoutData, Node.map, map_enclose hkeeps,
        h.1.template, hhole]
  | quantified quantifier subject condition =>
      simp only [parts, List.forall_mem_cons] at h
      obtain ⟨hsubject, hcondition, -⟩ := h
      simp [Node.template, Node.withoutData, Node.map, map_enclose hkeeps,
        hsubject.template, hcondition.template]
  | unset document fields =>
      simp only [parts, List.forall_mem_cons] at h
      have hfields :
          fields.map (fun _ => [change (.hole "value" (.text ""))]) =
            fields.map fun field => [change (.hole "value" (.text field))] := by
        apply List.map_congr_left
        intro field _
        rw [hchange.textHole "value" field]
      simp only [Node.template, Node.withoutData, Node.map,
        map_enclose hkeeps, map_intercalate hkeeps, List.map_cons,
        List.map_map, Function.comp_def, List.map_nil, h.1.template, hfields]
  | object members => exact Document.template_blank hchange h
  | array items =>
      have hitems := map_templates_blank items h
      simp only [Node.template, Node.withoutData, Node.map,
        map_enclose hkeeps, map_intercalate hkeeps, hitems]
  | subquery query =>
      have hquery := subqueryTemplate_blank hchange query h (hfaults query rfl)
      simp only [Node.template, Node.withoutData, Node.map,
        map_enclose hkeeps, hquery]

end Parts

section Everywhere

variable {change : Piece → Piece} (hchange : IgnoresData change)
variable {holds : Node Unit → Bool}

/-- Blanking the data of a query that passes a test changes its faults only in
what a change of pieces takes away. -/
def HidesFaults (change : Piece → Piece) (holds : Node Unit → Bool) : Prop :=
  ∀ query : Query, holds (.subquery (query.map fun _ => ())) = true →
    HaltsAlike change (query.map Expr.withoutData) query

include hchange

theorem Expr.template_blank (hfaults : HidesFaults change holds) (expr : Expr)
    (hexpr : expr.everywhere holds = true) :
    expr.withoutData.template.map change = expr.template.map change := by
  induction expr using Expr.induction with
  | step node hparts =>
      rw [everywhere_of, Bool.and_eq_true, List.all_eq_true] at hexpr
      have hpart : ∀ part ∈ node.parts,
          Blanks change (Expr.withFold Node.template part.withoutData)
            (Expr.withFold Node.template part) := by
        intro part hpart
        exact
          { expr := rfl
            template := hparts part hpart (hexpr.2 part hpart) }
      rw [Expr.withoutData_of, Expr.template, Expr.fold_of, Expr.fold_of,
        Node.map_map]
      apply Node.template_blank hchange hpart
      rintro query rfl
      rw [Record.map_fst_blank hpart, Query.map_fst_withFold]
      exact hfaults query hexpr.1

theorem Query.template_blank (hfaults : HidesFaults change holds) (query : Query)
    (hquery : (Expr.subquery query).everywhere holds = true) :
    query.withoutData.template.map change = query.template.map change := by
  rw [Expr.subquery, Expr.everywhere_of, Bool.and_eq_true,
    List.all_eq_true] at hquery
  have hpart : ∀ part ∈ query.parts,
      Blanks change (Expr.withFold Node.template part.withoutData)
        (Expr.withFold Node.template part) := by
    intro part hpart
    exact
      { expr := rfl
        template :=
          part.template_blank hchange hfaults (hquery.2 part hpart) }
  have hblank : query.withoutData.map (Expr.withFold Node.template) =
      query.withoutRawData.map
        (Expr.withFold Node.template ∘ Expr.withoutData) := by
    rw [← Record.map_map]
    rfl
  rw [template, template, hblank]
  apply subqueryTemplate_blank hchange query hpart
  have hfst := Record.map_fst_blank hpart
  rw [Query.map_fst_withFold] at hfst
  rw [Query.map_fst_withFold]
  exact hfst ▸ hfaults query hquery.1

end Everywhere

/-- Every expression passes a test that passes everything. -/
theorem Expr.everywhere_true (expr : Expr) :
    expr.everywhere (fun _ => true) = true := by
  induction expr using Expr.induction with
  | step node hparts =>
      rw [everywhere_of, Bool.true_and, List.all_eq_true]
      exact hparts

theorem hidesFaults_withoutData :
    HidesFaults Piece.withoutData fun _ => true := by
  intro query _
  have hquery := congrArg (List.map fun fault =>
    Piece.halt (.configuration fault)) (query.faults_map Expr.withoutData)
  simpa [HaltsAlike, Piece.withoutData, Error.withoutData,
    Function.comp_def] using hquery

theorem Expr.template_withoutData (expr : Expr) :
    expr.withoutData.template.withoutData = expr.template.withoutData :=
  expr.template_blank Piece.ignoresData_withoutData hidesFaults_withoutData
    expr.everywhere_true

/-- A query may be blanked before or after its template is written. -/
theorem Query.template_withoutData (query : Query) :
    query.withoutData.template.withoutData = query.template.withoutData :=
  query.template_blank Piece.ignoresData_withoutData hidesFaults_withoutData
    (Expr.everywhere_true _)

end ArangoQuery
