import ArangoQuery.Proofs.Compilability
import ArangoQuery.Proofs.KeptValues
import ArangoQuery.Proofs.Reading

/-!
# Expressions are uniquely readable

An expression without subqueries, whose names are paths and whose parameters
cannot be taken for data, is read back from the text that it is compiled to
(`Expr.reads`), with the values of the placeholders.  So two expressions with the
same text and the same values are one expression (`Expr.uniquely_readable`), up
to what the text does not show: whether a path refers to the previous revision of
a document, and which flags besides that for the case of letters a pattern has.
-/

namespace ArangoQuery

open BindingStore
open Reading
open Template

/-! ## Written templates -/

section Written

variable (values : String → Option Value)

/-- The texts that a template may be filled to, if the names of its data have the
given values. -/
def Template.Written : Template → List Char → Prop
  | [], characters => characters = []
  | .text content :: template, characters =>
      ∃ rest, characters = content.toList ++ rest ∧ Written template rest
  | .hole stem value :: template, characters =>
      ∃ number rest, values (numbered stem number) = some value.json ∧
        characters = '@' :: (numbered stem number).toList ++ rest ∧
        Written template rest
  | _ :: _, _ => False

variable {values}

theorem written_append {left right : Template} {characters : List Char}
    (hwritten : Written values (left ++ right) characters) :
    ∃ front back, characters = front ++ back ∧ Written values left front ∧
      Written values right back := by
  induction left generalizing characters with
  | nil => exact ⟨[], characters, rfl, rfl, hwritten⟩
  | cons piece left hleft =>
      cases piece with
      | text content =>
          obtain ⟨rest, rfl, hrest⟩ := hwritten
          obtain ⟨front, back, rfl, hfront, hback⟩ := hleft hrest
          exact ⟨content.toList ++ front, back, (List.append_assoc ..).symm,
            ⟨front, rfl, hfront⟩, hback⟩
      | hole stem value =>
          obtain ⟨number, rest, hvalue, rfl, hrest⟩ := hwritten
          obtain ⟨front, back, rfl, hfront, hback⟩ := hleft hrest
          exact ⟨'@' :: (numbered stem number).toList ++ front, back,
            (List.append_assoc ..).symm,
            ⟨number, front, hvalue, rfl, hfront⟩, hback⟩
      | adopt bindings => exact hwritten.elim
      | halt error => exact hwritten.elim

theorem written_text {content : String} {characters : List Char}
    (hwritten : Written values [.text content] characters) :
    characters = content.toList := by
  obtain ⟨rest, rfl, rfl⟩ := hwritten
  exact List.append_nil _

theorem written_hole {stem : String} {value : Value} {characters : List Char}
    (hwritten : Written values [.hole stem value] characters) :
    ∃ number, values (numbered stem number) = some value.json ∧
      characters = '@' :: (numbered stem number).toList := by
  obtain ⟨number, rest, hvalue, rfl, rfl⟩ := hwritten
  exact ⟨number, hvalue, List.append_nil _⟩

theorem written_enclose {opening closing : String} {inner : Template}
    {characters : List Char}
    (hwritten : Written values (enclose opening inner closing) characters) :
    ∃ middle, characters = opening.toList ++ (middle ++ closing.toList) ∧
      Written values inner middle := by
  obtain ⟨rest, rfl, hrest⟩ := hwritten
  obtain ⟨middle, back, rfl, hmiddle, hback⟩ := written_append hrest
  rw [written_text hback]
  exact ⟨middle, rfl, hmiddle⟩

theorem written_intercalate {templates : List Template}
    {characters : List Char}
    (hwritten : Written values (intercalate ", " templates) characters) :
    ∃ texts, characters = joined texts ∧
      List.Forall₂ (Written values) templates texts := by
  cases templates with
  | nil => exact ⟨[], hwritten, .nil⟩
  | cons template templates =>
      have htail : ∃ front texts, characters = front ++ tail texts ∧
          Written values template front ∧
          List.Forall₂ (Written values) templates texts := by
        induction templates generalizing template characters with
        | nil => exact ⟨characters, [], (List.append_nil _).symm, hwritten, .nil⟩
        | cons next templates htemplates =>
            obtain ⟨front, back, rfl, hfront, hback⟩ := written_append hwritten
            obtain ⟨rest, rfl, hrest⟩ := hback
            obtain ⟨second, texts, rfl, hsecond, htexts⟩ := htemplates _ hrest
            refine ⟨front, second :: texts, ?_, hfront, .cons hsecond htexts⟩
            simp [tail]
      obtain ⟨front, texts, rfl, hfront, htexts⟩ := htail
      exact ⟨front :: texts, rfl, .cons hfront htexts⟩

/-- Templates with commas between them, in brackets. -/
theorem written_list {opening closing : String} {templates : List Template}
    {characters : List Char}
    (hwritten : Written values
      (enclose opening (intercalate ", " templates) closing) characters) :
    ∃ texts,
      characters = opening.toList ++ (joined texts ++ closing.toList) ∧
      List.Forall₂ (Written values) templates texts := by
  obtain ⟨middle, rfl, hmiddle⟩ := written_enclose hwritten
  obtain ⟨texts, rfl, htexts⟩ := written_intercalate hmiddle
  exact ⟨texts, rfl, htexts⟩

end Written

/-! ## Expressions that can be read back -/

/-- Paths and names of functions are made of identifiers, no parameter is named
like data, and nothing is a subquery. -/
def Node.isReadable {α : Type} : Node α → Bool
  | .reference path => isPath path
  | .old path => isPath path
  | .parameter placeholder =>
      !isNumberedBy (valueStems ++ patternStems) placeholder.name.text
  | .call function _ => isIdentifier function && function != "UNSET"
  | .subquery _ => false
  | .stray _ => false
  | _ => true

def Expr.isReadable : Expr → Bool :=
  everywhere Node.isReadable

theorem Node.isReadable_map {α β : Type} (f : α → β) (node : Node α) :
    (node.map f).isReadable = node.isReadable := by
  cases node <;> rfl

theorem Expr.isReadable_of (node : Node Expr) :
    (Expr.of node).isReadable =
      (node.isReadable && node.parts.all isReadable) := by
  rw [isReadable, everywhere_of, Node.isReadable_map]

/-- A node up to what neither its text nor the JSON of its data shows. -/
def Node.canonical {α : Type} : Node α → Node α
  | .literal value => .literal value.json
  | .old path => .reference path
  | .regex subject pattern flags =>
      .regex subject pattern (if hasIgnoreCase flags then some "i" else none)
  | node => node

def Expr.canonical : Expr → Expr :=
  reduce fun node => .of node.canonical

theorem Expr.canonical_of (node : Node Expr) :
    (Expr.of node).canonical = .of (node.map canonical).canonical :=
  reduce_of ..

/-! ## Reading back -/

section ReadBack

variable {values : String → Option Value} {depth : Nat}
variable {text : List Char}

/-- An expression is read back from its text by the reader of a given depth.  The
depth leaves room for what a node writes besides its parts, such as the third
argument of a call. -/
structure IsReadAt (values : String → Option Value) (depth : Nat)
    (expr : Expr) : Prop where
  depth_pos : 0 < depth
  reads : ∀ text, Written values expr.template text →
    Reads (Expr.read values depth) text expr.canonical

/-- Items are read back from their texts one by one. -/
theorem forall₂_reads {ι α : Type} {reader : Reader α} {items : List ι}
    {template : ι → Template} {result : ι → α} {texts : List (List Char)}
    (hitems : ∀ item ∈ items, ∀ text, Written values (template item) text →
      Reads reader text (result item))
    (hwritten : List.Forall₂ (Written values) (items.map template) texts) :
    List.Forall₂ (Reads reader) texts (items.map result) := by
  induction items generalizing texts with
  | nil =>
      cases hwritten
      exact .nil
  | cons item items hrest =>
      obtain ⟨hitem, htail⟩ := List.forall_mem_cons.1 hitems
      cases hwritten with
      | cons hfirst hothers =>
          exact .cons (hitem _ hfirst) (hrest htail hothers)

/-! ### Placeholders -/

theorem literalStem_mem (value : Value) : literalStem value ∈ valueStems := by
  cases value <;> simp [literalStem, valueStems]

theorem reads_literal {value : Value} {part : Reader Expr}
    (hwritten : Written values (Expr.literal value).template text) :
    Reads (Reading.node values part) text (.literal value.json) := by
  obtain ⟨number, hvalue, rfl⟩ := written_hole hwritten
  apply reads_placeholder
  exact placeholder_numbered (literalStem_mem value) hvalue

theorem isNumberedBy_append (left right : List String) (name : String) :
    isNumberedBy (left ++ right) name =
      (isNumberedBy left name || isNumberedBy right name) := by
  simp only [isNumberedBy]
  cases stem? name with
  | none => rfl
  | some stem => simp

theorem reads_parameter {parameter : Placeholder} {part : Reader Expr}
    (hreadable : isNumberedBy (valueStems ++ patternStems)
      parameter.name.text = false) :
    Reads (Reading.node values part) parameter.text.toList
      (.parameter parameter) := by
  obtain ⟨name, collection⟩ := parameter
  rw [isNumberedBy_append, Bool.or_eq_false_iff] at hreadable
  cases collection with
  | true =>
      have htext : (Placeholder.text ⟨name, true⟩).toList =
          '@' :: '@' :: name.text.toList := by
        simp [Placeholder.text]
      rw [htext]
      exact reads_placeholder (placeholder_collection name)
  | false =>
      have htext : (Placeholder.text ⟨name, false⟩).toList =
          '@' :: name.text.toList := by
        simp [Placeholder.text]
      rw [htext]
      exact reads_placeholder (placeholder_value hreadable.1 hreadable.2)

/-! ### Operations -/

section Operations

variable {first : Expr}

/-- Between brackets, an operation on a first operand. -/
theorem reads_infix {word closing : String} {reader : Reader (Node Expr)}
    {rest : Template} {result : Node Expr}
    (hmember : (word, reader) ∈
      alternatives values (Expr.read values depth) first.canonical)
    (hfirst : IsReadAt values depth first)
    (hreader : ∀ right, Written values rest right → ∀ after,
      reader (right ++ closing.toList ++ after) = some (result, after))
    (hwritten : Written values
      (enclose "(" (first.template ++ .text word :: rest) closing) text) :
    Reads (Reading.node values (Expr.read values depth)) text result := by
  obtain ⟨middle, rfl, hmiddle⟩ := written_enclose hwritten
  obtain ⟨left, back, rfl, hleft, right, rfl, hright⟩ :=
    written_append hmiddle
  exact reads_operation hmember (hfirst.reads left hleft)
    (hreader right hright)

theorem BinaryOperator.mem_all (operator : BinaryOperator) :
    operator ∈ all := by
  cases operator <;> decide

/-- The right side of an operator is read like any other operand. -/
theorem reads_right {operator : BinaryOperator} {right : Expr}
    (hright : IsReadAt values depth right)
    (hwritten : Written values
      (rightTemplate operator (Expr.withFold Node.template right)) text) :
    Reads (Expr.read values depth) text right.canonical := by
  unfold rightTemplate at hwritten
  split at hwritten
  · next items _ hitems =>
    have hliteral : right = .literal (.list items) := hitems
    obtain ⟨number, hvalue, rfl⟩ := written_hole hwritten
    rw [hliteral]
    apply reads_of_pos hright.depth_pos
    intro part
    apply reads_placeholder
    exact placeholder_numbered (by decide) hvalue
  · exact hright.reads text hwritten

theorem reads_binary {operator : BinaryOperator} {right : Expr}
    (hfirst : IsReadAt values depth first)
    (hright : IsReadAt values depth right)
    (hwritten : Written values
      (enclose "(" (first.template ++ .text (" " ++ operator.text ++ " ") ::
        rightTemplate operator (Expr.withFold Node.template right)) ")")
      text) :
    Reads (Reading.node values (Expr.read values depth)) text
      (.binary operator first.canonical right.canonical) := by
  have hmember : (" " ++ operator.text ++ " ",
      Reading.binary (Expr.read values depth) first.canonical operator) ∈
        alternatives values (Expr.read values depth) first.canonical :=
    List.mem_append_right _ (List.mem_map_of_mem operator.mem_all)
  apply reads_infix hmember hfirst _ hwritten
  intro rest hrest
  exact binary_of_reads (reads_right hright hrest)

theorem reads_ternary {thenValue elseValue : Expr}
    (hfirst : IsReadAt values depth first)
    (hthen : IsReadAt values depth thenValue)
    (helse : IsReadAt values depth elseValue)
    (hwritten : Written values
      (enclose "(" (first.template ++ .text " ? " :: thenValue.template ++
        .text " : " :: elseValue.template) ")") text) :
    Reads (Reading.node values (Expr.read values depth)) text
      (.ternary first.canonical thenValue.canonical elseValue.canonical) := by
  rw [List.append_assoc, List.cons_append] at hwritten
  apply reads_infix List.mem_cons_self hfirst _ hwritten
  intro rest hrest
  obtain ⟨thenText, back, rfl, hthenText, elseText, rfl, helseText⟩ :=
    written_append hrest
  exact ternary_of_reads (hthen.reads thenText hthenText)
    (helse.reads elseText helseText)

theorem reads_like {content : String} (hfirst : IsReadAt values depth first)
    (hwritten : Written values
      (enclose "(" (first.template ++
        [.text " LIKE ", .hole "likePattern" (.text content)]) ")") text) :
    Reads (Reading.node values (Expr.read values depth)) text
      (.like first.canonical content false) := by
  apply reads_infix (List.mem_cons_of_mem _ List.mem_cons_self) hfirst _
    hwritten
  intro rest hrest
  obtain ⟨number, hvalue, rfl⟩ := written_hole hrest
  exact like_of_reads (pattern_numbered List.mem_cons_self hvalue)

theorem reads_quantified {quantifier : Quantifier} {condition : Expr}
    (hfirst : IsReadAt values depth first)
    (hcondition : IsReadAt values depth condition)
    (hwritten : Written values
      (enclose "(" (first.template ++ .text "[* RETURN " :: condition.template)
        ("] " ++ quantifier.text ++ " == true)")) text) :
    Reads (Reading.node values (Expr.read values depth)) text
      (.quantified quantifier first.canonical condition.canonical) := by
  have hmember : ("[* RETURN ",
      Reading.quantified (Expr.read values depth) first.canonical) ∈
        alternatives values (Expr.read values depth) first.canonical :=
    List.mem_cons_of_mem _ (List.mem_cons_of_mem _ List.mem_cons_self)
  apply reads_infix hmember hfirst _ hwritten
  intro rest hrest
  exact quantified_of_reads (hcondition.reads rest hrest)

end Operations

/-! ### Calls, documents and arrays -/

/-- Items that are found again one by one are found again together. -/
theorem mapM_map_of_inverse {α β : Type} {forth : α → β} {back : β → Option α}
    (hback : ∀ item, back (forth item) = some item) (items : List α) :
    (items.map forth).mapM back = some items := by
  induction items with
  | nil => rfl
  | cons item items hitems =>
      rw [List.map_cons, List.mapM_cons, hback, hitems]
      rfl

theorem mapM_part? (parts : List Expr) :
    (parts.map Argument.part).mapM Argument.part? = some parts := by
  apply mapM_map_of_inverse
  intro part
  rfl

theorem mapM_text? (fields : List String) :
    (fields.map fun field => Expr.literal (.text field)).mapM text? =
      some fields := by
  apply mapM_map_of_inverse
  intro field
  rfl

/-- Arguments that are all expressions. -/
theorem reads_parts {function : String} {arguments : List Expr}
    {texts : List (List Char)} {result : Node Expr}
    (hfunction : isPath function = true)
    (hcall : callOf function (arguments.map Argument.part) = some result)
    (hreads : List.Forall₂ (Reads (Expr.read values depth)) texts arguments) :
    Reads (Reading.node values (Expr.read values depth))
      ((function ++ "(").toList ++ (joined texts ++ ")".toList)) result := by
  refine reads_call hfunction (read_closing List.mem_cons_self depth) ?_ hcall
  rw [List.forall₂_map_right_iff]
  exact hreads.imp fun _ _ => reads_part

theorem reads_function {function : String} {arguments : List Expr}
    (hidentifier : isIdentifier function = true)
    (hname : function ≠ "UNSET")
    (harguments : ∀ argument ∈ arguments, IsReadAt values depth argument)
    (hwritten : Written values
      (enclose (function ++ "(")
        (intercalate ", " (arguments.map Expr.template)) ")") text) :
    Reads (Reading.node values (Expr.read values depth)) text
      (.call function (arguments.map Expr.canonical)) := by
  obtain ⟨texts, rfl, htexts⟩ := written_list hwritten
  have hcall : callOf function
      ((arguments.map Expr.canonical).map Argument.part) =
        some (.call function (arguments.map Expr.canonical)) := by
    rw [callOf, mapM_part?]
    exact if_neg hname
  have hreads := forall₂_reads
    (fun argument hargument => (harguments argument hargument).reads) htexts
  exact reads_parts (isPath_of_isIdentifier hidentifier) hcall hreads

/-- The fields that are taken away are arguments after the document. -/
theorem reads_unset {document : Expr} {fields : List String}
    (hdocument : IsReadAt values depth document)
    (hwritten : Written values
      (enclose "UNSET(" (intercalate ", " (document.template ::
        fields.map fun field => [.hole "value" (.text field)])) ")") text) :
    Reads (Reading.node values (Expr.read values depth)) text
      (.unset document.canonical fields) := by
  obtain ⟨texts, rfl, htexts⟩ := written_list hwritten
  have hfield (field : String) (text : List Char)
      (hfield : Written values (Expr.literal (.text field)).template text) :
      Reads (Expr.read values depth) text (.literal (.text field)) :=
    reads_of_pos hdocument.depth_pos fun _ => reads_literal hfield
  have hcall : callOf "UNSET" ((document.canonical ::
      fields.map fun field => .literal (.text field)).map Argument.part) =
        some (.unset document.canonical fields) := by
    rw [callOf, mapM_part?]
    simp only [if_true, unsetOf, mapM_text?, Option.map_some]
  have hopening : "UNSET(" = "UNSET" ++ "(" := by decide
  rw [hopening]
  apply reads_parts (by decide) hcall
  cases htexts with
  | cons hfirst hothers =>
      exact .cons (hdocument.reads _ hfirst)
        (forall₂_reads (fun field _ text => hfield field text) hothers)

theorem reads_members {members : Document Expr}
    (hmembers : ∀ member ∈ members, IsReadAt values depth member.2)
    (hwritten : Written values
      (enclose "\x7b" (intercalate ", " (List.map (fun member =>
        .text (Quoted.quote member.1 ++ ": ") :: member.2.template)
          members)) "\x7d") text) :
    Reads (Reading.node values (Expr.read values depth)) text
      (.object (Document.map Expr.canonical members)) := by
  obtain ⟨texts, rfl, htexts⟩ := written_list hwritten
  apply reads_object
  apply forall₂_reads _ htexts
  intro member hmember text hwritten
  obtain ⟨rest, htext, hrest⟩ := hwritten
  rw [htext]
  exact reads_member ((hmembers member hmember).reads rest hrest)

theorem reads_items {items : List Expr}
    (hitems : ∀ item ∈ items, IsReadAt values depth item)
    (hwritten : Written values
      (enclose "[" (intercalate ", " (items.map Expr.template)) "]") text) :
    Reads (Reading.node values (Expr.read values depth)) text
      (.array (items.map Expr.canonical)) := by
  obtain ⟨texts, rfl, htexts⟩ := written_list hwritten
  apply reads_array (read_closing (by decide) depth)
  exact forall₂_reads (fun item hitem => (hitems item hitem).reads) htexts

/-! ### Tests against a pattern -/

/-- The functions that test a text against a pattern. -/
def patternFunctions : List String := ["LIKE", "REGEX_MATCH"]

section Patterns

variable {function opening stem content : String}
variable {subject : Expr} {result : Node Expr}

theorem isPath_of_mem (hfunction : function ∈ patternFunctions) :
    isPath function = true := by
  have hfunctions : ∀ function ∈ patternFunctions, isPath function = true := by
    decide
  exact hfunctions function hfunction

/-- The two arguments that such a call starts with. -/
theorem written_patternCall {closing : String} (hstem : stem ∈ patternStems)
    (hsubject : IsReadAt values depth subject)
    (hwritten : Written values
      (enclose opening (subject.template ++
        [.text ", ", .hole stem (.text content)]) closing) text) :
    ∃ left right,
      text = opening.toList ++ (joined [left, right] ++ closing.toList) ∧
      Reads (argument values (Expr.read values depth)) left
        (.part subject.canonical) ∧
      Reads (argument values (Expr.read values depth)) right
        (.pattern content) := by
  obtain ⟨middle, rfl, hmiddle⟩ := written_enclose hwritten
  obtain ⟨left, back, rfl, hleft, rest, rfl, hrest⟩ := written_append hmiddle
  obtain ⟨number, hvalue, rfl⟩ := written_hole hrest
  refine ⟨left, _, ?_, reads_part (hsubject.reads left hleft),
    reads_pattern hstem hvalue depth⟩
  simp [joined, tail]

theorem reads_patternCall (hfunction : function ∈ patternFunctions)
    (hopening : opening = function ++ "(") (hstem : stem ∈ patternStems)
    (hsubject : IsReadAt values depth subject)
    (hcall : callOf function [.part subject.canonical, .pattern content] =
      some result)
    (hwritten : Written values
      (enclose opening (subject.template ++
        [.text ", ", .hole stem (.text content)]) ")") text) :
    Reads (Reading.node values (Expr.read values depth)) text result := by
  obtain ⟨left, right, rfl, hleft, hright⟩ :=
    written_patternCall hstem hsubject hwritten
  rw [hopening]
  exact reads_call (isPath_of_mem hfunction)
    (read_closing List.mem_cons_self depth)
    (.cons hleft (.cons hright .nil)) hcall

/-- The third argument is read as a name. -/
theorem reads_patternCall_true (hfunction : function ∈ patternFunctions)
    (hopening : opening = function ++ "(") (hstem : stem ∈ patternStems)
    (hsubject : IsReadAt values depth subject)
    (hcall : callOf function
      [.part subject.canonical, .pattern content, .part (.reference "true")] =
        some result)
    (hwritten : Written values
      (enclose opening (subject.template ++
        [.text ", ", .hole stem (.text content)]) ", true)") text) :
    Reads (Reading.node values (Expr.read values depth)) text result := by
  obtain ⟨left, right, rfl, hleft, hright⟩ :=
    written_patternCall hstem hsubject hwritten
  have htext : joined [left, right] ++ ", true)".toList =
      joined [left, right, "true".toList] ++ ")".toList := by
    simp [joined, tail]
  have htrue : Reads (Expr.read values depth) "true".toList
      (.reference "true") :=
    reads_of_pos hsubject.depth_pos fun _ => reads_reference (by decide)
  rw [hopening, htext]
  exact reads_call (isPath_of_mem hfunction)
    (read_closing List.mem_cons_self depth)
    (.cons hleft (.cons hright (.cons (reads_part htrue) .nil))) hcall

theorem reads_likeCall (hsubject : IsReadAt values depth subject)
    (hwritten : Written values
      (enclose "LIKE(" (subject.template ++
        [.text ", ", .hole "likePattern" (.text content)]) ", true)") text) :
    Reads (Reading.node values (Expr.read values depth)) text
      (.like subject.canonical content true) := by
  have hcall : callOf "LIKE" [.part subject.canonical, .pattern content,
      .part (.reference "true")] =
        some (.like subject.canonical content true) := by
    simp [callOf, patternCallOf, Argument.part?]
  exact reads_patternCall_true List.mem_cons_self (by decide)
    List.mem_cons_self hsubject hcall hwritten

theorem reads_regex {flags : Option String}
    (hsubject : IsReadAt values depth subject)
    (hwritten : Written values
      (enclose "REGEX_MATCH(" (subject.template ++
          [.text ", ", .hole "regexPattern" (.text content)])
        (if hasIgnoreCase flags then ", true)" else ")")) text) :
    Reads (Reading.node values (Expr.read values depth)) text
      (.regex subject.canonical content
        (if hasIgnoreCase flags then some "i" else none)) := by
  have hfunction : "REGEX_MATCH" ∈ patternFunctions := by decide
  have hstem : "regexPattern" ∈ patternStems := by decide
  cases hflags : hasIgnoreCase flags with
  | true =>
      have hcall : callOf "REGEX_MATCH" [.part subject.canonical,
          .pattern content, .part (.reference "true")] =
            some (.regex subject.canonical content (some "i")) := by
        simp [callOf, patternCallOf, Argument.part?]
      rw [hflags] at hwritten
      exact reads_patternCall_true hfunction (by decide) hstem hsubject hcall
        hwritten
  | false =>
      rw [hflags] at hwritten
      exact reads_patternCall hfunction (by decide) hstem hsubject rfl
        hwritten

end Patterns

/-! ### Nodes -/

/-- A node is read back from its text as soon as its parts are. -/
theorem Node.reads {node : Node Expr} (hreadable : node.isReadable = true)
    (hparts : ∀ part ∈ node.parts, IsReadAt values depth part)
    (hwritten : Written values (Expr.of node).template text) :
    Reads (Reading.node values (Expr.read values depth)) text
      (node.map Expr.canonical).canonical := by
  rw [Expr.template, Expr.fold_of] at hwritten
  cases node with
  | literal value => exact reads_literal hwritten
  | reference path =>
      rw [written_text hwritten]
      exact reads_reference hreadable
  | parameter placeholder =>
      rw [written_text hwritten]
      exact reads_parameter (Bool.not_eq_true' _ ▸ hreadable)
  | binary operator left right =>
      simp only [parts, List.forall_mem_cons] at hparts
      exact reads_binary hparts.1 hparts.2.1 hwritten
  | unary operator operand =>
      obtain ⟨rest, rfl, hrest⟩ := hwritten
      have hoperand := hparts operand (List.mem_singleton_self _)
      exact reads_unary (hoperand.reads rest hrest)
  | call function arguments =>
      obtain ⟨hidentifier, hname⟩ := Bool.and_eq_true_iff.1 hreadable
      rw [Node.map, Node.template, List.map_map] at hwritten
      exact reads_function hidentifier (bne_iff_ne.1 hname) hparts hwritten
  | ternary condition thenValue elseValue =>
      simp only [parts, List.forall_mem_cons] at hparts
      exact reads_ternary hparts.1 hparts.2.1 hparts.2.2.1 hwritten
  | like subject pattern ignoreCase =>
      have hsubject := hparts subject (List.mem_singleton_self _)
      cases ignoreCase with
      | true => exact reads_likeCall hsubject hwritten
      | false => exact reads_like hsubject hwritten
  | regex subject pattern flags =>
      exact reads_regex (hparts subject (List.mem_singleton_self _)) hwritten
  | old path =>
      rw [written_text hwritten]
      exact reads_reference hreadable
  | quantified quantifier subject condition =>
      simp only [parts, List.forall_mem_cons] at hparts
      exact reads_quantified hparts.1 hparts.2.1 hwritten
  | unset document fields =>
      exact reads_unset (hparts document (List.mem_singleton_self _)) hwritten
  | object members =>
      have hmembers : ∀ member ∈ members, IsReadAt values depth member.2 :=
        fun member hmember => hparts member.2 (List.mem_map_of_mem hmember)
      simp only [Node.map, Node.template, Document.map, Document.template,
        List.map_map] at hwritten
      exact reads_members hmembers hwritten
  | array items =>
      rw [Node.map, Node.template, List.map_map] at hwritten
      exact reads_items hparts hwritten
  | subquery query => cases hreadable
  | stray content => cases hreadable

/-- An expression is read back from its text, up to what the text does not
show. -/
theorem Expr.reads (expr : Expr) (hreadable : expr.isReadable = true)
    (hdepth : expr.depth ≤ depth)
    (hwritten : Written values expr.template text) :
    Reads (read values depth) text expr.canonical := by
  induction expr using Expr.induction generalizing depth text with
  | step node hparts =>
      rw [isReadable_of, Bool.and_eq_true, List.all_eq_true] at hreadable
      have hpositive := depth_pos (.of node)
      obtain ⟨depth, rfl⟩ := Nat.exists_eq_succ_of_ne_zero
        (Nat.ne_of_gt (Nat.lt_of_lt_of_le hpositive hdepth))
      have hbelow (part : Expr) (hpart : part ∈ node.parts) :
          part.depth ≤ depth :=
        Nat.le_of_lt_succ (Nat.lt_of_lt_of_le (depth_lt hpart) hdepth)
      rw [canonical_of]
      apply reads_of_node
      apply node.reads hreadable.1 _ hwritten
      intro part hpart
      constructor
      · exact Nat.lt_of_lt_of_le part.depth_pos (hbelow part hpart)
      · intro text htext
        exact hparts part hpart (hreadable.2 part hpart)
          (hbelow part hpart) htext

end ReadBack

/-! ## Compiled expressions -/

theorem BindingStore.get?_bind_of_bound {store : BindingStore String}
    {name : String} {bound : Value} (hbound : store.get? name = some bound)
    (stem : String) (value : Value) :
    (store.bind stem value).2.get? name = some bound := by
  have hname : name ∈ store.names := by
    rw [← store.get?_isSome_iff, hbound]
    rfl
  have hfresh : (store.bind stem value).1 ≠ name := by
    intro hfresh
    exact store.bind_fresh stem value (hfresh ▸ hname)
  rw [get?_bind, if_neg hfresh, hbound]

section Filled

variable {template : Template} {store last : BindingStore String}
variable {text : String}

/-- Where there are no raw subqueries, what is bound stays. -/
theorem Template.Fills.get?_of_bound (hfills : Fills template store text last)
    (hplain : ∀ piece ∈ template, piece.isPlain = true) {name : String}
    {value : Value} (hbound : store.get? name = some value) :
    last.get? name = some value := by
  induction hfills with
  | nil store => exact hbound
  | text content run hrun =>
      exact hrun (List.forall_mem_cons.1 hplain).2 hbound
  | hole stem bound run hrun =>
      exact hrun (List.forall_mem_cons.1 hplain).2
        (get?_bind_of_bound hbound stem bound)
  | adopt merge run hrun =>
      exact absurd (List.forall_mem_cons.1 hplain).1 Bool.false_ne_true

theorem Template.Fills.written (hfills : Fills template store text last)
    (hplain : ∀ piece ∈ template, piece.isPlain = true) :
    Written (fun name => (last.get? name).map Value.json) template
      text.toList := by
  induction hfills with
  | nil store => rfl
  | text content run hrun =>
      rw [String.toList_append]
      exact ⟨_, rfl, hrun (List.forall_mem_cons.1 hplain).2⟩
  | @hole stem value rest store last filled run hrun =>
      have hrest := (List.forall_mem_cons.1 hplain).2
      have hbound : (store.bind stem value).2.get? (store.bind stem value).1 =
          some value := by
        rw [get?_bind, if_pos rfl]
      have hvalue := run.get?_of_bound hrest hbound
      refine ⟨store.nextNumber stem, filled.toList, ?_, ?_, hrun hrest⟩
      · exact congrArg (Option.map Value.json) hvalue
      · simp [bind_eq]
  | adopt merge run hrun =>
      exact absurd (List.forall_mem_cons.1 hplain).1 Bool.false_ne_true

end Filled

/-- What a compiled expression binds a name to, as JSON. -/
def CompiledQuery.jsonValue? (compiled : CompiledQuery) (name : String) :
    Option Value :=
  (compiled.value? name).map Value.json

namespace Expr

theorem isPlain_of_isReadable (expr : Expr)
    (hreadable : expr.isReadable = true) :
    expr.template.any (!·.isPlain) = false := by
  induction expr using Expr.induction with
  | step node hparts =>
      rw [isReadable_of, Bool.and_eq_true, List.all_eq_true] at hreadable
      obtain ⟨hnode, hreadableParts⟩ := hreadable
      have hproper : node.isProper = true := by
        cases node with
        | subquery query => cases hnode
        | stray content => cases hnode
        | _ => rfl
      have hsubquery (query : Query) : node ≠ .subquery query := by
        rintro rfl
        cases hnode
      rw [any_template (fun _ => rfl) (fun _ _ => rfl) hsubquery hproper,
        List.any_eq_false]
      intro part hpart
      exact ne_true_of_eq_false (hparts part hpart (hreadableParts part hpart))

/-- What can be read back compiles, to a text that it is read back from. -/
theorem read_of_compile {expr : Expr} (hreadable : expr.isReadable = true) :
    ∃ compiled, expr.compile = .ok compiled ∧
      ∀ depth, expr.depth ≤ depth →
        read compiled.jsonValue? depth compiled.text.toList =
          some (expr.canonical, []) := by
  have hplain : ∀ piece ∈ expr.template, piece.isPlain = true := by
    have hany := expr.isPlain_of_isReadable hreadable
    rw [List.any_eq_false] at hany
    intro piece hpiece
    simpa using hany piece hpiece
  have hfills := fills_of_isPlain hplain {}
  have hcompile : expr.compile =
      .ok ⟨expr.template.fillWith
          (BindingStore.bindAll {} expr.template.calls).1,
        (BindingStore.bindAll {} expr.template.calls).2.values⟩ := by
    rw [compile, fill_of_fills hfills]
    rfl
  refine ⟨_, hcompile, ?_⟩
  intro depth hdepth
  have hread := expr.reads hreadable hdepth (hfills.written hplain) [] stops_nil
  rw [List.append_nil] at hread
  exact hread

/-- Two expressions that can be read back are compiled to the same text with the
same values only if they are the same, up to what the text does not show. -/
theorem uniquely_readable {left right : Expr}
    (hleft : left.isReadable = true) (hright : right.isReadable = true) :
    ∃ first second, left.compile = .ok first ∧ right.compile = .ok second ∧
      (first.text = second.text →
        (∀ name, first.jsonValue? name = second.jsonValue? name) →
        left.canonical = right.canonical) := by
  obtain ⟨first, hfirst, hreadFirst⟩ := read_of_compile hleft
  obtain ⟨second, hsecond, hreadSecond⟩ := read_of_compile hright
  refine ⟨first, second, hfirst, hsecond, ?_⟩
  intro htext hvalues
  have hreads := calc
    some (left.canonical, ([] : List Char))
      = read first.jsonValue? (max left.depth right.depth)
          first.text.toList := (hreadFirst _ (Nat.le_max_left ..)).symm
    _ = read second.jsonValue? (max left.depth right.depth)
          second.text.toList := by rw [htext, funext hvalues]
    _ = some (right.canonical, []) := hreadSecond _ (Nat.le_max_right ..)
  exact (Prod.mk.inj (Option.some.inj hreads)).1

/-- A name that is tested against a pattern. -/
def nameMatching (name : Node Expr) (flags : String) : Expr :=
  .of (.regex (.of name) "^a" (some flags))

def minus (left right : Expr) : Expr :=
  .of (.binary .subtract left right)

/-- A name of the previous revision is written like any other, and of the flags
only the case of letters shows; but a difference of three is grouped. -/
theorem grouping_readable :
    (nameMatching (.old "OLD.name") "gi").canonical =
        (nameMatching (.reference "OLD.name") "i").canonical ∧
      ¬ ∃ compiled,
        (minus (minus (.reference "a") (.reference "b"))
          (.reference "c")).compile = .ok compiled ∧
        (minus (.reference "a")
          (minus (.reference "b") (.reference "c"))).compile =
            .ok compiled := by
  constructor
  · have hold : (nameMatching (.old "OLD.name") "gi").isReadable = true := by
      decide
    have hreference :
        (nameMatching (.reference "OLD.name") "i").isReadable = true := by
      decide
    obtain ⟨first, second, hfirst, hsecond, hsame⟩ :=
      uniquely_readable hold hreference
    have hcompiled : first = second :=
      Except.ok.inj (hfirst.symm.trans hsecond)
    subst hcompiled
    exact hsame rfl fun _ => rfl
  · rintro ⟨compiled, hleft, hright⟩
    obtain ⟨first, second, hfirst, hsecond, hsame⟩ := uniquely_readable
      (show (minus (minus (.reference "a") (.reference "b"))
        (.reference "c")).isReadable = true by decide)
      (show (minus (.reference "a")
        (minus (.reference "b") (.reference "c"))).isReadable = true by
          decide)
    obtain rfl := Except.ok.inj (hfirst.symm.trans hleft)
    obtain rfl := Except.ok.inj (hsecond.symm.trans hright)
    have hcanonical := hsame rfl fun _ => rfl
    simp only [minus, canonical_of, Node.map, Node.canonical] at hcanonical
    injection hcanonical with hnode
    injection hnode with _ hleft
    injection hleft with hleft
    cases hleft

end Expr

end ArangoQuery
