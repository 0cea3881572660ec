import ArangoQuery.Builder.Builder
import ArangoQuery.Builder.Combinator
import ArangoQuery.Proofs.Compilability
import ArangoQuery.Proofs.SnapshotRoundTrip

/-!
# Texts that are placeholders

A text among the operands is written into a query only as itself, and only if it
is a placeholder from its first character to its last; any other text is bound
(`Operand.text_is_placeholder_or_data`).  The operands, the factories of
parameters, the checks of records and the sources of loops all ask for one and the
same language of names, `SpellsName`.
-/

namespace ArangoQuery

open Template (fill)

/-! ## Names -/

/-- An ASCII letter or an underscore. -/
def BeginsName (character : Char) : Prop :=
  ('A' ≤ character ∧ character ≤ 'Z') ∨ ('a' ≤ character ∧ character ≤ 'z') ∨
    character = '_'

/-- An ASCII letter, an underscore or a digit. -/
def ContinuesName (character : Char) : Prop :=
  BeginsName character ∨ ('0' ≤ character ∧ character ≤ '9')

/-- The characters of a name: `[A-Za-z_][A-Za-z0-9_]*`, and nothing after it. -/
def SpellsName : List Char → Prop
  | [] => False
  | first :: rest =>
      BeginsName first ∧ ∀ character ∈ rest, ContinuesName character

/-- One mark or two, and a name. -/
def IsPlaceholderText (text : String) : Prop :=
  ∃ name, SpellsName name ∧
    (text.toList = '@' :: name ∨ text.toList = '@' :: '@' :: name)

theorem isNameStart_iff {character : Char} :
    isNameStart character = true ↔ BeginsName character := by
  have halpha : character.isAlpha =
      (decide ('A'.val ≤ character.val ∧ character.val ≤ 'Z'.val) ||
        decide ('a'.val ≤ character.val) &&
          decide (character.val ≤ 'z'.val)) := rfl
  simp [isNameStart, BeginsName, halpha, Char.le_def, or_assoc]

theorem isNameChar_iff {character : Char} :
    isNameChar character = true ↔ ContinuesName character := by
  rw [ContinuesName, ← isNameStart_iff]
  simp [isNameChar, isNameStart, Char.isAlphanum, Char.isDigit, Char.le_def,
    or_right_comm]

theorem isName_iff {text : String} :
    isName text = true ↔ SpellsName text.toList := by
  rw [isName]
  cases text.toList with
  | nil => simp [isNameList, SpellsName]
  | cons first rest =>
      simp [isNameList, SpellsName, isNameStart_iff, isNameChar_iff]

instance : DecidablePred SpellsName := fun name =>
  decidable_of_iff (isName (String.ofList name) = true) (by
    rw [isName_iff, String.toList_ofList])

theorem ParameterName.of?_eq_some_iff {characters : List Char}
    {name : ParameterName} :
    of? (String.ofList characters) = some name ↔
      name.text.toList = characters := by
  constructor
  · intro hread
    rw [text_of_of? hread, String.toList_ofList]
  · rintro rfl
    rw [String.ofList_toList, name.of?_text]

/-- Exactly the names are read as names. -/
theorem ParameterName.exists_of?_iff {text : String} :
    (∃ name, of? text = some name) ↔ SpellsName text.toList := by
  rw [← isName_iff, of?]
  split <;> simp_all

/-- Records ask for the same names. -/
theorem Check.exists_name_iff {text : String} :
    (∃ accepted, Check.name (.text text) = .ok accepted) ↔
      SpellsName text.toList := by
  rw [← ParameterName.exists_of?_iff]
  show (∃ accepted, Checked.ofOption (ParameterName.of? text) = .ok accepted) ↔ _
  cases ParameterName.of? text <;> simp [Checked.ofOption]

theorem isPlaceholderText_iff {text : String} :
    IsPlaceholderText text ↔
      ∃ placeholder : Placeholder, placeholder.text = text := by
  constructor
  · rintro ⟨name, hname, htext⟩
    have hread : isName (String.ofList name) = true := by
      rw [isName_iff, String.toList_ofList]
      exact hname
    obtain htext | htext := htext
    · refine ⟨⟨⟨String.ofList name, hread⟩, false⟩, ?_⟩
      apply String.toList_injective
      simp [Placeholder.text, htext]
    · refine ⟨⟨⟨String.ofList name, hread⟩, true⟩, ?_⟩
      apply String.toList_injective
      simp [Placeholder.text, htext]
  · rintro ⟨⟨name, collection⟩, rfl⟩
    refine ⟨name.text.toList, isName_iff.1 name.isName_text, ?_⟩
    cases collection with
    | true => exact .inr (by simp [Placeholder.text])
    | false => exact .inl (by simp [Placeholder.text])

theorem isPlaceholder_eq_false {text : String} (hother : ¬ IsPlaceholderText text) :
    isPlaceholder text = false := by
  rwa [← Bool.not_eq_true, isPlaceholder_iff, ← isPlaceholderText_iff]

instance : DecidablePred IsPlaceholderText := fun text =>
  decidable_of_iff (isPlaceholder text = true)
    (isPlaceholder_iff.trans isPlaceholderText_iff.symm)

/-! ## What is written and what is bound -/

namespace Expr

/-- An expression is written as a text, whatever is bound already, and binds
nothing. -/
def IsWrittenAs (expr : Expr) (text : String) : Prop :=
  ∀ store, fill expr.template store = .ok (text, store)

/-- An expression is written as one placeholder with a name made up for it, and
binds one value. -/
def Binds (expr : Expr) (value : Value) : Prop :=
  ∀ store, ∃ name next, fill expr.template store = .ok ("@" ++ name, next) ∧
    name ∉ store.names ∧ next.values = store.values ++ [(name, value)]

theorem isWrittenAs_parameter (placeholder : Placeholder) :
    (parameter placeholder).IsWrittenAs placeholder.text := by
  intro store
  rw [template, fold_of]
  simp [Node.map, Node.template, Placeholder.template, Template.ofText, fill, bind,
    Except.bind, pure, Except.pure]

theorem binds_literal (text : String) :
    (literal (.text text)).Binds (.text text) := by
  intro store
  refine ⟨(store.bind "value" (.text text)).1, (store.bind "value" (.text text)).2,
    ?_, store.bind_fresh "value" (.text text), rfl⟩
  rw [template, fold_of]
  simp [Node.map, Node.template, literalStem, fill, bind, Except.bind, pure,
    Except.pure]

/-- A parameter comes through a snapshot as it is. -/
theorem check_parameter (placeholder : Placeholder) :
    ∃ dumped, (parameter placeholder).describe.dump? .setFields = some dumped ∧
      check dumped = .ok (.parameter placeholder) := by
  obtain ⟨dumped, hdump, -, hcheck⟩ := restores (parameter placeholder) rfl rfl
  exact ⟨dumped, hdump, hcheck dumped.depth (Nat.le_refl _)⟩

/-- A parameter has the name that follows the marks in front. -/
theorem ofParameter_eq_ok_iff {collection : Bool} {given : String} {expr : Expr} :
    ofParameter collection (.text given) = .ok expr ↔
      ∃ name : ParameterName,
        name.text.toList = given.toList.dropWhile (· = '@') ∧
          expr = .parameter { name, collection } := by
  simp only [ofParameter, ← ParameterName.of?_eq_some_iff]
  cases ParameterName.of? _ <;> simp [eq_comm]

/-- A parameter is made of a name with or without marks in front, and of nothing
else. -/
theorem exists_ofParameter_iff {collection : Bool} {given : String} :
    (∃ expr, ofParameter collection (.text given) = .ok expr) ↔
      SpellsName (given.toList.dropWhile (· = '@')) := by
  rw [← String.toList_ofList (l := given.toList.dropWhile (· = '@')),
    ← ParameterName.exists_of?_iff, ofParameter]
  cases ParameterName.of? _ <;> simp

end Expr

/-! ## Texts as operands and as sources -/

section Operands

variable {ρ : Type} (look : ρ → Query) {text : String}

theorem Operand.toExpr_placeholder (placeholder : Placeholder) :
    toExpr look (.text placeholder.text) = .ok (.parameter placeholder) := by
  rw [toExpr, placeholder.of?_text]

theorem Operand.toExpr_other (hother : ¬ IsPlaceholderText text) :
    toExpr look (.text text) = .ok (.literal (.text text)) := by
  have hnone : Placeholder.of? text = none := by
    simpa [isPlaceholder] using isPlaceholder_eq_false hother
  rw [toExpr, hnone]

namespace Builder

variable (builder : Builder)

theorem sourceValue_placeholder (placeholder : Placeholder) :
    sourceValue (.text placeholder.text : Operand ρ) =
      .ok (.text placeholder.text) := by
  rw [sourceValue, isPlaceholder_iff.2 ⟨placeholder, rfl⟩, Bool.not_true,
    Bool.and_false]
  rfl

theorem iterate_placeholder (placeholder : Placeholder) :
    builder.iterate (.text placeholder.text : Operand ρ) =
      .ok (builder.setSource (some (.proper (.text placeholder.text)))) := by
  have hmark : startsWithAt placeholder.text = true := by
    cases hcollection : placeholder.collection <;>
      simp [startsWithAt, Placeholder.text, hcollection]
  rw [iterate, sourceValue_placeholder]
  cases hjoin : builder.openJoin with
  | none =>
      simp only [bind, Except.bind, pure, Except.pure, hmark, if_true]
      rfl
  | some position => rfl

/-- A parameter is iterated as its text. -/
theorem iterate_parameter (placeholder : Placeholder) :
    builder.iterate (.built (.parameter placeholder) : Operand ρ) =
      builder.iterate (.text placeholder.text : Operand ρ) := by
  rw [iterate, iterate, sourceValue_placeholder]
  rfl

/-- After a call the loop that is open iterates this name, and nothing else has
changed: it is the nested loop that was opened last, or else the main loop. -/
structure Iterates (name : String) (after : Except Error Builder) : Prop where
  main : builder.openJoin = none →
    after = .ok
      { builder with
        record := { builder.record with source := some (.proper (.text name)) } }
  nested : ∀ position, builder.openJoin = some position →
    after = .ok
      { builder with
        record :=
          { builder.record with
            joins := builder.record.joins.map fun joins =>
              joins.modify position fun join =>
                { join with source := some (.proper (.text name)) } } }

theorem iterates_placeholder (placeholder : Placeholder) :
    builder.Iterates placeholder.text
      (builder.iterate (.text placeholder.text : Operand ρ)) := by
  rw [iterate_placeholder, setSource]
  exact ⟨fun hmain => by rw [hmain], fun position hnested => by rw [hnested]⟩

/-- A mark in front of anything but a name is no source. -/
theorem iterate_malformed (hmark : text.toList.head? = some '@')
    (hother : ¬ IsPlaceholderText text) :
    builder.iterate (.text text : Operand ρ) =
      .error (.value (.sourcePlaceholder text)) := by
  have hstarts : startsWithAt text = true := by simp [startsWithAt, hmark]
  rw [iterate, sourceValue, isPlaceholder_eq_false hother, hstarts]
  rfl

end Builder

/-- A text that is a placeholder stands for a parameter, which comes through a
snapshot, is written as that text and binds nothing; a loop iterates the one as it
does the other.  Any other text stands for an expression that is written as one
made-up placeholder, under which it binds the text; with a mark in front it is no
source of a loop.  A parameter is made of a text exactly if a name follows the
marks in front, which it then has, and a record takes the text for the name of a
parameter exactly if it is such a name. -/
theorem Operand.text_is_placeholder_or_data (text : String) :
    (IsPlaceholderText text →
      ∃ placeholder : Placeholder,
        toExpr look (.text text) = .ok (.parameter placeholder) ∧
        (∃ dumped,
          (Expr.parameter placeholder).describe.dump? .setFields = some dumped ∧
          Expr.check dumped = .ok (.parameter placeholder)) ∧
        (Expr.parameter placeholder).IsWrittenAs text ∧
        ∀ builder : Builder,
          builder.Iterates text (builder.iterate (.text text : Operand ρ)) ∧
          builder.iterate (.built (.parameter placeholder) : Operand ρ) =
            builder.iterate (.text text : Operand ρ)) ∧
    (¬ IsPlaceholderText text →
      (∃ expr, toExpr look (.text text) = .ok expr ∧ expr.Binds (.text text)) ∧
      (text.toList.head? = some '@' → ∀ builder : Builder,
        builder.iterate (.text text : Operand ρ) =
          .error (.value (.sourcePlaceholder text)))) ∧
    (∀ collection,
      ((∃ expr, Expr.ofParameter collection (.text text) = .ok expr) ↔
        SpellsName (text.toList.dropWhile (· = '@'))) ∧
      ∀ expr, Expr.ofParameter collection (.text text) = .ok expr ↔
        ∃ name : ParameterName,
          name.text.toList = text.toList.dropWhile (· = '@') ∧
            expr = .parameter { name, collection }) ∧
    ((∃ accepted, Check.name (.text text) = .ok accepted) ↔
      SpellsName text.toList) := by
  refine ⟨?placeholder, ?data, ?factory, ?record⟩
  case placeholder =>
    intro htext
    obtain ⟨placeholder, rfl⟩ := isPlaceholderText_iff.1 htext
    refine ⟨placeholder, toExpr_placeholder look placeholder,
      Expr.check_parameter placeholder, Expr.isWrittenAs_parameter placeholder, ?_⟩
    intro builder
    exact ⟨builder.iterates_placeholder placeholder,
      builder.iterate_parameter placeholder⟩
  case data =>
    intro hother
    refine ⟨⟨_, toExpr_other look hother, Expr.binds_literal text⟩, ?_⟩
    intro hmark builder
    exact builder.iterate_malformed hmark hother
  case factory =>
    intro collection
    exact ⟨Expr.exists_ofParameter_iff, fun _ => Expr.ofParameter_eq_ok_iff⟩
  case record => exact Check.exists_name_iff

end Operands

section Example

/-- The placeholder of a collection, and one that goes on after its name. -/
theorem Operand.users_is_placeholder_or_data :
    (∃ placeholder : Placeholder,
      toExpr (fun _ : Nat => {}) (.text "@@users") =
          .ok (.parameter placeholder) ∧
        (Expr.parameter placeholder).IsWrittenAs "@@users" ∧
        Builder.iterate { record := {} }
            (.built (.parameter placeholder) : Operand Nat) =
          .ok { record := { source := some (.proper (.text "@@users")) } } ∧
        Builder.iterate
            { record := { joins := some [⟨"o", none⟩] }, openJoin := some 0 }
            (.text "@@users" : Operand Nat) =
          .ok
            { record :=
                { joins := some [⟨"o", some (.proper (.text "@@users"))⟩] }
              openJoin := some 0 }) ∧
    (∃ expr, toExpr (fun _ : Nat => {}) (.text "@users\n") = .ok expr ∧
      expr.Binds (.text "@users\n")) ∧
    Expr.ofParameter true (.text "@@@users") =
      .ok (.parameter { name := ⟨"users", rfl⟩, collection := true }) := by
  obtain ⟨hplaceholder, -, -⟩ :=
    text_is_placeholder_or_data (fun _ : Nat => {}) "@@users"
  obtain ⟨-, hdata, -⟩ :=
    text_is_placeholder_or_data (fun _ : Nat => {}) "@users\n"
  obtain ⟨-, -, hfactory, -⟩ :=
    text_is_placeholder_or_data (fun _ : Nat => {}) "@@@users"
  obtain ⟨placeholder, hexpr, -, hwritten, hsource⟩ := hplaceholder (by decide)
  refine ⟨⟨placeholder, hexpr, hwritten, ?_, ?_⟩, (hdata (by decide)).1, ?_⟩
  · obtain ⟨hiterates, hsame⟩ := hsource { record := {} }
    exact hsame.trans (hiterates.main rfl)
  · exact (hsource _).1.nested 0 rfl
  · exact ((hfactory true).2 _).2 ⟨_, rfl, rfl⟩

end Example

end ArangoQuery
