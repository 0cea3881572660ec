import ArangoQuery.Proofs.Renaming
import ArangoQuery.Proofs.Separators

/-!
# The text with all values in place

Inlining looks at the text as a whole, values included that are in it already.  So
a placeholder in a value is taken for the placeholder of a later value, and one in
a text that the caller wrote for that of any value.  Where there is none, every
placeholder of the compiled query is replaced by the JSON text of its own value
and everything else stays; wherever there is one, the result is a different text
(`Query.inlined_eq_iff`).
-/

namespace ArangoQuery

open BindingStore (numbered)
open Inlined (Diverges hasPlaceholder substitute)
open Word (IsWord isSeparator)

namespace Template

/-- The text of a template whose holes are given texts from left to right. -/
def withTexts : Template → List String → String
  | [], _ => ""
  | .text content :: rest, texts => content ++ withTexts rest texts
  | .hole _ _ :: rest, text :: texts => text ++ withTexts rest texts
  | .hole _ _ :: _, [] => ""
  | .adopt _ :: rest, texts => withTexts rest texts
  | .halt _ :: _, _ => ""

theorem fillWith_eq_withTexts (template : Template) (names : List String) :
    template.fillWith names = template.withTexts (names.map ("@" ++ ·)) := by
  fun_induction fillWith template names <;> simp_all [withTexts]

/-- The stretches of text between the holes, the first of which goes on from what
stands before the template. -/
def stretches (before : String) : Template → List String
  | [] => [before]
  | .text content :: rest => stretches (before ++ content) rest
  | .hole _ _ :: rest => before :: stretches "" rest
  | .adopt _ :: rest => stretches before rest
  | .halt _ :: _ => [before]

end Template

/-! ## Equal texts -/

namespace Inlined

variable {bindings : List (String × Value)} {text rest changed : List Char}

theorem Diverges.append_ne (hdiverges : Diverges changed text)
    (left right : List Char) : changed ++ left ≠ text ++ right := by
  obtain ⟨front, first, back, back', rfl, rfl, hfirst⟩ := hdiverges
  intro heq
  rw [List.append_assoc, List.append_assoc, List.append_cancel_left_eq] at heq
  exact hfirst (List.cons.inj heq).1

/-- A changed part of a text is not made up for by what comes after it. -/
theorem substitute_append_eq_iff :
    substitute bindings text ++ changed = text ++ rest ↔
      (∀ binding ∈ bindings,
        hasPlaceholder binding.1.toList none text = false) ∧
      changed = rest := by
  obtain ⟨hnone, hsame⟩ | ⟨⟨binding, hbinding, hsome⟩, hdiverges⟩ :=
    substitute_cases bindings text
  · rw [hsame, List.append_cancel_left_eq]
    exact (and_iff_right hnone).symm
  · refine iff_of_false (hdiverges.append_ne _ _) ?_
    rintro ⟨hnone, -⟩
    rw [hnone binding hbinding] at hsome
    cases hsome

theorem substitute_eq_iff :
    substitute bindings text = text ↔
      ∀ binding ∈ bindings,
        hasPlaceholder binding.1.toList none text = false := by
  rw [← List.append_nil (substitute bindings text)]
  nth_rewrite 2 [← List.append_nil text]
  rw [substitute_append_eq_iff]
  exact and_iff_left rfl

end Inlined

/-! ## Template by template -/

namespace Template

variable {template : Template} {front back : List (String × Value)}

/-- Behind a hole a text begins with a separator, unless it ends there. -/
theorem isSeparator_of_mem_head? {piece : Piece} (hhole : piece.call?.isSome)
    (happart : (piece :: template).IsChain Piece.IsApart)
    (texts : List String) :
    ∀ character ∈ (template.withTexts texts).toList.head?,
      isSeparator character = true := by
  cases template with
  | nil => simp [withTexts]
  | cons next rest =>
      obtain ⟨hnext, -⟩ := List.isChain_cons_cons.1 happart
      have hbegins := hnext.2 hhole
      cases next with
      | text content =>
          exact Word.isSeparator_of_beginsApart
            (Word.beginsApart_append _ hbegins)
      | _ => cases hbegins

/-- With the placeholders of some values behind those of others, inlining all of
them comes to the JSON texts exactly if there are no further placeholders. -/
theorem substitute_withTexts_iff
    (hplain : ∀ piece ∈ template, piece.isPlain = true)
    (happart : template.IsChain Piece.IsApart)
    (hlength : template.calls.length = back.length)
    (hnames : ∀ binding ∈ front ++ back, IsWord binding.1.toList)
    (hnodup : ((front ++ back).map Prod.fst).Nodup) (before : String)
    (hbefore : ∀ piece ∈ template.head?, piece.call?.isSome →
      ∀ character ∈ before.toList.getLast?, isSeparator character = true) :
    substitute (front ++ back) (before ++ template.withTexts
        (back.map fun binding => "@" ++ binding.1)).toList =
      (before ++ template.withTexts
        (back.map fun binding => binding.2.toJson)).toList ↔
      (∀ stretch ∈ template.stretches before, ∀ binding ∈ front ++ back,
        hasPlaceholder binding.1.toList none stretch.toList = false) ∧
      back.Pairwise fun earlier later =>
        hasPlaceholder later.1.toList none earlier.2.toJson.toList = false := by
  induction template generalizing front back before with
  | nil =>
      obtain rfl := List.length_eq_zero_iff.1 hlength.symm
      simp only [withTexts, String.append_empty, Inlined.substitute_eq_iff]
      simp [stretches]
  | cons piece rest hrest =>
      obtain ⟨hpiece, htail⟩ := List.forall_mem_cons.1 hplain
      obtain ⟨hnext, hchain⟩ := List.isChain_cons.1 happart
      cases piece with
      | text content =>
          simp only [withTexts, ← String.append_assoc]
          exact hrest htail hchain hlength hnames hnodup (before ++ content)
            fun piece hhead hhole => Word.isSeparator_of_endsApart
              (Word.endsApart_append before ((hnext piece hhead).1 hhole))
      | hole stem filled =>
          obtain ⟨⟨name, value⟩, back, rfl⟩ :=
            List.exists_cons_of_length_eq_add_one hlength.symm
          have hall : front ++ (name, value) :: back =
              (front ++ [(name, value)]) ++ back := by simp
          have hlater := hrest htail hchain (Nat.succ.inj hlength)
            (hall ▸ hnames) (hall ▸ hnodup) "" (by simp)
          rw [← hall, String.empty_append, String.empty_append] at hlater
          have hfresh : name ∉ front.map Prod.fst := by
            rw [List.map_append, List.map_cons] at hnodup
            exact fun hname => (List.nodup_append.1 hnodup).2.2 name hname name
              List.mem_cons_self rfl
          have hname := hnames (name, value) (by simp)
          -- The text falls into what stands before the hole, the placeholder
          -- and what comes behind it.
          simp only [List.map_cons, withTexts, String.toList_append]
          rw [Inlined.substitute_append hnames (.inl (hbefore _ rfl rfl)),
            Inlined.substitute_append hnames
              (.inr (isSeparator_of_mem_head? rfl happart _)),
            Inlined.substitute_append_eq_iff]
          show _ ∧ substitute _ ('@' :: name.toList) ++ _ = _ ↔ _
          rw [Inlined.substitute_placeholder value hname
              (fun binding hbinding =>
                hnames binding (List.mem_append_left _ hbinding)) hfresh,
            Inlined.substitute_append_eq_iff, hlater, stretches,
            List.forall_mem_cons, List.pairwise_cons, ← and_assoc]
          exact and_and_and_comm
      | adopt bindings => exact absurd hpiece Bool.false_ne_true
      | halt error => exact absurd hpiece Bool.false_ne_true

end Template

/-! ## Compiled queries -/

theorem Word.isWord_numbered {stem : String} (hstem : IsWord stem.toList)
    (number : Nat) : IsWord (numbered stem number).toList := by
  rw [numbered, String.toList_append]
  refine ⟨by simp [hstem.nonempty], List.forall_mem_append.2 ⟨hstem.word, ?_⟩⟩
  intro character hcharacter
  rw [Nat.toString_eq_repr, Nat.toList_repr] at hcharacter
  have hdigit : character.isDigit = true :=
    Nat.isDigit_of_mem_toDigits (by decide) (by decide) hcharacter
  simp [Word.isWordChar, Char.isAlphanum, hdigit]

namespace Query

variable {query : Query} {compiled : CompiledQuery}

/-- The text with all values in place is the compiled text with the JSON text of
its value in the place of every placeholder, exactly if no stretch of text between
the placeholders has a placeholder of a value in it and no value that of a later
one. -/
theorem inlined_eq_iff (hraw : query.raw = none)
    (hsubqueries : ¬ query.RendersRawSubquery)
    (hcompile : query.compile = .ok compiled) :
    compiled.text = query.template.withTexts
        (compiled.bindings.map fun binding => "@" ++ binding.1) ∧
      (compiled.inlined = query.template.withTexts
          (compiled.bindings.map fun binding => binding.2.toJson) ↔
        (∀ stretch ∈ query.template.stretches "",
          ∀ binding ∈ compiled.bindings,
            hasPlaceholder binding.1.toList none stretch.toList = false) ∧
        compiled.bindings.Pairwise fun earlier later =>
          hasPlaceholder later.1.toList none earlier.2.toJson.toList =
            false) := by
  have hplain := isPlain_of_compile hraw hsubqueries hcompile
  have hbindings := bindings_numbered hraw hplain hcompile
  have hnodup : compiled.names.Nodup := by
    rw [names_of_isPlain hraw hplain hcompile]
    exact BindingStore.nodup_bindAll _ _
  have htext : compiled.text = query.template.withTexts
      (compiled.bindings.map fun binding => "@" ++ binding.1) := by
    have hfilled := hcompile
    rw [compile_of_isPlain hraw hplain] at hfilled
    rw [← congrArg CompiledQuery.text (Except.ok.inj hfilled),
      ← names_of_isPlain hraw hplain hcompile,
      Template.fillWith_eq_withTexts, CompiledQuery.names, List.map_map]
    rfl
  have hlength : query.template.calls.length = compiled.bindings.length := by
    rw [hbindings, List.length_mapIdx]
  have hnames : ∀ binding ∈ compiled.bindings, IsWord binding.1.toList := by
    rw [hbindings]
    intro binding hbinding
    obtain ⟨position, hposition, rfl⟩ := List.mem_mapIdx.1 hbinding
    exact Word.isWord_numbered
      (query.template_spaced.stems _ (List.getElem_mem hposition)) position
  refine ⟨htext, ?_⟩
  rw [← String.toList_inj, Inlined.toList_inlined, htext]
  have hiff := @Template.substitute_withTexts_iff query.template []
    compiled.bindings hplain query.template_spaced.apart hlength hnames hnodup ""
    (by simp)
  rwa [List.nil_append, String.empty_append, String.empty_append] at hiff

section Example

/-- A note next to a number. -/
def noteAndNumber (note : String) : Query where
  result := some (.array [.literal (.text note), .literal (.int 5),
    .reference "u"])

/-- An at sign in a value does no harm as long as no name comes behind it. -/
theorem noteAndNumber_inlined :
    ∃ compiled, (noteAndNumber "see @value").compile = .ok compiled ∧
      compiled.text = "RETURN [@value0, @value1, u]" ∧
      compiled.inlined = "RETURN [\"see @value\", 5, u]" := by
  obtain ⟨compiled, hcompile, hbindings⟩ : ∃ compiled,
      (noteAndNumber "see @value").compile = .ok compiled ∧
        compiled.bindings =
          [("value0", .text "see @value"), ("value1", .int 5)] :=
    ⟨_, rfl, rfl⟩
  obtain ⟨htext, hinlined⟩ := inlined_eq_iff rfl (by decide) hcompile
  rw [hbindings] at htext hinlined
  exact ⟨compiled, hcompile, htext, hinlined.2 ⟨by decide, by decide⟩⟩

/-- A value and a key that look like placeholders are replaced as well. -/
theorem placeholder_in_value_replaced :
    (∃ compiled, (noteAndNumber "see @value1").compile = .ok compiled ∧
      compiled.inlined = "RETURN [\"see 5\", 5, u]" ∧
      (noteAndNumber "see @value1").template.withTexts
          (compiled.bindings.map fun binding => binding.2.toJson) =
        "RETURN [\"see @value1\", 5, u]") ∧
    ∃ compiled,
      compile { result := some (.object [("@value0", .literal (.int 5))]) } =
        .ok compiled ∧
      compiled.text = "RETURN \x7b\"@value0\": @value0\x7d" ∧
      compiled.inlined = "RETURN \x7b\"5\": 5\x7d" :=
  ⟨⟨_, rfl, by decide, by decide⟩, _, rfl, rfl, by decide⟩

end Example

end Query

end ArangoQuery
