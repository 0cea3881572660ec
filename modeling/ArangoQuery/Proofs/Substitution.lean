import ArangoQuery.Rendering.Inlined

/-!
# One placeholder after the other

Inlining replaces the placeholders of one name after the other.  A text without
placeholders stays as it is, and any other text becomes a different one, which
later names cannot undo: the first difference is at an at sign, and no JSON text
begins with one (`Inlined.substitute_cases`).  Characters that are neither part of
a name nor an at sign cut a text into parts that are handled independently
(`Inlined.substitute_append`).
-/

namespace ArangoQuery

namespace Word

/-- A character that ends a name and is no at sign either. -/
def isSeparator (character : Char) : Bool :=
  !isWordChar character && character != '@'

theorem isSeparator_iff {character : Char} :
    isSeparator character = true ↔
      isWordChar character = false ∧ character ≠ '@' := by
  simp [isSeparator]

/-- A name of word characters. -/
structure IsWord (name : List Char) : Prop where
  nonempty : name ≠ []
  word : ∀ character ∈ name, isWordChar character = true

instance : DecidablePred IsWord := fun name =>
  decidable_of_iff (name ≠ [] ∧ name.all isWordChar = true)
    ⟨fun ⟨nonempty, word⟩ => ⟨nonempty, List.all_eq_true.1 word⟩,
      fun ⟨nonempty, word⟩ => ⟨nonempty, List.all_eq_true.2 word⟩⟩

end Word

namespace Inlined

open Word (IsWord isBoundary isSeparator isSeparator_iff)

variable {name replacement text changed : List Char} {before : Option Char}

/-- Is a character the at sign of a placeholder? -/
def startsPlaceholder (name : List Char) (before : Option Char)
    (character : Char) (text : List Char) : Bool :=
  character = '@' && before ≠ some '@' && (afterName? '@' name text).isSome

/-- Is there a placeholder of a name in a text? -/
def hasPlaceholder (name : List Char) : Option Char → List Char → Bool
  | _, [] => false
  | before, character :: text =>
      startsPlaceholder name before character text ||
        hasPlaceholder name (some character) text

theorem replaceFrom_cons (before : Option Char) (character : Char)
    (text : List Char) :
    replaceFrom name replacement before 0 (character :: text) =
      if startsPlaceholder name before character text then
        replacement ++
          replaceFrom name replacement (some character) name.length text
      else character :: replaceFrom name replacement (some character) 0 text :=
  rfl

theorem startsPlaceholder_of_ne {character : Char} (hne : character ≠ '@') :
    startsPlaceholder name before character text = false := by
  simp [startsPlaceholder, hne]

theorem eq_of_startsPlaceholder {character : Char}
    (hstarts : startsPlaceholder name before character text = true) :
    character = '@' := by
  simp only [startsPlaceholder, Bool.and_eq_true, decide_eq_true_eq] at hstarts
  exact hstarts.1.1

/-! ## Names in a text -/

/-- A name of word characters stands before whatever is none. -/
theorem isSome_afterName? (hname : IsWord name) (last : Char) :
    (afterName? last name text).isSome = true ↔
      ∃ after, text = name ++ after ∧
        after.head?.any Word.isWordChar = false := by
  obtain ⟨hnonempty, hword⟩ := hname
  induction name generalizing last text with
  | nil => exact absurd rfl hnonempty
  | cons letter name hrest =>
      obtain ⟨hletter, hword⟩ := List.forall_mem_cons.1 hword
      cases text with
      | nil => simp [afterName?]
      | cons character text =>
          by_cases heq : letter = character
          · subst heq
            cases name with
            | nil => simp [afterName?, isBoundary, hletter]
            | cons second name =>
                rw [afterName?, if_pos rfl,
                  hrest letter (List.cons_ne_nil _ _) hword]
                simp
          · simp [afterName?, heq, Ne.symm heq]

/-! ## Texts that change -/

/-- The first difference to a text is at an at sign of the text. -/
def Diverges (changed text : List Char) : Prop :=
  ∃ front first rest rest',
    changed = front ++ first :: rest ∧ text = front ++ '@' :: rest' ∧
      first ≠ '@'

theorem Diverges.cons (character : Char) (hdiverges : Diverges changed text) :
    Diverges (character :: changed) (character :: text) := by
  obtain ⟨front, first, rest, rest', rfl, rfl, hfirst⟩ := hdiverges
  exact ⟨character :: front, first, rest, rest', rfl, rfl, hfirst⟩

/-- What begins with no at sign is different from what does. -/
def BeginsElsewhere (replacement : List Char) : Prop :=
  ∃ first rest, replacement = first :: rest ∧ first ≠ '@'

theorem diverges_of_replacement (hbegins : BeginsElsewhere replacement)
    (tail rest : List Char) :
    Diverges (replacement ++ tail) ('@' :: rest) := by
  obtain ⟨first, back, rfl, hfirst⟩ := hbegins
  exact ⟨[], first, back ++ tail, rest, rfl, rfl, hfirst⟩

theorem replaceFrom_of_not_hasPlaceholder
    (hnone : hasPlaceholder name before text = false) :
    replaceFrom name replacement before 0 text = text := by
  induction text generalizing before with
  | nil => rfl
  | cons character text htext =>
      obtain ⟨hhere, hlater⟩ := Bool.or_eq_false_iff.1 hnone
      rw [replaceFrom_cons, hhere, if_neg Bool.false_ne_true, htext hlater]

theorem replaceFrom_of_hasPlaceholder (hbegins : BeginsElsewhere replacement)
    (hsome : hasPlaceholder name before text = true) :
    Diverges (replaceFrom name replacement before 0 text) text := by
  induction text generalizing before with
  | nil => cases hsome
  | cons character text htext =>
      rw [replaceFrom_cons]
      split
      · rename_i hhere
        rw [eq_of_startsPlaceholder hhere]
        exact diverges_of_replacement hbegins _ text
      · rename_i hhere
        obtain hsome | hsome := Bool.or_eq_true_iff.1 hsome
        · exact absurd hsome hhere
        · exact (htext hsome).cons character

/-- Replacing further names does not undo a change. -/
theorem Diverges.replaceFrom (hbegins : BeginsElsewhere replacement)
    (hdiverges : Diverges changed text) :
    Diverges (replaceFrom name replacement before 0 changed) text := by
  obtain ⟨front, first, rest, rest', rfl, rfl, hfirst⟩ := hdiverges
  induction front generalizing before with
  | nil =>
      rw [List.nil_append, replaceFrom_cons, startsPlaceholder_of_ne hfirst,
        if_neg Bool.false_ne_true]
      exact ⟨[], first, _, rest', rfl, rfl, hfirst⟩
  | cons character front hfront =>
      rw [List.cons_append, List.cons_append, replaceFrom_cons]
      split
      · rename_i hhere
        rw [eq_of_startsPlaceholder hhere]
        exact diverges_of_replacement hbegins _ _
      · exact hfront.cons character

/-! ## Cuts -/

/-- A name ends before a separator. -/
theorem isSome_afterName?_append (hname : IsWord name) {separator : Char}
    (hseparator : isSeparator separator = true) (last : Char)
    (left right : List Char) :
    (afterName? last name (left ++ separator :: right)).isSome =
      (afterName? last name left).isSome := by
  obtain ⟨hnoWord, -⟩ := isSeparator_iff.1 hseparator
  rw [Bool.eq_iff_iff, isSome_afterName? hname, isSome_afterName? hname]
  constructor
  · rintro ⟨after, htext, hafter⟩
    obtain ⟨middle, hmiddle, hrest⟩ | ⟨middle, rfl, rfl⟩ :=
      List.append_eq_append_iff.1 htext
    · cases middle with
      | nil => exact ⟨[], by simpa using hmiddle.symm, rfl⟩
      | cons first middle =>
          obtain ⟨rfl, -⟩ := List.cons.inj hrest
          have hword := hname.word separator (by simp [hmiddle])
          rw [hnoWord] at hword
          cases hword
    · refine ⟨middle, rfl, ?_⟩
      cases middle with
      | nil => rfl
      | cons first middle => exact hafter
  · rintro ⟨after, rfl, hafter⟩
    refine ⟨after ++ separator :: right, List.append_assoc .., ?_⟩
    cases after with
    | nil => simpa using hnoWord
    | cons first after => exact hafter

theorem replaceFrom_of_ne (hbefore : before ≠ some '@') (text : List Char) :
    replaceFrom name replacement before 0 text =
      replaceFrom name replacement none 0 text := by
  cases text with
  | nil => rfl
  | cons character text =>
      simp [replaceFrom_cons, startsPlaceholder, hbefore]

theorem replaceFrom_append_separator (hname : IsWord name) {separator : Char}
    (hseparator : isSeparator separator = true) (left right : List Char)
    {skipped : Nat} (hskipped : skipped ≤ left.length) :
    replaceFrom name replacement before skipped (left ++ separator :: right) =
      replaceFrom name replacement before skipped left ++
        separator :: replaceFrom name replacement none 0 right := by
  obtain ⟨-, hne⟩ := isSeparator_iff.1 hseparator
  induction left generalizing before skipped with
  | nil =>
      obtain rfl : skipped = 0 := Nat.le_zero.1 hskipped
      rw [List.nil_append, replaceFrom_cons, startsPlaceholder_of_ne hne,
        if_neg Bool.false_ne_true, replaceFrom_of_ne (by simpa using hne)]
      rfl
  | cons character left hleft =>
      cases skipped with
      | succ skipped => exact hleft (Nat.le_of_succ_le_succ hskipped)
      | zero =>
          have hsame : startsPlaceholder name before character
              (left ++ separator :: right) =
                startsPlaceholder name before character left := by
            rw [startsPlaceholder, startsPlaceholder,
              isSome_afterName?_append hname hseparator]
          rw [List.cons_append, replaceFrom_cons, replaceFrom_cons, hsame]
          split
          · rename_i hstarts
            have hlength : name.length ≤ left.length := by
              simp only [startsPlaceholder, Bool.and_eq_true] at hstarts
              obtain ⟨after, rfl, -⟩ :=
                (isSome_afterName? hname '@').1 hstarts.2
              simp
            rw [hleft hlength, List.append_assoc]
          · rw [hleft (Nat.zero_le _), List.cons_append]

/-! ## JSON texts -/

theorem BeginsElsewhere.append {front : List Char}
    (hbegins : BeginsElsewhere front) (back : List Char) :
    BeginsElsewhere (front ++ back) := by
  obtain ⟨first, rest, rfl, hfirst⟩ := hbegins
  exact ⟨first, rest ++ back, rfl, hfirst⟩

theorem BeginsElsewhere.take {text : List Char}
    (hbegins : BeginsElsewhere text) {count : Nat} (hcount : 0 < count) :
    BeginsElsewhere (text.take count) := by
  obtain ⟨first, rest, rfl, hfirst⟩ := hbegins
  obtain ⟨count, rfl⟩ := Nat.exists_eq_add_one.2 hcount
  exact ⟨first, rest.take count, rfl, hfirst⟩

theorem beginsElsewhere_nat (value : Nat) :
    BeginsElsewhere (toString value).toList := by
  rw [Nat.toString_eq_repr, Nat.toList_repr]
  cases hdigits : Nat.toDigits 10 value with
  | nil => exact absurd hdigits Nat.toDigits_ne_nil
  | cons first rest =>
      refine ⟨first, rest, rfl, ?_⟩
      have hdigit : first.isDigit = true :=
        Nat.isDigit_of_mem_toDigits (by decide) (by decide)
          (hdigits ▸ List.mem_cons_self)
      rintro rfl
      exact absurd hdigit (by decide)

theorem beginsElsewhere_int (value : Int) :
    BeginsElsewhere (toString value).toList := by
  cases value with
  | ofNat value => exact beginsElsewhere_nat value
  | negSucc value =>
      show BeginsElsewhere ("-" ++ toString (value + 1)).toList
      rw [String.toList_append]
      exact .append ⟨'-', [], rfl, by decide⟩ _

theorem beginsElsewhere_decimal (layout : NumberLayout)
    (value : Decimal) : BeginsElsewhere (layout.decimal value).toList := by
  have hdigits := beginsElsewhere_nat value.digits
  simp only [NumberLayout.decimal]
  split
  · rw [NumberLayout.positional]
    split
    · simp only [String.toList_append, List.append_assoc]
      exact .append ⟨'0', ['.'], rfl, by decide⟩ _
    · split
      · simp only [String.toList_append]
        exact (hdigits.append _).append _
      · simp only [String.toList_append, String.toList_ofList]
        exact ((hdigits.take (by omega)).append _).append _
  · simp only [NumberLayout.scientific, String.toList_append,
      String.toList_ofList, List.append_assoc]
    exact (hdigits.take Nat.one_pos).append _

theorem beginsElsewhere_number (number : Binary64) :
    BeginsElsewhere (NumberLayout.json.text number).toList := by
  have hsigned (isNegative : Bool) {text : String}
      (htext : BeginsElsewhere text.toList) :
      BeginsElsewhere ((if isNegative then "-" else "") ++ text).toList := by
    cases isNegative with
    | false => simpa using htext
    | true =>
        rw [String.toList_append]
        exact .append ⟨'-', [], rfl, by decide⟩ _
  rw [NumberLayout.text]
  split
  · exact ⟨'N', ['a', 'N'], rfl, by decide⟩
  · exact hsigned _ ⟨'I', _, rfl, by decide⟩
  · apply hsigned
    split
    · exact ⟨'0', ['.', '0'], rfl, by decide⟩
    · exact beginsElsewhere_decimal _ _

theorem beginsElsewhere_quote (text : String) :
    BeginsElsewhere (Quoted.quote text).toList := by
  rw [Quoted.quote, String.toList_ofList]
  exact ⟨'"', _, rfl, by decide⟩

/-- No JSON text begins with an at sign. -/
theorem beginsElsewhere_toJson (value : Value) :
    BeginsElsewhere value.toJson.toList := by
  have hbracket (opening : Char) (hopening : opening ≠ '@') (inner : String) :
      BeginsElsewhere (String.singleton opening ++ inner).toList := by
    rw [String.toList_append]
    exact .append ⟨opening, [], by simp, hopening⟩ _
  cases value with
  | scalar value =>
      cases value with
      | null => exact ⟨'n', _, rfl, by decide⟩
      | bool value =>
          cases value
          · exact ⟨'f', _, rfl, by decide⟩
          · exact ⟨'t', _, rfl, by decide⟩
      | int value => exact beginsElsewhere_int value
      | float value => exact beginsElsewhere_number value
      | text value => exact beginsElsewhere_quote value
  | list items | tuple items =>
      rw [Value.toJson, String.append_assoc]
      exact hbracket '[' (by decide) _
  | map entries =>
      rw [Value.toJson, String.append_assoc]
      exact hbracket '\x7b' (by decide) _
  | model name fields => exact beginsElsewhere_quote _
  | foreign kind shown => exact beginsElsewhere_quote _

/-! ## All names -/

/-- Replaces the placeholders of all names, one name after the other. -/
def substitute (bindings : List (String × Value)) (text : List Char) :
    List Char :=
  bindings.foldl (fun text (name, value) =>
    replaceFrom name.toList value.toJson.toList none 0 text) text

theorem toList_inlined (compiled : CompiledQuery) :
    compiled.inlined.toList =
      substitute compiled.bindings compiled.text.toList := by
  obtain ⟨text, bindings⟩ := compiled
  rw [CompiledQuery.inlined]
  induction bindings generalizing text with
  | nil => rfl
  | cons binding bindings hbindings =>
      rw [List.foldl_cons, hbindings, replaceName, String.toList_ofList]
      rfl

variable {bindings : List (String × Value)}

theorem Diverges.substitute (hdiverges : Diverges changed text) :
    Diverges (substitute bindings changed) text := by
  induction bindings generalizing changed with
  | nil => exact hdiverges
  | cons binding bindings hbindings =>
      exact hbindings (hdiverges.replaceFrom (beginsElsewhere_toJson _))

/-- A text changes if there is a placeholder of one of the names in it. -/
theorem substitute_cases (bindings : List (String × Value))
    (text : List Char) :
    ((∀ binding ∈ bindings, hasPlaceholder binding.1.toList none text = false) ∧
        substitute bindings text = text) ∨
      (∃ binding ∈ bindings, hasPlaceholder binding.1.toList none text = true) ∧
        Diverges (substitute bindings text) text := by
  induction bindings with
  | nil => exact .inl ⟨List.forall_mem_nil _, rfl⟩
  | cons binding bindings hbindings =>
      cases hstarts : hasPlaceholder binding.1.toList none text with
      | true =>
          exact .inr ⟨⟨binding, List.mem_cons_self, hstarts⟩,
            (replaceFrom_of_hasPlaceholder (beginsElsewhere_toJson _)
              hstarts).substitute⟩
      | false =>
          have hsame : substitute (binding :: bindings) text =
              substitute bindings text :=
            congrArg (substitute bindings)
              (replaceFrom_of_not_hasPlaceholder hstarts)
          rw [hsame]
          refine hbindings.imp ?_ ?_
          · rintro ⟨hnone, heq⟩
            exact ⟨List.forall_mem_cons.2 ⟨hstarts, hnone⟩, heq⟩
          · rintro ⟨⟨other, hother, hsome⟩, hdiverges⟩
            exact ⟨⟨other, List.mem_cons_of_mem _ hother, hsome⟩, hdiverges⟩

section Cuts

variable (hnames : ∀ binding ∈ bindings, IsWord binding.1.toList)

include hnames

theorem substitute_append_separator {separator : Char}
    (hseparator : isSeparator separator = true) (left right : List Char) :
    substitute bindings (left ++ separator :: right) =
      substitute bindings left ++
        separator :: substitute bindings right := by
  induction bindings generalizing left right with
  | nil => rfl
  | cons binding bindings hbindings =>
      obtain ⟨hname, hnames⟩ := List.forall_mem_cons.1 hnames
      show substitute bindings (replaceFrom _ _ none 0 _) = _
      rw [replaceFrom_append_separator hname hseparator left right
        (Nat.zero_le _), hbindings hnames]
      rfl

/-- Texts are handled independently where nothing but a separator stands at the
cut between them. -/
theorem substitute_append {left right : List Char}
    (hcut : (∀ character ∈ left.getLast?, isSeparator character = true) ∨
      ∀ character ∈ right.head?, isSeparator character = true) :
    substitute bindings (left ++ right) =
      substitute bindings left ++ substitute bindings right := by
  have hnil : substitute bindings [] = [] := by
    induction bindings with
    | nil => rfl
    | cons binding bindings hbindings =>
        exact hbindings (List.forall_mem_cons.1 hnames).2
  obtain hends | hbegins := hcut
  · obtain rfl | ⟨front, separator, rfl⟩ := left.eq_nil_or_concat
    · rw [hnil]
      rfl
    · rw [List.concat_eq_append] at hends ⊢
      have hfront := substitute_append_separator hnames
        (hends separator List.getLast?_concat) front
      rw [List.append_assoc, List.singleton_append, hfront right, hfront [],
        hnil, List.append_assoc, List.singleton_append]
  · cases right with
    | nil => rw [List.append_nil, hnil, List.append_nil]
    | cons separator rest =>
        have hrest := fun front =>
          substitute_append_separator hnames (hbegins separator rfl) front rest
        rw [hrest left, ← List.nil_append (separator :: rest), hrest [], hnil,
          List.nil_append]

end Cuts

/-! ## Placeholders -/

theorem ne_at_of_word {character : Char}
    (hword : Word.isWordChar character = true) : character ≠ '@' := by
  rintro rfl
  exact absurd hword (by decide)

theorem hasPlaceholder_of_forall_ne (hne : ∀ character ∈ text, character ≠ '@') :
    hasPlaceholder name before text = false := by
  induction text generalizing before with
  | nil => rfl
  | cons character text htext =>
      obtain ⟨hcharacter, hne⟩ := List.forall_mem_cons.1 hne
      rw [hasPlaceholder, startsPlaceholder_of_ne hcharacter, htext hne]
      rfl

/-- A placeholder has one name only. -/
theorem startsPlaceholder_at_iff {other : List Char} (hname : IsWord name)
    (hother : IsWord other) :
    startsPlaceholder other none '@' name = true ↔ other = name := by
  simp only [startsPlaceholder, decide_true, ne_eq, reduceCtorEq,
    not_false_eq_true, Bool.and_self, Bool.true_and, isSome_afterName? hother]
  constructor
  · rintro ⟨after, rfl, hafter⟩
    cases after with
    | nil => exact (List.append_nil _).symm
    | cons first after =>
        have hword := hname.word first (by simp)
        rw [List.head?_cons, Option.any_some, hword] at hafter
        cases hafter
  · rintro rfl
    exact ⟨[], by simp, rfl⟩

theorem replaceFrom_skipped (text : List Char) :
    replaceFrom name replacement before text.length text = [] := by
  induction text generalizing before with
  | nil => rfl
  | cons character text htext => exact htext

/-- A placeholder becomes the JSON text of its value, which later names may change
again. -/
theorem substitute_placeholder {front back : List (String × Value)}
    {name : String} (value : Value) (hname : IsWord name.toList)
    (hnames : ∀ binding ∈ front, IsWord binding.1.toList)
    (hfresh : name ∉ front.map Prod.fst) :
    substitute (front ++ (name, value) :: back) ('@' :: name.toList) =
      substitute back value.toJson.toList := by
  have hplain : ∀ character ∈ name.toList, character ≠ '@' :=
    fun character hcharacter => ne_at_of_word (hname.word character hcharacter)
  induction front with
  | nil =>
      have hown := (startsPlaceholder_at_iff hname hname).2 rfl
      show substitute back (replaceFrom _ _ none 0 _) = _
      rw [replaceFrom_cons, hown, if_pos rfl, replaceFrom_skipped,
        List.append_nil]
  | cons binding front hfront =>
      obtain ⟨hbinding, hnames⟩ := List.forall_mem_cons.1 hnames
      obtain ⟨hne, hfresh⟩ := not_or.1 (mt List.mem_cons.2 hfresh)
      have hother : hasPlaceholder binding.1.toList none ('@' :: name.toList) =
          false := by
        rw [hasPlaceholder, hasPlaceholder_of_forall_ne hplain, Bool.or_false,
          Bool.eq_false_iff, ne_eq, startsPlaceholder_at_iff hname hbinding]
        exact fun heq => hne (String.toList_injective heq).symm
      show substitute _ (replaceFrom _ _ none 0 _) = _
      rw [replaceFrom_of_not_hasPlaceholder hother]
      exact hfront hnames hfresh

end Inlined

end ArangoQuery
