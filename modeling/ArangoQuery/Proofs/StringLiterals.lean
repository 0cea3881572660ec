import ArangoQuery.Value.Reader

/-!
# String literals

`IsLiteral` is the grammar of JSON strings: a quote, characters and escapes, and a
quote with nothing behind it.  What is read up to its last character is a literal
(`Spells.isLiteral`), and a quoted text is one that is read as that text
(`spells_quote`).  It is written in printable ASCII characters only, and it ends
where it does whatever comes behind it (`quotes_quote`).
-/

namespace ArangoQuery.Quoted

def IsHexDigit (digit : Char) : Prop :=
  ('0' ≤ digit ∧ digit ≤ '9') ∨ ('a' ≤ digit ∧ digit ≤ 'f') ∨
    ('A' ≤ digit ∧ digit ≤ 'F')

/-- What may follow a backslash, apart from the units of a character. -/
def escapeLetters : List Char :=
  ['"', '\\', '/', 'b', 'f', 'n', 'r', 't']

/-- What follows the opening quote of a string. -/
inductive IsRest : List Char → Prop
  | close : IsRest ['"']
  | character {character : Char} {rest : List Char}
      (visible : 32 ≤ character.toNat) (noQuote : character ≠ '"')
      (noBackslash : character ≠ '\\') (tail : IsRest rest) :
      IsRest (character :: rest)
  | letter {letter : Char} {rest : List Char} (known : letter ∈ escapeLetters)
      (tail : IsRest rest) : IsRest ('\\' :: letter :: rest)
  | unit {a b c d : Char} {rest : List Char}
      (digits : ∀ digit ∈ [a, b, c, d], IsHexDigit digit) (tail : IsRest rest) :
      IsRest ('\\' :: 'u' :: a :: b :: c :: d :: rest)

/-- A string and nothing else. -/
def IsLiteral (text : String) : Prop :=
  ∃ rest, text.toList = '"' :: rest ∧ IsRest rest

/-- A string ends at its first quote without a backslash in front. -/
theorem IsRest.eq_nil_of_quote {front rest : List Char}
    (hfront : ∀ character ∈ front, character ≠ '"' ∧ character ≠ '\\')
    (hrest : IsRest (front ++ '"' :: rest)) : rest = [] := by
  induction front with
  | nil =>
      cases hrest with
      | close => rfl
      | character _ hquote _ _ => exact absurd rfl hquote
  | cons first front hfronts =>
      obtain ⟨⟨hquote, hbackslash⟩, hfront⟩ := List.forall_mem_cons.1 hfront
      rw [List.cons_append] at hrest
      generalize hwhole : front ++ '"' :: rest = whole at hrest
      cases hrest with
      | close => exact absurd rfl hquote
      | character _ _ _ htail => exact hfronts hfront (hwhole ▸ htail)
      | letter _ _ => exact absurd rfl hbackslash
      | unit _ _ => exact absurd rfl hbackslash

/-- A string that stands for a text, and nothing else. -/
def Spells (literal text : String) : Prop :=
  ∃ rest, literal.toList = '"' :: rest ∧
    readBody rest = some (text.toList, [])

theorem isHexDigit_of_hexValue? {digit : Char} {value : Nat}
    (hvalue : hexValue? digit = some value) : IsHexDigit digit := by
  simp only [hexValue?] at hvalue
  simp only [IsHexDigit, Char.le_def, UInt32.le_iff_toNat_le]
  split at hvalue
  · next hrange => exact .inl hrange
  split at hvalue
  · next hrange => exact .inr (.inl hrange)
  split at hvalue
  · next hrange => exact .inr (.inr hrange)
  · cases hvalue

theorem isHexDigit_of_fourDigits? {a b c d : Char} {unit : Nat}
    (hunit : fourDigits? a b c d = some unit) :
    ∀ digit ∈ [a, b, c, d], IsHexDigit digit := by
  simp only [fourDigits?, Option.bind_eq_bind, Option.bind_eq_some_iff] at hunit
  obtain ⟨_, ha, _, hb, _, hc, _, hd, -⟩ := hunit
  simp only [List.forall_mem_cons]
  exact ⟨isHexDigit_of_hexValue? ha, isHexDigit_of_hexValue? hb,
    isHexDigit_of_hexValue? hc, isHexDigit_of_hexValue? hd, by simp⟩

theorem mem_escapeLetters_of_letterEscape? {letter character : Char}
    (hletter : letterEscape? letter = some character) :
    letter ∈ escapeLetters := by
  unfold letterEscape? at hletter
  split at hletter
  all_goals first | decide | cases hletter

/-- What is read up to a closing quote at the end of a text is a string. -/
theorem isRest_of_readBody {characters : List Char}
    (hread : (readBody characters).map Prod.snd = some []) :
    IsRest characters := by
  fun_induction readBody characters with
  | case1 => cases hread
  | case2 rest =>
      obtain rfl : rest = [] := Option.some.inj hread
      exact .close
  | case3 => cases hread
  | case4 => cases hread
  | case5 a b c d high hhigh _ e f g h rest low hlow _ code hrest =>
      rw [Option.map_map] at hread
      exact .unit (isHexDigit_of_fourDigits? hhigh)
        (.unit (isHexDigit_of_fourDigits? hlow) (hrest hread))
  | case6 => cases hread
  | case7 => cases hread
  | case8 => cases hread
  | case9 a b c d rest unit hunit _ _ hrest =>
      rw [Option.map_map] at hread
      exact .unit (isHexDigit_of_fourDigits? hunit) (hrest hread)
  | case10 => cases hread
  | case11 letter rest _ character hletter hrest =>
      rw [Option.map_map] at hread
      exact .letter (mem_escapeLetters_of_letterEscape? hletter) (hrest hread)
  | case12 => cases hread
  | case13 character rest hquote _ _ hplain hrest =>
      rw [Option.map_map] at hread
      rw [not_or, Nat.not_lt] at hplain
      exact .character hplain.1 hquote hplain.2 (hrest hread)

theorem Spells.isLiteral {literal text : String} (hspells : Spells literal text) :
    IsLiteral literal := by
  obtain ⟨rest, hliteral, hread⟩ := hspells
  refine ⟨rest, hliteral, isRest_of_readBody ?_⟩
  rw [hread]
  rfl

/-- A quoted text is a literal that stands for it. -/
theorem spells_quote (text : String) : Spells (quote text) text := by
  refine ⟨encode text.toList ++ ['"'], ?_, readBody_encode text.toList []⟩
  rw [quote, String.toList_ofList, List.cons_append]

/-! ## Quoted texts -/

/-- From space to tilde. -/
def IsPrintable (character : Char) : Prop :=
  32 ≤ character.toNat ∧ character.toNat ≤ 126

instance : DecidablePred IsPrintable := fun _ =>
  inferInstanceAs (Decidable (_ ∧ _))

theorem isPrintable_hexDigit (value : Nat) (hvalue : value < 16) :
    IsPrintable (hexDigit value) := by
  have hall : ∀ digit : Fin 16, IsPrintable (hexDigit digit.val) := by decide
  exact hall ⟨value, hvalue⟩

theorem isPrintable_of_mem_unitEscape {unit : Nat} :
    ∀ character ∈ unitEscape unit, IsPrintable character := by
  have hdigit (value : Nat) : IsPrintable (hexDigit (value % 16)) :=
    isPrintable_hexDigit _ (Nat.mod_lt _ (by decide))
  simp only [unitEscape, List.forall_mem_cons]
  exact ⟨by decide, by decide, hdigit _, hdigit _, hdigit _, hdigit _,
    List.forall_mem_nil _⟩

theorem isPrintable_of_mem_encodeChar (character : Char) :
    ∀ written ∈ encodeChar character, IsPrintable written := by
  have hescape {letter : Char} (hletter : IsPrintable letter) :
      ∀ written ∈ ['\\', letter], IsPrintable written :=
    List.forall_mem_cons.2 ⟨by decide, List.forall_mem_singleton.2 hletter⟩
  unfold encodeChar
  split
  · exact hescape (by decide)
  split
  · exact hescape (by decide)
  split
  · exact hescape (by decide)
  split
  · exact hescape (by decide)
  split
  · exact hescape (by decide)
  split
  · exact hescape (by decide)
  split
  · exact hescape (by decide)
  split
  · next hplain =>
    simp only [isPlain, Bool.and_eq_true, decide_eq_true_eq] at hplain
    exact List.forall_mem_singleton.2 hplain.1.1
  · intro written hwritten
    obtain ⟨unit, -, hunit⟩ := List.mem_flatMap.1 hwritten
    exact isPrintable_of_mem_unitEscape written hunit

theorem isPrintable_of_mem_quote (text : String) :
    ∀ character ∈ (quote text).toList, IsPrintable character := by
  have hmark : IsPrintable '"' := by decide
  rw [quote, String.toList_ofList, List.cons_append]
  refine List.forall_mem_cons.2 ⟨hmark, List.forall_mem_append.2 ⟨?_, ?_⟩⟩
  · intro written hwritten
    obtain ⟨character, -, hcharacter⟩ := List.mem_flatMap.1 hwritten
    exact isPrintable_of_mem_encodeChar character written hcharacter
  · exact List.forall_mem_singleton.2 hmark

/-- A quoted text is a JSON text, which stands for the text. -/
theorem ofJson?_quote (longest : Nat) (text : String) :
    Value.ofJson? longest (quote text) = some (.text text) := by
  have hread := readBody_encode text.toList []
  rw [Value.ofJson?, quote, String.toList_ofList, List.cons_append]
  simp [JsonReader.readValue, JsonReader.skipBlanks, JsonReader.isBlank,
    JsonReader.readScalar, hread]

/-- How a literal quotes a text: it is one string of printable ASCII characters,
with no quote inside but behind a backslash; as JSON it stands for the text; and
what comes behind it does not become a part of it. -/
structure Quotes (literal text : String) : Prop where
  isLiteral : IsLiteral literal
  printable : ∀ character ∈ literal.toList, IsPrintable character
  decoded : ∀ longest, Value.ofJson? longest literal = some (.text text)
  delimited : ∃ body, literal.toList = '"' :: body ∧
    ∀ rest, readBody (body ++ rest) = some (text.toList, rest)

theorem quotes_quote (text : String) : Quotes (quote text) text where
  isLiteral := (spells_quote text).isLiteral
  printable := isPrintable_of_mem_quote text
  decoded longest := ofJson?_quote longest text
  delimited := by
    refine ⟨encode text.toList ++ ['"'], ?_, fun rest => ?_⟩
    · rw [quote, String.toList_ofList, List.cons_append]
    · rw [List.append_assoc, List.singleton_append, readBody_encode]

/-- What comes behind a quoted text can be told from it. -/
theorem quote_append_inj {left right : String} {leftRest rightRest : List Char}
    (htexts : (quote left).toList ++ leftRest =
      (quote right).toList ++ rightRest) :
    left = right ∧ leftRest = rightRest := by
  simp only [quote, String.toList_ofList, List.cons_append, List.append_assoc,
    List.nil_append, List.cons.injEq, true_and] at htexts
  have hread := congrArg readBody htexts
  rw [readBody_encode, readBody_encode] at hread
  obtain ⟨hname, hrest⟩ := Prod.mk.inj (Option.some.inj hread)
  exact ⟨String.toList_inj.1 hname, hrest⟩

theorem quote_injective : Function.Injective quote := by
  intro left right hquote
  have htexts : (quote left).toList ++ [] = (quote right).toList ++ [] := by
    rw [hquote]
  exact (quote_append_inj htexts).1

end ArangoQuery.Quoted
