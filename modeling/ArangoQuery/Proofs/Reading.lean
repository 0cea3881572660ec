import ArangoQuery.Proofs.FreshNames
import ArangoQuery.Query.Expr
import ArangoQuery.Query.Keyword
import ArangoQuery.Text.Quoted
import Mathlib.Data.List.Basic

/-!
# Reading expressions

The reader of expression text.  The first characters decide what is read: a name,
a placeholder, or something in brackets, where the operator comes after the first
operand.  A placeholder whose name is a stem with a number stands for data and is
read as the value of that name.  What a reader makes of the characters in front of
a stop does not depend on what comes after it (`Reads`).
-/

namespace ArangoQuery

/-! ## Characters -/

/-- The characters of identifiers: letters, digits, underscores and dollar signs,
and whatever is not ASCII. -/
def isWordChar (character : Char) : Bool :=
  isNameChar character || character = '$' || decide (127 < character.toNat)

def isIdentifier (text : String) : Bool :=
  !text.toList.isEmpty && text.toList.all isWordChar

def isPathChar (character : Char) : Bool :=
  isWordChar character || character = '.'

/-- A text of such characters, as every dotted path of identifiers is. -/
def isPath (text : String) : Bool :=
  !text.toList.isEmpty && text.toList.all isPathChar

theorem isPath_of_isIdentifier {text : String}
    (hidentifier : isIdentifier text = true) : isPath text = true := by
  rw [isIdentifier, Bool.and_eq_true, List.all_eq_true] at hidentifier
  rw [isPath, Bool.and_eq_true, List.all_eq_true]
  refine ⟨hidentifier.1, ?_⟩
  intro character hcharacter
  rw [isPathChar, hidentifier.2 character hcharacter, Bool.true_or]

/-- The characters that follow an expression inside of another one. -/
def isStop (character : Char) : Bool :=
  [' ', ',', ')', ']', '\x7d', '['].contains character

/-- The text is at its end or goes on with a stop. -/
def Stops (rest : List Char) : Prop :=
  ∀ character ∈ rest.head?, isStop character = true

theorem stops_nil : Stops [] := by
  intro character hcharacter
  cases hcharacter

theorem stops_cons {character : Char} {rest : List Char}
    (hstop : isStop character = true) : Stops (character :: rest) := by
  intro other hother
  obtain rfl := Option.some.inj hother
  exact hstop

theorem isPathChar_of_isStop {character : Char}
    (hstop : isStop character = true) : isPathChar character = false := by
  have hmem := List.contains_iff_mem.1 hstop
  simp only [List.mem_cons, List.not_mem_nil, or_false] at hmem
  rcases hmem with rfl | rfl | rfl | rfl | rfl | rfl <;> rfl

theorem isNameChar_of_isStop {character : Char}
    (hstop : isStop character = true) : isNameChar character = false := by
  have hpath := isPathChar_of_isStop hstop
  rw [isPathChar, isWordChar] at hpath
  exact (Bool.or_eq_false_iff.1
    (Bool.or_eq_false_iff.1 (Bool.or_eq_false_iff.1 hpath).1).1).1

section Words

variable {test : Char → Bool} {word rest : List Char}

/-- A word ends where its characters end. -/
theorem takeWhile_word (hword : word.all test = true)
    (hrest : ∀ character ∈ rest.head?, test character = false) :
    (word ++ rest).takeWhile test = word := by
  rw [List.takeWhile_append_of_pos (List.all_eq_true.1 hword)]
  cases rest with
  | nil => simp
  | cons character rest => simp [hrest character rfl]

theorem dropWhile_word (hword : word.all test = true)
    (hrest : ∀ character ∈ rest.head?, test character = false) :
    (word ++ rest).dropWhile test = rest := by
  rw [List.dropWhile_append_of_pos (List.all_eq_true.1 hword)]
  cases rest with
  | nil => rfl
  | cons character rest => simp [hrest character rfl]

end Words

/-! ## Names with numbers -/

/-- The stem of a name that ends in a number. -/
def stem? (name : String) : Option String :=
  let digits := name.toList.dropWhile (!·.isDigit)
  if !digits.isEmpty && digits.all Char.isDigit then
    some (String.ofList (name.toList.takeWhile (!·.isDigit)))
  else none

open BindingStore

theorem isDigit_toString (number : Nat) :
    (toString number).toList.all Char.isDigit = true := by
  rw [List.all_eq_true, Nat.toString_eq_repr, Nat.toList_repr]
  intro character hcharacter
  exact Nat.isDigit_of_mem_toDigits (by decide) (by decide) hcharacter

theorem stem?_numbered {stem : String} (hstem : IsStem stem) (number : Nat) :
    stem? (numbered stem number) = some stem := by
  have htake := takeWhile_numbered hstem number
  have hname : (numbered stem number).toList =
      stem.toList ++ (toString number).toList := by
    rw [numbered, String.toList_append]
  have hdrop : (numbered stem number).toList.dropWhile (!·.isDigit) =
      (toString number).toList := by
    have hwhole := List.takeWhile_append_dropWhile
      (p := fun character : Char => !character.isDigit)
      (l := (numbered stem number).toList)
    rw [htake] at hwhole
    exact List.append_cancel_left (hwhole.trans hname)
  have hdigits := isDigit_toString number
  have hnonempty : (toString number).toList.isEmpty = false := by
    rw [Nat.toString_eq_repr, Nat.toList_repr, List.isEmpty_eq_false_iff]
    exact Nat.toDigits_ne_nil
  simp only [stem?, hdrop, htake, hdigits, hnonempty, Bool.not_false,
    Bool.and_self, if_true, String.ofList_toList]

/-- Does a name consist of one of the given stems and a number? -/
def isNumberedBy (stems : List String) (name : String) : Bool :=
  (stem? name).any stems.contains

/-- The stems of names for data, patterns apart. -/
def valueStems : List String := ["value", "array", "inValues"]

def patternStems : List String := ["likePattern", "regexPattern"]

/-! ## Readers -/

abbrev Reader (α : Type) := List Char → Option (α × List Char)

namespace Reading

/-- What follows a given word. -/
def expect (word : String) (characters : List Char) : Option (List Char) :=
  word.toList.isPrefixOf? characters

variable (values : String → Option Value)

/-- The name at the start of a text, and what follows it. -/
def leadingName (characters : List Char) : String × List Char :=
  (String.ofList (characters.takeWhile isNameChar),
    characters.dropWhile isNameChar)

def parameterOf (collection : Bool) (name : String) (rest : List Char) :
    Option (Node Expr × List Char) :=
  (ParameterName.of? name).map fun name =>
    (.parameter { name, collection }, rest)

/-- What follows the at sign of a placeholder.  A second one is for
collections. -/
def placeholder : Reader (Node Expr) := fun characters =>
  if characters.head? = some '@' then
    let (name, rest) := leadingName characters.tail
    parameterOf true name rest
  else
    let (name, rest) := leadingName characters
    if isNumberedBy valueStems name then
      (values name).map fun value => (.literal value, rest)
    else if isNumberedBy patternStems name then none
    else parameterOf false name rest

/-- The placeholder of a pattern. -/
def pattern : Reader String
  | '@' :: characters =>
      let (name, rest) := leadingName characters
      if isNumberedBy patternStems name then
        match values name with
        | some (.text content) => some (content, rest)
        | _ => none
      else none
  | _ => none

section Items

variable {α : Type}

/-- The items that follow an item, up to a closing bracket.  The number bounds
how many there are. -/
def more (item : Reader α) (closing : String) : Nat → Reader (List α)
  | 0, _ => none
  | count + 1, characters =>
      match expect ", " characters with
      | some rest => do
          let (first, rest) ← item rest
          let (others, rest) ← more item closing count rest
          return (first :: others, rest)
      | none => (expect closing characters).map fun rest => ([], rest)

/-- Items with commas between them, up to a closing bracket. -/
def items (item : Reader α) (closing : String) : Reader (List α) :=
  fun characters =>
    match item characters with
    | some (first, rest) => do
        let (others, rest) ← more item closing (rest.length + 1) rest
        return (first :: others, rest)
    | none => (expect closing characters).map fun rest => ([], rest)

end Items

/-- What stands between the brackets of a call. -/
inductive Argument where
  | part (expr : Expr)
  | pattern (content : String)

def Argument.part? : Argument → Option Expr
  | .part expr => some expr
  | .pattern _ => none

def text? : Expr → Option String
  | .literal (.text content) => some content
  | _ => none

def unsetOf : List Expr → Option (Node Expr)
  | document :: fields => (fields.mapM text?).map (.unset document)
  | [] => none

/-- A third argument makes a test of a pattern ignore the case of letters. -/
def patternCallOf (function : String) : List Argument → Option (Node Expr)
  | [.part subject, .pattern content] => some (.regex subject content none)
  | [.part subject, .pattern content, _] =>
      some (if function = "LIKE" then .like subject content true
        else .regex subject content (some "i"))
  | _ => none

def callOf (function : String) (arguments : List Argument) :
    Option (Node Expr) :=
  match arguments.mapM Argument.part? with
  | some parts =>
      if function = "UNSET" then unsetOf parts else some (.call function parts)
  | none => patternCallOf function arguments

variable (part : Reader Expr)

def argument : Reader Argument := fun characters =>
  match part characters with
  | some (expr, rest) => some (.part expr, rest)
  | none =>
      (pattern values characters).map fun (content, rest) =>
        (.pattern content, rest)

def member : Reader (String × Expr)
  | '"' :: characters => do
      let (name, rest) ← Quoted.readBody characters
      let rest ← expect ": " rest
      let (value, rest) ← part rest
      return ((String.ofList name, value), rest)
  | _ => none

/-! ### After an opening bracket and the first operand -/

section Operations

variable (first : Expr)

def ternary : Reader (Node Expr) := fun characters => do
  let (thenValue, rest) ← part characters
  let rest ← expect " : " rest
  let (elseValue, rest) ← part rest
  let rest ← expect ")" rest
  return (.ternary first thenValue elseValue, rest)

def like : Reader (Node Expr) := fun characters => do
  let (content, rest) ← pattern values characters
  let rest ← expect ")" rest
  return (.like first content false, rest)

def quantified : Reader (Node Expr) := fun characters => do
  let (condition, rest) ← part characters
  [Quantifier.all, .any].findSome? fun quantifier =>
    (expect ("] " ++ quantifier.text ++ " == true)") rest).map fun rest =>
      (.quantified quantifier first condition, rest)

def binary (operator : BinaryOperator) : Reader (Node Expr) :=
  fun characters => do
    let (right, rest) ← part characters
    let rest ← expect ")" rest
    return (.binary operator first right, rest)

/-- The ways to go on after the first operand, each with the word that it starts
with. -/
def alternatives : List (String × Reader (Node Expr)) :=
  [(" ? ", ternary part first), (" LIKE ", like values first),
      ("[* RETURN ", quantified part first)] ++
    BinaryOperator.all.map fun operator =>
      (" " ++ operator.text ++ " ", binary part first operator)

def operation : Reader (Node Expr) := fun characters =>
  (alternatives values part first).findSome? fun alternative =>
    (expect alternative.1 characters).bind alternative.2

end Operations

/-! ### Nodes -/

def bracketed : Reader (Node Expr) := fun characters => do
  let (first, rest) ← part characters
  operation values part first rest

/-- What is told by its first character. -/
def marked : Reader (Node Expr)
  | '@' :: characters => placeholder values characters
  | '(' :: characters => bracketed values part characters
  | '[' :: characters =>
      (items part "]" characters).map fun (parts, rest) =>
        (.array parts, rest)
  | '\x7b' :: characters =>
      (items (member part) "\x7d" characters).map fun (members, rest) =>
        (.object members, rest)
  | '!' :: characters =>
      (part characters).map fun (operand, rest) => (.unary .not operand, rest)
  | '-' :: characters =>
      (part characters).map fun (operand, rest) =>
        (.unary .negate operand, rest)
  | _ => none

/-- A name is the name of a function if a bracket follows. -/
def named (word : String) : Reader (Node Expr)
  | '(' :: characters => do
      let (arguments, rest) ← items (argument values part) ")" characters
      let node ← callOf word arguments
      return (node, rest)
  | characters => some (.reference word, characters)

def node : Reader (Node Expr) := fun characters =>
  let word := characters.takeWhile isPathChar
  if word.isEmpty then marked values part characters
  else
    named values part (String.ofList word) (characters.dropWhile isPathChar)

end Reading

/-- Reads an expression of at most the given depth. -/
def Expr.read (values : String → Option Value) : Nat → Reader Expr
  | 0, _ => none
  | depth + 1, characters =>
      (Reading.node values (read values depth) characters).map
        fun (node, rest) => (.of node, rest)

namespace Reading

/-! ## Words -/

theorem expect_append (word : String) (rest : List Char) :
    expect word (word.toList ++ rest) = some rest :=
  List.isPrefixOf?_eq_some_iff_append_eq.2 rfl

theorem expect_eq_none {word : String} {characters : List Char}
    (hbegins : ¬ word.toList <+: characters) :
    expect word characters = none := by
  cases hexpect : expect word characters with
  | none => rfl
  | some rest =>
      have happend := List.isPrefixOf?_eq_some_iff_append_eq.1 hexpect
      exact absurd ⟨rest, happend⟩ hbegins

/-- Neither of two words starts with the other. -/
def AreApart (left right : String) : Prop :=
  ¬ left.toList <+: right.toList ∧ ¬ right.toList <+: left.toList

instance (left right : String) : Decidable (AreApart left right) :=
  inferInstanceAs (Decidable (_ ∧ _))

theorem expect_of_areApart {word other : String} (hapart : AreApart word other)
    (rest : List Char) : expect word (other.toList ++ rest) = none := by
  apply expect_eq_none
  intro hbegins
  rcases List.prefix_or_prefix_of_prefix hbegins
    (List.prefix_append other.toList rest) with hword | hother
  · exact hapart.1 hword
  · exact hapart.2 hother

/-! ## What is read in front of a stop -/

/-- What a reader makes of some characters in front of a stop. -/
def Reads {α : Type} (reader : Reader α) (characters : List Char)
    (result : α) : Prop :=
  ∀ rest, Stops rest → reader (characters ++ rest) = some (result, rest)

/-- A word that starts with a stop is one. -/
theorem stops_word {word : String}
    (hword : word.toList.head?.any isStop = true) (rest : List Char) :
    Stops (word.toList ++ rest) := by
  cases htext : word.toList with
  | nil => simp [htext] at hword
  | cons character characters =>
      rw [htext] at hword
      exact stops_cons hword

theorem notNameChar_of_stops {rest : List Char} (hstops : Stops rest) :
    ∀ character ∈ rest.head?, isNameChar character = false := by
  intro character hcharacter
  exact isNameChar_of_isStop (hstops character hcharacter)

theorem notPathChar_of_stops {rest : List Char} (hstops : Stops rest) :
    ∀ character ∈ rest.head?, isPathChar character = false := by
  intro character hcharacter
  exact isPathChar_of_isStop (hstops character hcharacter)

/-! ### Placeholders -/

variable {values}

theorem isNameChar_of_isNameStart {character : Char}
    (hstart : isNameStart character = true) :
    isNameChar character = true := by
  rw [isNameStart, Bool.or_eq_true] at hstart
  rw [isNameChar, Char.isAlphanum, Bool.or_eq_true, Bool.or_eq_true]
  rcases hstart with halpha | hunderscore
  · exact .inl (.inl halpha)
  · exact .inr hunderscore

theorem exists_of_isName {name : String} (hname : isName name = true) :
    ∃ first rest, name.toList = first :: rest ∧ isNameStart first = true ∧
      rest.all isNameChar = true := by
  rw [isName] at hname
  cases htext : name.toList with
  | nil => simp [htext, isNameList] at hname
  | cons first rest =>
      rw [htext, isNameList, Bool.and_eq_true] at hname
      exact ⟨first, rest, rfl, hname⟩

theorem isNameChar_of_isName {name : String} (hname : isName name = true) :
    name.toList.all isNameChar = true := by
  obtain ⟨first, rest, htext, hfirst, hrest⟩ := exists_of_isName hname
  rw [htext, List.all_cons, isNameChar_of_isNameStart hfirst, hrest]
  rfl

theorem leadingName_append {name : String} {rest : List Char}
    (hname : isName name = true) (hstops : Stops rest) :
    leadingName (name.toList ++ rest) = (name, rest) := by
  have hcharacters := isNameChar_of_isName hname
  have hrest := notNameChar_of_stops hstops
  rw [leadingName, takeWhile_word hcharacters hrest,
    dropWhile_word hcharacters hrest, String.ofList_toList]

theorem placeholder_collection (name : ParameterName) :
    Reads (placeholder values) ('@' :: name.text.toList)
      (.parameter { name, collection := true }) := by
  intro rest hstops
  have hhead : ('@' :: name.text.toList ++ rest).head? = some '@' := rfl
  rw [placeholder, if_pos hhead, List.cons_append, List.tail_cons,
    leadingName_append name.isName_text hstops]
  exact congrArg (Option.map _) name.of?_text

/-- A name without an at sign in front is not that of a collection. -/
theorem placeholder_name {name : String} {rest : List Char}
    (hname : isName name = true) (hstops : Stops rest) :
    placeholder values (name.toList ++ rest) =
      if isNumberedBy valueStems name then
        (values name).map fun value => (.literal value, rest)
      else if isNumberedBy patternStems name then none
      else parameterOf false name rest := by
  have hhead : (name.toList ++ rest).head? ≠ some '@' := by
    obtain ⟨first, others, htext, hfirst, -⟩ := exists_of_isName hname
    rw [htext]
    intro hat
    obtain rfl := Option.some.inj hat
    exact absurd hfirst (by decide)
  rw [placeholder, if_neg hhead, leadingName_append hname hstops]

theorem placeholder_value {name : ParameterName}
    (hvalue : isNumberedBy valueStems name.text = false)
    (hpattern : isNumberedBy patternStems name.text = false) :
    Reads (placeholder values) name.text.toList
      (.parameter { name, collection := false }) := by
  intro rest hstops
  rw [placeholder_name name.isName_text hstops, hvalue, hpattern,
    parameterOf, name.of?_text]
  rfl

theorem isName_numbered {stem : String} (hstem : isName stem = true)
    (number : Nat) : isName (numbered stem number) = true := by
  obtain ⟨first, rest, htext, hfirst, hrest⟩ := exists_of_isName hstem
  have hdigits : (toString number).toList.all isNameChar = true := by
    rw [List.all_eq_true]
    intro digit hdigit
    have hisDigit := List.all_eq_true.1 (isDigit_toString number) digit hdigit
    simp [isNameChar, Char.isAlphanum, hisDigit]
  rw [isName, numbered, String.toList_append, htext, List.cons_append,
    isNameList, hfirst, List.all_append, hrest, hdigits]
  rfl

theorem isNumberedBy_numbered {stems : List String} {stem : String}
    (hstem : IsStem stem) (number : Nat) :
    isNumberedBy stems (numbered stem number) = stems.contains stem := by
  rw [isNumberedBy, stem?_numbered hstem]
  rfl

/-- The stems of names for data are names, and have no digits. -/
theorem isStem_of_mem {stem : String}
    (hstem : stem ∈ valueStems ++ patternStems) :
    isName stem = true ∧ IsStem stem := by
  have hstems : ∀ stem ∈ valueStems ++ patternStems,
      isName stem = true ∧ IsStem stem := by
    decide
  exact hstems stem hstem

theorem placeholder_numbered {stem : String} {number : Nat} {value : Value}
    (hstem : stem ∈ valueStems)
    (hvalue : values (numbered stem number) = some value) :
    Reads (placeholder values) (numbered stem number).toList
      (.literal value) := by
  obtain ⟨hname, hisStem⟩ := isStem_of_mem (List.mem_append_left _ hstem)
  intro rest hstops
  rw [placeholder_name (isName_numbered hname number) hstops,
    isNumberedBy_numbered hisStem, List.contains_iff_mem.2 hstem, hvalue]
  rfl

/-- The placeholder of a pattern is not that of a value. -/
theorem placeholder_pattern {stem : String} (hstem : stem ∈ patternStems)
    (number : Nat) {rest : List Char} (hstops : Stops rest) :
    placeholder values ((numbered stem number).toList ++ rest) = none := by
  obtain ⟨hname, hisStem⟩ := isStem_of_mem (List.mem_append_right _ hstem)
  have hvalue : valueStems.contains stem = false := by
    have hstems : ∀ stem ∈ patternStems, valueStems.contains stem = false := by
      decide
    exact hstems stem hstem
  rw [placeholder_name (isName_numbered hname number) hstops,
    isNumberedBy_numbered hisStem, isNumberedBy_numbered hisStem, hvalue,
    List.contains_iff_mem.2 hstem]
  rfl

theorem pattern_numbered {stem : String} {number : Nat} {content : String}
    (hstem : stem ∈ patternStems)
    (hvalue : values (numbered stem number) = some (.text content)) :
    Reads (pattern values) ('@' :: (numbered stem number).toList) content := by
  obtain ⟨hname, hisStem⟩ := isStem_of_mem (List.mem_append_right _ hstem)
  intro rest hstops
  simp only [List.cons_append, pattern,
    leadingName_append (isName_numbered hname number) hstops,
    isNumberedBy_numbered hisStem, List.contains_iff_mem.2 hstem, hvalue,
    if_true]

/-! ### Items -/

section Items

variable {α : Type} {item : Reader α} {texts : List (List Char)}
variable {results : List α} {closing : String}

/-- The texts of the items after the first, each behind a comma. -/
def tail (texts : List (List Char)) : List Char :=
  texts.flatMap fun text => ", ".toList ++ text

/-- The texts of items with commas between them. -/
def joined : List (List Char) → List Char
  | [] => []
  | text :: texts => text ++ tail texts

def closings : List String := [")", "]", "\x7d"]

theorem stops_closing (hclosing : closing ∈ closings) (rest : List Char) :
    Stops (closing.toList ++ rest) := by
  have hclosings : ∀ closing ∈ closings,
      closing.toList.head?.any isStop = true := by
    decide
  exact stops_word (hclosings closing hclosing) rest

theorem stops_tail (hclosing : closing ∈ closings) (texts : List (List Char))
    (rest : List Char) : Stops (tail texts ++ (closing.toList ++ rest)) := by
  cases texts with
  | nil => exact stops_closing hclosing rest
  | cons text texts =>
      rw [tail, List.flatMap_cons, List.append_assoc, List.append_assoc]
      exact stops_word (by decide) _

theorem expect_comma_closing (hclosing : closing ∈ closings)
    (rest : List Char) : expect ", " (closing.toList ++ rest) = none := by
  have hclosings : ∀ closing ∈ closings, AreApart ", " closing := by
    decide
  exact expect_of_areApart (hclosings closing hclosing) rest

/-- What an item is read as in a list, whatever comes behind it there. -/
def ReadsItem (closing : String) (item : Reader α) (text : List Char)
    (result : α) : Prop :=
  ∀ texts rest, item (text ++ (tail texts ++ (closing.toList ++ rest))) =
    some (result, tail texts ++ (closing.toList ++ rest))

theorem Reads.readsItem {text : List Char} {result : α}
    (hreads : Reads item text result) (hclosing : closing ∈ closings) :
    ReadsItem closing item text result :=
  fun texts rest => hreads _ (stops_tail hclosing texts rest)

theorem more_of_reads (hclosing : closing ∈ closings)
    (hreads : List.Forall₂ (ReadsItem closing item) texts results)
    {count : Nat} (hcount : texts.length < count) (rest : List Char) :
    more item closing count (tail texts ++ (closing.toList ++ rest)) =
      some (results, rest) := by
  induction hreads generalizing count with
  | nil =>
      obtain ⟨count, rfl⟩ := Nat.exists_eq_add_of_lt hcount
      simp only [tail, List.flatMap_nil, List.nil_append, more,
        expect_comma_closing hclosing, expect_append, Option.map_some]
  | @cons text result texts results hfirst hothers hmore =>
      obtain ⟨count, rfl⟩ := Nat.exists_eq_add_of_lt hcount
      have htext : tail (text :: texts) ++ (closing.toList ++ rest) =
          ", ".toList ++
            (text ++ (tail texts ++ (closing.toList ++ rest))) := by
        simp [tail]
      have hshorter : texts.length < texts.length + 1 + count := by omega
      rw [htext, List.length_cons, more, expect_append]
      simp only [hfirst texts rest, hmore hshorter, Option.bind_eq_bind,
        Option.bind_some]
      rfl

theorem length_le_tail (texts : List (List Char)) :
    texts.length ≤ (tail texts).length := by
  induction texts with
  | nil => exact Nat.le_refl 0
  | cons text texts htexts =>
      have hcomma : ", ".toList.length = 2 := rfl
      rw [tail] at htexts
      simp only [tail, List.flatMap_cons, List.length_append, List.length_cons,
        hcomma]
      omega

theorem items_of_readsItem (hclosing : closing ∈ closings)
    (hclosed : ∀ rest, item (closing.toList ++ rest) = none)
    (hreads : List.Forall₂ (ReadsItem closing item) texts results)
    (rest : List Char) :
    items item closing (joined texts ++ (closing.toList ++ rest)) =
      some (results, rest) := by
  cases hreads with
  | nil =>
      simp only [joined, List.nil_append, items, hclosed, expect_append,
        Option.map_some]
  | @cons text result texts results hfirst hothers =>
      have htext : joined (text :: texts) ++ (closing.toList ++ rest) =
          text ++ (tail texts ++ (closing.toList ++ rest)) :=
        List.append_assoc ..
      have hcount : texts.length <
          (tail texts ++ (closing.toList ++ rest)).length + 1 := by
        rw [List.length_append]
        have hcommas := length_le_tail texts
        omega
      rw [htext, items, hfirst texts rest]
      simp only [more_of_reads hclosing hothers hcount rest,
        Option.bind_eq_bind, Option.bind_some]
      rfl

theorem items_of_reads (hclosing : closing ∈ closings)
    (hclosed : ∀ rest, item (closing.toList ++ rest) = none)
    (hreads : List.Forall₂ (Reads item) texts results) (rest : List Char) :
    items item closing (joined texts ++ (closing.toList ++ rest)) =
      some (results, rest) := by
  apply items_of_readsItem hclosing hclosed
  exact hreads.imp fun _ _ hitem => hitem.readsItem hclosing

end Items

/-! ### Operations -/

/-- The words that may come after the first operand. -/
def continuations : List String :=
  [" ? ", " LIKE ", "[* RETURN "] ++
    BinaryOperator.all.map fun operator => " " ++ operator.text ++ " "

theorem pairwise_continuations : continuations.Pairwise AreApart := by
  decide

theorem stops_continuation {word : String} (hword : word ∈ continuations)
    (rest : List Char) : Stops (word.toList ++ rest) := by
  have hwords : ∀ word ∈ continuations,
      word.toList.head?.any isStop = true := by
    decide
  exact stops_word (hwords word hword) rest

section Operations

variable {part : Reader Expr} {first : Expr} {word : String}
variable {reader : Reader (Node Expr)}

theorem words_alternatives :
    (alternatives values part first).map Prod.fst = continuations := by
  simp [alternatives, continuations]

theorem mem_continuations
    (hmember : (word, reader) ∈ alternatives values part first) :
    word ∈ continuations := by
  rw [← words_alternatives]
  exact List.mem_map_of_mem hmember

/-- The word after the first operand decides how to go on. -/
theorem operation_word
    (hmember : (word, reader) ∈ alternatives values part first)
    (rest : List Char) :
    operation values part first (word.toList ++ rest) = reader rest := by
  have hapart : (alternatives values part first).Pairwise
      fun left right => AreApart left.1 right.1 := by
    apply List.pairwise_map.1
    rw [words_alternatives]
    exact pairwise_continuations
  rw [operation]
  generalize alternatives values part first = readers at hmember hapart
  induction readers with
  | nil => exact absurd hmember List.not_mem_nil
  | cons alternative readers hreaders =>
      obtain ⟨hothers, hapart⟩ := List.pairwise_cons.1 hapart
      rw [List.findSome?_cons]
      rcases List.mem_cons.1 hmember with rfl | hmember
      · have hnone : readers.findSome? (fun alternative =>
            (expect alternative.1 (word.toList ++ rest)).bind
              alternative.2) = none := by
          rw [List.findSome?_eq_none_iff]
          intro other hother
          have hother := hothers other hother
          rw [expect_of_areApart ⟨hother.2, hother.1⟩]
          rfl
        simp only [expect_append, Option.bind_some, hnone]
        cases reader rest <;> rfl
      · have hother := hothers _ hmember
        rw [expect_of_areApart hother]
        exact hreaders hmember hapart

/-- Between brackets, an operation on a first operand. -/
theorem bracketed_of_reads {left right : List Char} {result : Node Expr}
    (hmember : (word, reader) ∈ alternatives values part first)
    (hfirst : Reads part left first)
    (hreader : ∀ rest, reader (right ++ rest) = some (result, rest))
    (rest : List Char) :
    bracketed values part (left ++ (word.toList ++ right) ++ rest) =
      some (result, rest) := by
  have hstops := stops_continuation (mem_continuations hmember) (right ++ rest)
  have htext : left ++ (word.toList ++ right) ++ rest =
      left ++ (word.toList ++ (right ++ rest)) := by
    simp only [List.append_assoc]
  rw [htext, bracketed, hfirst _ hstops]
  simp only [Option.bind_eq_bind, Option.bind_some, operation_word hmember]
  exact hreader rest

theorem stops_bracket (rest : List Char) : Stops (")".toList ++ rest) :=
  stops_word (by decide) rest

theorem ternary_of_reads {thenText elseText : List Char}
    {thenValue elseValue : Expr} (hthen : Reads part thenText thenValue)
    (helse : Reads part elseText elseValue) (rest : List Char) :
    ternary part first
        (thenText ++ (" : ".toList ++ elseText) ++ ")".toList ++ rest) =
      some (.ternary first thenValue elseValue, rest) := by
  have hcolon : Stops (" : ".toList ++
      (elseText ++ (")".toList ++ rest))) := stops_word (by decide) _
  have htext : thenText ++ (" : ".toList ++ elseText) ++ ")".toList ++ rest =
      thenText ++ (" : ".toList ++ (elseText ++ (")".toList ++ rest))) := by
    simp only [List.append_assoc]
  rw [htext, ternary, hthen _ hcolon]
  simp only [Option.bind_eq_bind, Option.bind_some, expect_append,
    helse _ (stops_bracket rest)]
  rfl

theorem like_of_reads {text : List Char} {content : String}
    (hpattern : Reads (pattern values) text content) (rest : List Char) :
    like values first (text ++ ")".toList ++ rest) =
      some (.like first content false, rest) := by
  rw [List.append_assoc, like, hpattern _ (stops_bracket rest)]
  simp only [Option.bind_eq_bind, Option.bind_some, expect_append]
  rfl

theorem binary_of_reads {operator : BinaryOperator} {text : List Char}
    {right : Expr} (hright : Reads part text right) (rest : List Char) :
    binary part first operator (text ++ ")".toList ++ rest) =
      some (.binary operator first right, rest) := by
  rw [List.append_assoc, binary, hright _ (stops_bracket rest)]
  simp only [Option.bind_eq_bind, Option.bind_some, expect_append]
  rfl

theorem quantified_of_reads {quantifier : Quantifier} {text : List Char}
    {condition : Expr} (hcondition : Reads part text condition)
    (rest : List Char) :
    quantified part first
        (text ++ ("] " ++ quantifier.text ++ " == true)").toList ++ rest) =
      some (.quantified quantifier first condition, rest) := by
  have hstops : Stops
      (("] " ++ quantifier.text ++ " == true)").toList ++ rest) := by
    cases quantifier <;> exact stops_word (by decide) rest
  have hapart : AreApart ("] " ++ Quantifier.text .all ++ " == true)")
      ("] " ++ Quantifier.text .any ++ " == true)") := by
    decide
  rw [List.append_assoc, quantified, hcondition _ hstops]
  cases quantifier with
  | all =>
      simp only [Option.bind_eq_bind, Option.bind_some, List.findSome?_cons,
        expect_append, Option.map_some]
  | any =>
      simp only [Option.bind_eq_bind, Option.bind_some, List.findSome?_cons,
        expect_of_areApart hapart, expect_append, Option.map_none,
        Option.map_some]

end Operations

/-! ### Nodes -/

section Nodes

variable {part : Reader Expr} {result : Node Expr}

/-- A node that does not start with a name is told by its first character. -/
theorem node_marked {character : Char} (hmark : isPathChar character = false)
    (characters : List Char) :
    node values part (character :: characters) =
      marked values part (character :: characters) := by
  simp only [node, List.takeWhile_cons, hmark, Bool.false_eq_true, if_false,
    List.isEmpty_nil, if_true]

theorem node_named {word : String} (hword : isPath word = true)
    {rest : List Char}
    (hrest : ∀ character ∈ rest.head?, isPathChar character = false) :
    node values part (word.toList ++ rest) = named values part word rest := by
  rw [isPath, Bool.and_eq_true, Bool.not_eq_true'] at hword
  simp only [node, takeWhile_word hword.2 hrest, dropWhile_word hword.2 hrest,
    hword.1, String.ofList_toList, Bool.false_eq_true, if_false]

theorem reads_reference {path : String} (hpath : isPath path = true) :
    Reads (node values part) path.toList (.reference path) := by
  intro rest hstops
  rw [node_named hpath (notPathChar_of_stops hstops)]
  unfold named
  split
  · exact absurd (hstops '(' rfl) (by decide)
  · rfl

theorem reads_part {expr : Expr} {text : List Char}
    (hreads : Reads part text expr) :
    Reads (argument values part) text (.part expr) := by
  intro rest hstops
  rw [argument, hreads rest hstops]

theorem reads_call {function : String} {texts : List (List Char)}
    {arguments : List Argument} (hfunction : isPath function = true)
    (hclosed : ∀ rest, part (")".toList ++ rest) = none)
    (hreads : List.Forall₂ (Reads (argument values part)) texts arguments)
    (hcall : callOf function arguments = some result) :
    Reads (node values part)
      ((function ++ "(").toList ++ (joined texts ++ ")".toList)) result := by
  intro rest _
  have htext :
      (function ++ "(").toList ++ (joined texts ++ ")".toList) ++ rest =
        function.toList ++ '(' :: (joined texts ++ (")".toList ++ rest)) := by
    simp only [String.toList_append, List.append_assoc]
    rfl
  have hbracket : ∀ character ∈
      ('(' :: (joined texts ++ (")".toList ++ rest))).head?,
      isPathChar character = false := by
    intro character hcharacter
    obtain rfl := Option.some.inj hcharacter
    decide
  have hclosed' (rest : List Char) :
      argument values part (")".toList ++ rest) = none := by
    rw [argument, hclosed]
    rfl
  have hclosing : ")" ∈ closings := List.mem_cons_self
  rw [htext, node_named hfunction hbracket, named,
    items_of_reads hclosing hclosed' hreads rest]
  simp only [Option.bind_eq_bind, Option.bind_some, hcall]
  rfl

theorem reads_array {texts : List (List Char)} {parts : List Expr}
    (hclosed : ∀ rest, part ("]".toList ++ rest) = none)
    (hreads : List.Forall₂ (Reads part) texts parts) :
    Reads (node values part) ("[".toList ++ (joined texts ++ "]".toList))
      (.array parts) := by
  intro rest _
  have hclosing : "]" ∈ closings := by decide
  rw [List.append_assoc, List.append_assoc]
  show node values part ('[' :: (joined texts ++ ("]".toList ++ rest))) = _
  rw [node_marked (by decide), marked,
    items_of_reads hclosing hclosed hreads rest]
  rfl

theorem reads_member {name : String} {text : List Char} {expr : Expr}
    (hreads : Reads part text expr) :
    Reads (member part)
      ((Quoted.quote name ++ ": ").toList ++ text) (name, expr) := by
  intro rest hstops
  have htext : (Quoted.quote name ++ ": ").toList ++ text ++ rest =
      '"' :: (Quoted.encode name.toList ++ '"' ::
        (": ".toList ++ (text ++ rest))) := by
    simp [Quoted.quote]
  rw [htext, member, Quoted.readBody_encode]
  simp only [Option.bind_eq_bind, Option.bind_some, expect_append,
    hreads rest hstops, String.ofList_toList]
  rfl

theorem reads_object {texts : List (List Char)} {members : Document Expr}
    (hreads : List.Forall₂ (Reads (member part)) texts members) :
    Reads (node values part) ("\x7b".toList ++ (joined texts ++ "\x7d".toList))
      (.object members) := by
  intro rest _
  have hclosing : "\x7d" ∈ closings := by decide
  have hclosed (rest : List Char) :
      member part ("\x7d".toList ++ rest) = none := rfl
  rw [List.append_assoc, List.append_assoc]
  show node values part ('\x7b' :: (joined texts ++ ("\x7d".toList ++ rest))) = _
  rw [node_marked (by decide), marked,
    items_of_reads hclosing hclosed hreads rest]
  rfl

theorem reads_unary {operator : UnaryOperator} {text : List Char}
    {operand : Expr} (hoperand : Reads part text operand) :
    Reads (node values part) (operator.text.toList ++ text)
      (.unary operator operand) := by
  intro rest hstops
  rw [List.append_assoc]
  have hread := hoperand rest hstops
  cases operator with
  | not =>
      show node values part ('!' :: (text ++ rest)) = _
      rw [node_marked (by decide), marked, hread]
      rfl
  | negate =>
      show node values part ('-' :: (text ++ rest)) = _
      rw [node_marked (by decide), marked, hread]
      rfl

theorem reads_operation {word closing : String}
    {reader : Reader (Node Expr)} {left right : List Char} {first : Expr}
    (hmember : (word, reader) ∈ alternatives values part first)
    (hfirst : Reads part left first)
    (hreader : ∀ rest,
      reader (right ++ closing.toList ++ rest) = some (result, rest)) :
    Reads (node values part)
      ("(".toList ++ (left ++ (word.toList ++ right) ++ closing.toList))
      result := by
  intro rest _
  have htext : "(".toList ++
      (left ++ (word.toList ++ right) ++ closing.toList) ++ rest =
        '(' :: (left ++ (word.toList ++ (right ++ closing.toList)) ++ rest) := by
    simp only [List.append_assoc]
    rfl
  rw [htext, node_marked (by decide), marked]
  exact bracketed_of_reads hmember hfirst hreader rest

theorem reads_placeholder {text : List Char}
    (hreads : Reads (placeholder values) text result) :
    Reads (node values part) ('@' :: text) result := by
  intro rest hstops
  rw [List.cons_append, node_marked (by decide), marked]
  exact hreads rest hstops

end Nodes

/-! ### Expressions -/

theorem read_closing {closing : String} (hclosing : closing ∈ closings)
    (depth : Nat) (rest : List Char) :
    Expr.read values depth (closing.toList ++ rest) = none := by
  cases depth with
  | zero => rfl
  | succ depth =>
      have hnone (character : Char) (hmark : isPathChar character = false)
          (hmarked : marked values (Expr.read values depth)
            (character :: rest) = none) :
          Expr.read values (depth + 1) (character :: rest) = none := by
        rw [Expr.read, node_marked hmark, hmarked]
        rfl
      simp only [closings, List.mem_cons, List.not_mem_nil, or_false]
        at hclosing
      rcases hclosing with rfl | rfl | rfl
      · exact hnone ')' (by decide) rfl
      · exact hnone ']' (by decide) rfl
      · exact hnone '\x7d' (by decide) rfl

/-- The placeholder of a pattern is no expression. -/
theorem read_pattern {stem : String} (hstem : stem ∈ patternStems)
    (number depth : Nat) {rest : List Char} (hstops : Stops rest) :
    Expr.read values depth ('@' :: (numbered stem number).toList ++ rest) =
      none := by
  cases depth with
  | zero => rfl
  | succ depth =>
      rw [Expr.read, List.cons_append, node_marked (by decide), marked,
        placeholder_pattern hstem number hstops]
      rfl

theorem reads_pattern {stem : String} {number : Nat} {content : String}
    (hstem : stem ∈ patternStems)
    (hvalue : values (numbered stem number) = some (.text content))
    (depth : Nat) :
    Reads (argument values (Expr.read values depth))
      ('@' :: (numbered stem number).toList) (.pattern content) := by
  intro rest hstops
  rw [argument, read_pattern hstem number depth hstops,
    pattern_numbered hstem hvalue rest hstops]
  rfl

theorem reads_of_node {depth : Nat} {text : List Char} {result : Node Expr}
    (hreads : Reads (node values (Expr.read values depth)) text result) :
    Reads (Expr.read values (depth + 1)) text (.of result) := by
  intro rest hstops
  rw [Expr.read, hreads rest hstops]
  rfl

/-- What is read whatever the parts are is read at any depth but none. -/
theorem reads_of_pos {depth : Nat} {text : List Char} {result : Node Expr}
    (hdepth : 0 < depth)
    (hreads : ∀ part, Reads (node values part) text result) :
    Reads (Expr.read values depth) text (.of result) := by
  obtain ⟨depth, rfl⟩ := Nat.exists_eq_succ_of_ne_zero (Nat.ne_of_gt hdepth)
  exact reads_of_node (hreads _)

end Reading

end ArangoQuery
