/-!
# Quoted text

Object keys, graph names and document handles stand in the query text between
double quotes.  The written form is a JSON string of printable ASCII characters
only: a quote or a backslash is preceded by a backslash, five control characters
have a letter of their own, and every other character outside the range from
space to tilde is written as one or two `\uXXXX` units.  `readBody` reads such a
string back; `readBody_encode` says that reading undoes writing.
-/

namespace ArangoQuery.Quoted

/-- The lower-case hexadecimal digit of a number below sixteen. -/
def hexDigit (value : Nat) : Char :=
  if value < 10 then Char.ofNat (48 + value) else Char.ofNat (87 + value)

def hexValue? (digit : Char) : Option Nat :=
  let code := digit.toNat
  if 48 ≤ code ∧ code ≤ 57 then some (code - 48)
  else if 97 ≤ code ∧ code ≤ 102 then some (code - 87)
  else if 65 ≤ code ∧ code ≤ 70 then some (code - 55)
  else none

/-- One sixteen-bit unit as a backslash, `u` and four hexadecimal digits. -/
def unitEscape (unit : Nat) : List Char :=
  ['\\', 'u', hexDigit (unit / 4096 % 16), hexDigit (unit / 256 % 16),
    hexDigit (unit / 16 % 16), hexDigit (unit % 16)]

/-- The units of a code point: itself, or a surrogate pair beyond `0xFFFF`. -/
def units (code : Nat) : List Nat :=
  if code < 65536 then [code]
  else [55296 + (code - 65536) / 1024, 56320 + (code - 65536) % 1024]

def isPlain (character : Char) : Bool :=
  decide (32 ≤ character.toNat) && decide (character.toNat ≤ 126) &&
    character != '"' && character != '\\'

/-- The written form of one character. -/
def encodeChar (character : Char) : List Char :=
  if character = '"' then ['\\', '"']
  else if character = '\\' then ['\\', '\\']
  else if character = '\n' then ['\\', 'n']
  else if character = '\r' then ['\\', 'r']
  else if character = '\t' then ['\\', 't']
  else if character.toNat = 8 then ['\\', 'b']
  else if character.toNat = 12 then ['\\', 'f']
  else if isPlain character then [character]
  else (units character.toNat).flatMap unitEscape

def encode (characters : List Char) : List Char :=
  characters.flatMap encodeChar

/-- The quoted form of a text. -/
def quote (text : String) : String :=
  String.ofList ('"' :: encode text.toList ++ ['"'])

def fourDigits? (first second third fourth : Char) : Option Nat := do
  let a ← hexValue? first
  let b ← hexValue? second
  let c ← hexValue? third
  let d ← hexValue? fourth
  return a * 4096 + b * 256 + c * 16 + d

def isHighSurrogate (unit : Nat) : Bool :=
  decide (55296 ≤ unit) && decide (unit ≤ 56319)

def isLowSurrogate (unit : Nat) : Bool :=
  decide (56320 ≤ unit) && decide (unit ≤ 57343)

/-- The character that one letter after a backslash stands for. -/
def letterEscape? (letter : Char) : Option Char :=
  match letter with
  | '"' => some '"'
  | '\\' => some '\\'
  | '/' => some '/'
  | 'b' => some (Char.ofNat 8)
  | 'f' => some (Char.ofNat 12)
  | 'n' => some '\n'
  | 'r' => some '\r'
  | 't' => some '\t'
  | _ => none

/-- Reads what follows an opening quote up to the closing one, and returns the
text read and the characters after the closing quote.  Raw control characters,
unknown escapes and unpaired surrogates are refused. -/
def readBody : List Char → Option (List Char × List Char)
  | [] => none
  | '"' :: rest => some ([], rest)
  | '\\' :: 'u' :: a :: b :: c :: d :: rest =>
      match fourDigits? a b c d with
      | none => none
      | some unit =>
          if isHighSurrogate unit then
            match rest with
            | '\\' :: 'u' :: e :: f :: g :: h :: rest' =>
                match fourDigits? e f g h with
                | none => none
                | some low =>
                    if isLowSurrogate low then
                      let code :=
                        65536 + (unit - 55296) * 1024 + (low - 56320)
                      (readBody rest').map fun (text, left) =>
                        (Char.ofNat code :: text, left)
                    else none
            | _ => none
          else if isLowSurrogate unit then none
          else (readBody rest).map fun (text, left) =>
            (Char.ofNat unit :: text, left)
  | '\\' :: letter :: rest =>
      match letterEscape? letter with
      | none => none
      | some character =>
          (readBody rest).map fun (text, left) => (character :: text, left)
  | character :: rest =>
      if character.toNat < 32 ∨ character = '\\' then none
      else (readBody rest).map fun (text, left) => (character :: text, left)

theorem hexValue?_hexDigit (value : Nat) (hvalue : value < 16) :
    hexValue? (hexDigit value) = some value := by
  have hall : ∀ digit : Fin 16, hexValue? (hexDigit digit.val) = some digit.val := by
    decide
  exact hall ⟨value, hvalue⟩

/-- Four digits of a unit read back as the unit. -/
theorem fourDigits?_unit (unit : Nat) (hunit : unit < 65536) :
    fourDigits? (hexDigit (unit / 4096 % 16)) (hexDigit (unit / 256 % 16))
      (hexDigit (unit / 16 % 16)) (hexDigit (unit % 16)) = some unit := by
  have hdigit (value : Nat) : hexValue? (hexDigit (value % 16)) = some (value % 16) :=
    hexValue?_hexDigit _ (Nat.mod_lt _ (by decide))
  simp only [fourDigits?, hdigit, bind, Option.bind, pure]
  congr 1
  omega

theorem readBody_unitEscape (unit : Nat) (rest : List Char)
    (hunit : unit < 65536) (hhigh : isHighSurrogate unit = false)
    (hlow : isLowSurrogate unit = false) :
    readBody (unitEscape unit ++ rest) =
      (readBody rest).map fun (text, left) => (Char.ofNat unit :: text, left) := by
  simp [unitEscape, readBody, fourDigits?_unit unit hunit, hhigh, hlow]

theorem readBody_pairEscape (high low : Nat) (rest : List Char)
    (hhigh : isHighSurrogate high = true) (hlow : isLowSurrogate low = true) :
    readBody (unitEscape high ++ (unitEscape low ++ rest)) =
      (readBody rest).map fun (text, left) =>
        (Char.ofNat (65536 + (high - 55296) * 1024 + (low - 56320)) :: text,
          left) := by
  have hhigh' : high < 65536 := by
    simp only [isHighSurrogate, Bool.and_eq_true, decide_eq_true_eq] at hhigh
    omega
  have hlow' : low < 65536 := by
    simp only [isLowSurrogate, Bool.and_eq_true, decide_eq_true_eq] at hlow
    omega
  simp [unitEscape, readBody, fourDigits?_unit, hhigh', hlow', hhigh, hlow]

/-- One written character is read back and the rest is read on. -/
theorem readBody_encodeChar (character : Char) (rest : List Char) :
    readBody (encodeChar character ++ rest) =
      (readBody rest).map fun (text, left) => (character :: text, left) := by
  have hvalid : character.toNat < 55296 ∨
      57343 < character.toNat ∧ character.toNat < 1114112 := character.valid
  unfold encodeChar
  split
  · next h => subst h; simp [readBody, letterEscape?]
  split
  · next h => subst h; simp [readBody, letterEscape?]
  split
  · next h => subst h; simp [readBody, letterEscape?]
  split
  · next h => subst h; simp [readBody, letterEscape?]
  split
  · next h => subst h; simp [readBody, letterEscape?]
  split
  · next h =>
    have : character = Char.ofNat 8 := by rw [← h, Char.ofNat_toNat]
    subst this; simp [readBody, letterEscape?]
  split
  · next h =>
    have : character = Char.ofNat 12 := by rw [← h, Char.ofNat_toNat]
    subst this; simp [readBody, letterEscape?]
  split
  · next _ hback _ _ _ _ _ hplain =>
    have hspace : ¬ character.toNat < 32 := by
      simp only [isPlain, Bool.and_eq_true, decide_eq_true_eq] at hplain
      omega
    simp [readBody, hback, hspace]
  · by_cases hsmall : character.toNat < 65536
    · have hhigh : isHighSurrogate character.toNat = false := by
        simp only [isHighSurrogate, Bool.and_eq_false_iff, decide_eq_false_iff_not]
        omega
      have hlow : isLowSurrogate character.toNat = false := by
        simp only [isLowSurrogate, Bool.and_eq_false_iff, decide_eq_false_iff_not]
        omega
      have := readBody_unitEscape character.toNat rest hsmall hhigh hlow
      simpa [units, hsmall, Char.ofNat_toNat] using this
    · have hhigh :
          isHighSurrogate (55296 + (character.toNat - 65536) / 1024) = true := by
        simp only [isHighSurrogate, Bool.and_eq_true, decide_eq_true_eq]
        omega
      have hlow :
          isLowSurrogate (56320 + (character.toNat - 65536) % 1024) = true := by
        simp only [isLowSurrogate, Bool.and_eq_true, decide_eq_true_eq]
        omega
      have hcode : 65536 + (55296 + (character.toNat - 65536) / 1024 - 55296) * 1024 +
          (56320 + (character.toNat - 65536) % 1024 - 56320) = character.toNat := by
        omega
      have := readBody_pairEscape _ _ rest hhigh hlow
      rw [hcode, Char.ofNat_toNat] at this
      simpa [units, hsmall] using this

/-- Reading undoes writing. -/
theorem readBody_encode (characters rest : List Char) :
    readBody (encode characters ++ '"' :: rest) = some (characters, rest) := by
  induction characters with
  | nil => simp [encode, readBody]
  | cons character characters hrest =>
      have hcons : encode (character :: characters) =
          encodeChar character ++ encode characters := by
        simp [encode]
      rw [hcons, List.append_assoc, readBody_encodeChar, hrest]
      rfl

end ArangoQuery.Quoted
