import ArangoQuery.Proofs.LineWords

/-!
# Brackets and quotations

A text is scanned from left to right for brackets and quotations.  Outside of both,
a comma or a closing bracket ends the scan: there the member of a document ends, and
nothing before it does (`Nesting.skip_append`).  What leads a scan from one depth to
another does so inside of further brackets as well (`Nesting.Leads.under`), and a
quoted text leads nowhere, whatever it stands for (`Nesting.leads_quote`).
-/

namespace ArangoQuery

namespace Nesting

/-! ## Scans -/

def quoteMarks : List Char := "\"'`".toList

def openings : List Char := "([\x7b".toList

def closings : List Char := ")]\x7d".toList

/-- The characters that may change a scan outside of quotations. -/
def marks : List Char :=
  quoteMarks ++ openings ++ closings ++ [',']

/-- Has a text none of these characters? -/
def isPlain (text : String) : Bool :=
  text.toList.all fun character => !marks.contains character

inductive Mode where
  | code
  /-- Between two quote marks of a kind. -/
  | quoted (mark : Char)
  /-- Behind a backslash in a quotation. -/
  | escaped (mark : Char)
  deriving DecidableEq, Repr

structure Scan where
  /-- How many brackets are open. -/
  depth : Nat
  mode : Mode := .code
  deriving DecidableEq, Repr

namespace Scan

/-- Goes on by one character, unless the scan ends in front of it. -/
def step (scan : Scan) (character : Char) : Option Scan :=
  match scan.mode with
  | .code =>
      if character ∈ quoteMarks then
        some { scan with mode := .quoted character }
      else if character ∈ openings then
        some { scan with depth := scan.depth + 1 }
      else if scan.depth = 0 then
        if character ∈ closings ∨ character = ',' then none else some scan
      else if character ∈ closings then
        some { scan with depth := scan.depth - 1 }
      else some scan
  | .quoted mark =>
      if character = '\\' then some { scan with mode := .escaped mark }
      else if character = mark then some { scan with mode := .code }
      else some scan
  | .escaped mark => some { scan with mode := .quoted mark }

def run (scan : Scan) (text : List Char) : Option Scan :=
  text.foldlM step scan

/-- What is left of a text where the scan ends. -/
def skip (scan : Scan) : List Char → List Char
  | [] => []
  | character :: rest =>
      match scan.step character with
      | some next => next.skip rest
      | none => character :: rest

/-- The same scan inside of further brackets. -/
def under (brackets : Nat) (scan : Scan) : Scan :=
  { scan with depth := brackets + scan.depth }

variable {scan next : Scan}

theorem run_append (scan : Scan) (left right : List Char) :
    scan.run (left ++ right) = (scan.run left).bind fun next => next.run right :=
  List.foldlM_append

theorem run_cons (scan : Scan) (character : Char) (rest : List Char) :
    scan.run (character :: rest) =
      (scan.step character).bind fun next => next.run rest :=
  List.foldlM_cons

theorem step_under {character : Char} (hstep : scan.step character = some next)
    (brackets : Nat) :
    (scan.under brackets).step character = some (next.under brackets) := by
  obtain ⟨depth, mode⟩ := scan
  -- A scan that goes on has not closed more than was open, so more brackets around
  -- it change nothing.
  cases mode with
  | code =>
      simp only [step, under] at hstep ⊢
      grind
  | quoted mark =>
      simp only [step, under] at hstep ⊢
      grind
  | escaped mark =>
      obtain rfl := Option.some.inj hstep
      rfl

theorem run_under {text : List Char} (hrun : scan.run text = some next)
    (brackets : Nat) :
    (scan.under brackets).run text = some (next.under brackets) := by
  induction text generalizing scan with
  | nil =>
      obtain rfl := Option.some.inj hrun
      rfl
  | cons character rest hrest =>
      rw [run_cons, Option.bind_eq_some_iff] at hrun
      obtain ⟨second, hstep, hrun⟩ := hrun
      rw [run_cons, step_under hstep, Option.bind_some, hrest hrun]

/-- Texts that leave a scan as it is do so one after the other. -/
theorem run_flatMap {ι : Type} {textOf : ι → List Char} {items : List ι}
    (hitems : ∀ item ∈ items, scan.run (textOf item) = some scan) :
    scan.run (items.flatMap textOf) = some scan := by
  induction items with
  | nil => rfl
  | cons item items hrest =>
      obtain ⟨hitem, htail⟩ := List.forall_mem_cons.1 hitems
      rw [List.flatMap_cons, run_append, hitem, Option.bind_some, hrest htail]

/-- A scan that comes to the end of a text goes on behind it. -/
theorem skip_append {text : List Char} (hrun : scan.run text = some next)
    (rest : List Char) : scan.skip (text ++ rest) = next.skip rest := by
  induction text generalizing scan with
  | nil =>
      obtain rfl := Option.some.inj hrun
      rfl
  | cons character text htext =>
      rw [run_cons, Option.bind_eq_some_iff] at hrun
      obtain ⟨second, hstep, hrun⟩ := hrun
      rw [List.cons_append, skip, hstep]
      exact htext hrun

end Scan

/-! ## What leads from one depth to another -/

/-- Scanning a text leads from one depth to another. -/
def Leads (first : Nat) (text : String) (last : Nat) : Prop :=
  Scan.run ⟨first, .code⟩ text.toList = some ⟨last, .code⟩

instance (first : Nat) (text : String) (last : Nat) :
    Decidable (Leads first text last) :=
  inferInstanceAs (Decidable (_ = _))

variable {first second last depth : Nat} {left right text : String}

theorem leads_empty (depth : Nat) : Leads depth "" depth :=
  rfl

theorem Leads.append (hleft : Leads first left second)
    (hright : Leads second right last) : Leads first (left ++ right) last := by
  rw [Leads, String.toList_append, Scan.run_append, hleft]
  exact hright

theorem Leads.under (hleads : Leads first text last) (brackets : Nat) :
    Leads (brackets + first) text (brackets + last) :=
  Scan.run_under hleads brackets

theorem Leads.intercalate {separator : String} {texts : List String}
    (hseparator : Leads depth separator depth)
    (htexts : ∀ text ∈ texts, Leads depth text depth) :
    Leads depth (separator.intercalate texts) depth := by
  induction texts with
  | nil => exact leads_empty depth
  | cons text texts hrest =>
      obtain ⟨htext, htail⟩ := List.forall_mem_cons.1 htexts
      cases texts with
      | nil =>
          rw [String.intercalate_singleton]
          exact htext
      | cons next texts =>
          rw [String.intercalate_cons_cons]
          exact (htext.append hseparator).append (hrest htail)

theorem step_of_not_mem_marks {character : Char} (hmark : character ∉ marks)
    (depth : Nat) :
    Scan.step ⟨depth, .code⟩ character = some ⟨depth, .code⟩ := by
  simp only [marks, List.mem_append, List.mem_singleton, not_or] at hmark
  obtain ⟨⟨⟨hquote, hopening⟩, hclosing⟩, hcomma⟩ := hmark
  simp [Scan.step, hquote, hopening, hclosing, hcomma]

theorem isPlain_iff :
    isPlain text = true ↔ ∀ character ∈ text.toList, character ∉ marks := by
  simp [isPlain]

/-- A text without brackets, quote marks and commas leads nowhere. -/
theorem leads_of_isPlain (hplain : isPlain text = true) (depth : Nat) :
    Leads depth text depth := by
  rw [isPlain_iff] at hplain
  rw [Leads]
  generalize text.toList = characters at hplain ⊢
  induction characters with
  | nil => rfl
  | cons character rest hrest =>
      obtain ⟨hcharacter, htail⟩ := List.forall_mem_cons.1 hplain
      rw [Scan.run_cons, step_of_not_mem_marks hcharacter, Option.bind_some]
      exact hrest htail

/-! ### Numbers and names -/

theorem not_mem_marks_of_isNameChar {character : Char}
    (hname : isNameChar character = true) : character ∉ marks := by
  have hmarks : marks.all (!isNameChar ·) = true := by decide
  intro hmark
  have hnone := List.all_eq_true.1 hmarks character hmark
  rw [hname] at hnone
  cases hnone

/-- Names are plain, and so are numbers. -/
theorem isPlain_of_isNameChar (hname : text.toList.all isNameChar = true) :
    isPlain text = true := by
  rw [List.all_eq_true] at hname
  exact isPlain_iff.2 fun character hcharacter =>
    not_mem_marks_of_isNameChar (hname character hcharacter)

theorem leads_toString_nat (number depth : Nat) :
    Leads depth (toString number) depth := by
  refine leads_of_isPlain (isPlain_of_isNameChar ?_) depth
  have hdigits := List.all_eq_true.1 (isDigit_toString number)
  rw [List.all_eq_true]
  intro character hcharacter
  simp [isNameChar, Char.isAlphanum, hdigits character hcharacter]

theorem leads_toString_int (number : Int) (depth : Nat) :
    Leads depth (toString number) depth := by
  cases number with
  | ofNat number => exact leads_toString_nat number depth
  | negSucc number =>
      have hsign : Leads depth "-" depth := leads_of_isPlain rfl depth
      exact hsign.append (leads_toString_nat (number + 1) depth)

/-! ### Quoted texts -/

/-- Inside a quotation of its kind. -/
def within (depth : Nat) : Scan :=
  ⟨depth, .quoted '"'⟩

theorem step_within {character : Char} (hquote : character ≠ '"')
    (hbackslash : character ≠ '\\') (depth : Nat) :
    (within depth).step character = some (within depth) := by
  simp [within, Scan.step, hquote, hbackslash]

theorem run_escape (character : Char) (rest : List Char) (depth : Nat) :
    (within depth).run ('\\' :: character :: rest) =
      (within depth).run rest :=
  rfl

theorem hexDigit_ne (value : Nat) (hvalue : value < 16) :
    Quoted.hexDigit value ≠ '"' ∧ Quoted.hexDigit value ≠ '\\' := by
  have hall : ∀ digit : Fin 16, Quoted.hexDigit digit.val ≠ '"' ∧
      Quoted.hexDigit digit.val ≠ '\\' := by
    decide
  exact hall ⟨value, hvalue⟩

theorem run_unitEscape (unit depth : Nat) :
    (within depth).run (Quoted.unitEscape unit) = some (within depth) := by
  have hdigit (value : Nat) :
      (within depth).step (Quoted.hexDigit (value % 16)) =
        some (within depth) := by
    obtain ⟨hquote, hbackslash⟩ :=
      hexDigit_ne (value % 16) (Nat.mod_lt _ (by decide))
    exact step_within hquote hbackslash depth
  rw [Quoted.unitEscape, run_escape]
  simp only [Scan.run_cons, hdigit, Option.bind_some]
  rfl

/-- No written character leaves its quotation. -/
theorem run_encodeChar (character : Char) (depth : Nat) :
    (within depth).run (Quoted.encodeChar character) = some (within depth) := by
  unfold Quoted.encodeChar
  split
  · rfl
  split
  · rfl
  split
  · rfl
  split
  · rfl
  split
  · rfl
  split
  · rfl
  split
  · rfl
  split
  · next hquote hbackslash _ _ _ _ _ _ =>
    rw [Scan.run_cons, step_within hquote hbackslash]
    rfl
  · exact Scan.run_flatMap fun unit _ => run_unitEscape unit depth

/-- A quoted text ends where it was opened, whatever it stands for. -/
theorem leads_quote (text : String) (depth : Nat) :
    Leads depth (Quoted.quote text) depth := by
  have hbody : (within depth).run (Quoted.encode text.toList) =
      some (within depth) :=
    Scan.run_flatMap fun character _ => run_encodeChar character depth
  have hopen : Scan.step ⟨depth, .code⟩ '"' = some (within depth) := rfl
  have hclose : (within depth).step '"' = some ⟨depth, .code⟩ := rfl
  rw [Leads, Quoted.quote, String.toList_ofList, List.cons_append,
    Scan.run_cons, hopen, Option.bind_some, Scan.run_append, hbody,
    Option.bind_some, Scan.run_cons, hclose]
  rfl

end Nesting

/-! ## Templates -/

namespace Template

/-- However a template is filled, its text leads from one depth to another. -/
def Leads (first : Nat) (template : Template) (last : Nat) : Prop :=
  ∀ ⦃store : BindingStore String⦄ ⦃text : String⦄ ⦃next : BindingStore String⦄,
    Fills template store text next → Nesting.Leads first text last

namespace Leads

variable {first second last depth : Nat} {left right inner : Template}

theorem nil (depth : Nat) : Template.Leads depth [] depth := by
  rintro store text next ⟨⟩
  exact Nesting.leads_empty depth

theorem text_cons {content : String}
    (hcontent : Nesting.Leads first content second)
    (hright : Template.Leads second right last) :
    Template.Leads first (.text content :: right) last := by
  intro store text next hfills
  obtain ⟨rest, hrest, rfl⟩ := fills_text_iff.1 hfills
  exact hcontent.append (hright hrest)

theorem ofText {content : String}
    (hcontent : Nesting.Leads first content last) :
    Template.Leads first (ofText content) last :=
  text_cons hcontent (nil last)

theorem append (hleft : Template.Leads first left second)
    (hright : Template.Leads second right last) :
    Template.Leads first (left ++ right) last := by
  intro store text next hfills
  obtain ⟨front, back, between, hfront, hback, rfl⟩ :=
    fills_append_iff.1 hfills
  exact (hleft hfront).append (hright hback)

theorem under (hleads : Template.Leads first inner last) (brackets : Nat) :
    Template.Leads (brackets + first) inner (brackets + last) :=
  fun _ _ _ hfills => (hleads hfills).under brackets

theorem hole {stem : String}
    (hstem : Nesting.isPlain stem = true)
    (value : Value) (depth : Nat) :
    Template.Leads depth [.hole stem value] depth := by
  intro store text next hfills
  cases hfills with
  | hole _ _ run =>
      cases run
      have hat : Nesting.Leads depth "@" depth :=
        Nesting.leads_of_isPlain rfl depth
      have hname : Nesting.Leads depth (store.bind stem value).1 depth := by
        rw [BindingStore.bind_eq]
        exact (Nesting.leads_of_isPlain hstem depth).append
          (Nesting.leads_toString_nat _ depth)
      rw [String.append_empty]
      exact hat.append hname

theorem halt (error : Error) (first last : Nat) :
    Template.Leads first [.halt error] last := by
  rintro store text next ⟨⟩

theorem adopt_cons {bindings : List (String × Value)}
    (hright : Template.Leads first right last) :
    Template.Leads first (.adopt bindings :: right) last := by
  intro store text next hfills
  cases hfills with
  | adopt merge run => exact hright run

theorem enclose {opening closing : String} (second : Nat)
    (hopening : Nesting.Leads first opening second)
    (hinner : Template.Leads second inner second)
    (hclosing : Nesting.Leads second closing last) :
    Template.Leads first (enclose opening inner closing) last :=
  (hinner.text_cons hopening).append (ofText hclosing)

theorem intercalate {separator : String}
    (hseparator : Nesting.Leads depth separator depth)
    {templates : List Template}
    (htemplates : ∀ template ∈ templates, Template.Leads depth template depth) :
    Template.Leads depth (intercalate separator templates) depth := by
  induction templates with
  | nil => exact nil depth
  | cons template rest hrest =>
      obtain ⟨htemplate, htail⟩ := List.forall_mem_cons.1 htemplates
      cases rest with
      | nil => exact htemplate
      | cons next rest =>
          exact htemplate.append ((hrest htail).text_cons hseparator)

end Leads

end Template

end ArangoQuery
