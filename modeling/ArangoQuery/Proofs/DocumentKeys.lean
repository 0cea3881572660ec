import ArangoQuery.Proofs.ClosedTexts
import ArangoQuery.Proofs.StartVertices

/-!
# Keys of documents

The keys of a document are quoted, so each of them is one literal that ends in its
place, whatever is in it.  A value is passed over up to the comma or the brace behind
it.  If nothing in the values breaks out of them by itself, the keys can be read from
the text alone (`Reading.keys_documentText`); in any case they can be read by who
knows the values (`Document.eq_of_documentText`).
-/

namespace ArangoQuery

open Nesting (Leads Scan)
open Template (Fills FillsEach fill fill_eq_ok_iff fills_append_iff
  fills_intercalate_iff fills_ofText_iff fills_text_iff)

/-! ## Readers -/

namespace Reading

/-- The key of a member, whose value is passed over. -/
def key : Reader String
  | '"' :: characters => do
      let (name, rest) ← Quoted.readBody characters
      let rest ← expect ": " rest
      return (String.ofList name, Scan.skip ⟨0, .code⟩ rest)
  | _ => none

/-- The keys of a document, in the order in which they are written. -/
def keys : Reader (List String)
  | '\x7b' :: characters => items key "\x7d" characters
  | _ => none

end Reading

/-! ## Documents of texts -/

/-- A key and the text of its value. -/
def memberText (member : String × String) : String :=
  Quoted.quote member.1 ++ ": " ++ member.2

/-- The text of a document from the texts of its values. -/
def documentText (document : Document String) : String :=
  "\x7b" ++ ", ".intercalate (List.map memberText document) ++ "\x7d"

theorem toList_documentText (document : Document String) :
    (documentText document).toList = '\x7b' ::
      (Reading.joined (List.map (fun member => (memberText member).toList)
        document) ++ "\x7d".toList) := by
  have hjoined (texts : List String) : (", ".intercalate texts).toList =
      Reading.joined (texts.map String.toList) := by
    induction texts with
    | nil => rfl
    | cons text texts htexts =>
        cases texts with
        | nil => simp [Reading.joined, Reading.tail]
        | cons next texts =>
            rw [String.intercalate_cons_cons, String.toList_append,
              String.toList_append, htexts]
            simp [Reading.joined, Reading.tail]
  rw [documentText, String.toList_append, String.toList_append, hjoined,
    List.map_map]
  rfl

/-- Filling the template of a document fills the templates of its values. -/
theorem exists_of_fills_document {members : Document Template} {text : String}
    {store last : BindingStore String}
    (hfills : Fills (Document.template members) store text last) :
    ∃ document : Document String,
      Document.names document = Document.names members ∧
        FillsEach (Document.parts members) store (Document.parts document) last ∧
        text = documentText document := by
  obtain ⟨rest, hrest, rfl⟩ := fills_text_iff.1 hfills
  obtain ⟨inner, closing, _, hinner, hclosing, rfl⟩ := fills_append_iff.1 hrest
  obtain ⟨rfl, rfl⟩ := fills_ofText_iff.1 hclosing
  obtain ⟨lines, hlines, rfl⟩ := fills_intercalate_iff.1 hinner
  obtain ⟨texts, htexts, rfl⟩ := hlines.exists_of_fronts
  have hlength : texts.length = (Document.names members).length := by
    rw [htexts.length_eq, Document.names, List.length_map, List.length_map]
  refine ⟨(Document.names members).zip texts, ?_, ?_, ?_⟩
  · exact List.map_fst_zip (Nat.le_of_eq hlength.symm)
  · have hparts : Document.parts ((Document.names members).zip texts) = texts :=
      List.map_snd_zip (Nat.le_of_eq hlength)
    rw [hparts]
    exact htexts
  · rw [documentText, List.map_zip_eq_zipWith, Document.names,
      List.zipWith_map_left, String.append_assoc]
    rfl

theorem Template.FillsEach.eq_of_fillsEach {templates : List Template}
    {left right : List String} {store leftLast rightLast : BindingStore String}
    (hleft : FillsEach templates store left leftLast)
    (hright : FillsEach templates store right rightLast) :
    left = right ∧ leftLast = rightLast := by
  induction hleft generalizing right with
  | nil store => cases hright; exact ⟨rfl, rfl⟩
  | cons first rest hrest =>
      cases hright with
      | cons second others =>
          have hfilled := (Template.fill_of_fills first).symm.trans
            (Template.fill_of_fills second)
          obtain ⟨rfl, rfl⟩ := Prod.mk.inj (Except.ok.inj hfilled)
          obtain ⟨rfl, rfl⟩ := hrest others
          exact ⟨rfl, rfl⟩

/-- The text of an object is the text of a document of texts, with the same keys. -/
theorem Expr.exists_of_fill_object {members : Document Expr} {text : String}
    {store last : BindingStore String}
    (hfill : fill (Expr.object members).template store = .ok (text, last)) :
    ∃ document : Document String,
      Document.names document = Document.names members ∧
        FillsEach ((Document.parts members).map Expr.template) store
          (Document.parts document) last ∧
        text = documentText document := by
  rw [fill_eq_ok_iff, template_object] at hfill
  obtain ⟨document, hnames, hparts, rfl⟩ := exists_of_fills_document hfill
  rw [Document.names_map] at hnames
  rw [Document.parts_map] at hparts
  exact ⟨document, hnames, hparts, rfl⟩

/-! ## Keys without the values -/

namespace Reading

theorem skip_end (texts : List (List Char)) (rest : List Char) :
    Scan.skip ⟨0, .code⟩ (tail texts ++ ("\x7d".toList ++ rest)) =
      tail texts ++ ("\x7d".toList ++ rest) := by
  cases texts <;> rfl

/-- A key is read and its value passed over, whatever the key is. -/
theorem readsItem_key {member : String × String} (hvalue : Leads 0 member.2 0) :
    ReadsItem "\x7d" key (memberText member).toList member.1 := by
  intro texts rest
  obtain ⟨name, value⟩ := member
  have htext : (memberText (name, value)).toList ++
      (tail texts ++ ("\x7d".toList ++ rest)) =
        '"' :: (Quoted.encode name.toList ++ '"' :: (": ".toList ++
          (value.toList ++ (tail texts ++ ("\x7d".toList ++ rest))))) := by
    simp [memberText, Quoted.quote]
  rw [htext, key, Quoted.readBody_encode]
  simp only [Option.bind_eq_bind, Option.bind_some, expect_append,
    Scan.skip_append hvalue, skip_end, String.ofList_toList]
  rfl

/-- The keys of a document are read from its text. -/
theorem keys_documentText {document : Document String}
    (hvalues : ∀ value ∈ Document.parts document, Leads 0 value 0)
    (rest : List Char) :
    keys ((documentText document).toList ++ rest) =
      some (Document.names document, rest) := by
  have hclosing : "\x7d" ∈ closings := by decide
  have hreads : List.Forall₂ (ReadsItem "\x7d" key)
      (List.map (fun member => (memberText member).toList) document)
      (Document.names document) := by
    rw [Document.names, List.forall₂_map_left_iff, List.forall₂_map_right_iff,
      List.forall₂_same]
    exact fun member hmember =>
      readsItem_key (hvalues member.2 (List.mem_map_of_mem hmember))
  rw [toList_documentText, List.cons_append, List.append_assoc, keys]
  exact items_of_readsItem hclosing (fun _ => rfl) hreads rest

end Reading

/-! ## Keys from the values -/

theorem memberText_append_inj {left right : String × String}
    {leftRest rightRest : List Char} (hvalue : left.2 = right.2)
    (htexts : (memberText left).toList ++ leftRest =
      (memberText right).toList ++ rightRest) :
    left = right ∧ leftRest = rightRest := by
  simp only [memberText, String.toList_append, List.append_assoc] at htexts
  obtain ⟨hname, hrest⟩ := Quoted.quote_append_inj htexts
  rw [hvalue] at hrest
  exact ⟨Prod.ext hname hvalue,
    List.append_cancel_left (List.append_cancel_left hrest)⟩

/-- Members of the same values in a list of a text do not differ. -/
theorem eq_of_tail_members {left right : Document String}
    (hvalues : Document.parts left = Document.parts right)
    (htexts : Reading.tail (List.map (fun member => (memberText member).toList)
        left) =
      Reading.tail (List.map (fun member => (memberText member).toList) right)) :
    left = right := by
  -- Behind a comma each, all members look alike; the first one, which has none in
  -- front of it, gets one in `Document.eq_of_documentText`.
  induction left generalizing right with
  | nil => exact (List.map_eq_nil_iff.1 hvalues.symm).symm
  | cons first left hleft =>
      obtain _ | ⟨second, right⟩ := right
      · cases hvalues
      obtain ⟨hvalue, hothers⟩ := List.cons.inj hvalues
      simp only [Reading.tail, List.map_cons, List.flatMap_cons,
        List.append_assoc] at htexts
      obtain ⟨rfl, hrest⟩ :=
        memberText_append_inj hvalue (List.append_cancel_left htexts)
      rw [hleft hothers hrest]

/-- Documents with the same values, if they are shown alike, have the same keys. -/
theorem Document.eq_of_documentText {left right : Document String}
    (hvalues : Document.parts left = Document.parts right)
    (htexts : documentText left = documentText right) : left = right := by
  have hcharacters := congrArg String.toList htexts
  rw [toList_documentText, toList_documentText] at hcharacters
  have hjoined := List.append_cancel_right (List.cons.inj hcharacters).2
  have htail (text : List Char) (texts : List (List Char)) :
      Reading.tail (text :: texts) =
        ", ".toList ++ Reading.joined (text :: texts) := by
    simp only [Reading.tail, Reading.joined, List.flatMap_cons,
      List.append_assoc]
  obtain _ | ⟨first, left⟩ := left
  · exact (List.map_eq_nil_iff.1 hvalues.symm).symm
  obtain _ | ⟨second, right⟩ := right
  · cases hvalues
  apply eq_of_tail_members hvalues
  rw [List.map_cons, List.map_cons] at hjoined ⊢
  rw [htail, htail, hjoined]

/-! ## Quoted names -/

/-- A start vertex that is quoted: it begins neither as a placeholder nor as a
literal, and there is a slash in it. -/
def IsHandle (vertex : String) : Prop :=
  vertex.toList.head? ≠ some '@' ∧ vertex.toList.head? ≠ some '"' ∧
    '/' ∈ vertex.toList

/-- The head of a loop over a graph names the graph by a literal that stands for it,
and its start vertex if this is a document handle. -/
def GraphSource.QuotesNames {ε : Type} (traversal : GraphSource ε) : Prop :=
  ∃ vertex graph,
    traversal.head = traversal.depthRange ++ " " ++ traversal.direction.text ++
      " " ++ vertex ++ " GRAPH " ++ graph ∧
    Quoted.Quotes graph traversal.graph ∧
    (IsHandle traversal.startVertex →
      Quoted.Quotes vertex traversal.startVertex) ∧
    (¬ IsHandle traversal.startVertex → vertex = traversal.startVertex)

theorem GraphSource.quotesNames {ε : Type} (traversal : GraphSource ε) :
    traversal.QuotesNames := by
  refine ⟨vertexText traversal.startVertex, Quoted.quote traversal.graph, rfl,
    Quoted.quotes_quote traversal.graph, ?_, ?_⟩
  · rintro ⟨hmark, hquote, hslash⟩
    rw [vertexText_of_handle hmark hquote hslash]
    exact Quoted.quotes_quote traversal.startVertex
  · intro hplain
    apply vertexText_of_plain
    simpa only [IsHandle, not_and_or, not_not] using hplain

namespace Expr

variable {left right members : Document Expr} {text : String}
variable {store leftLast rightLast last : BindingStore String}

/-- Objects that are shown alike and have the same values are the same, whatever
their values are. -/
theorem eq_of_fill_object (hvalues : Document.parts left = Document.parts right)
    (hleft : fill (object left).template store = .ok (text, leftLast))
    (hright : fill (object right).template store = .ok (text, rightLast)) :
    left = right := by
  obtain ⟨leftTexts, hleftNames, hleftParts, rfl⟩ := exists_of_fill_object hleft
  obtain ⟨rightTexts, hrightNames, hrightParts, htexts⟩ :=
    exists_of_fill_object hright
  -- The values are filled from one store, so their texts are the same.
  rw [hvalues] at hleftParts
  have hparts := (hleftParts.eq_of_fillsEach hrightParts).1
  obtain rfl := Document.eq_of_documentText hparts htexts
  calc
    left = (Document.names left).zip (Document.parts left) :=
      List.zip_of_prod rfl rfl
    _ = (Document.names right).zip (Document.parts right) := by
      rw [← hleftNames, hrightNames, hvalues]
    _ = right := (List.zip_of_prod rfl rfl).symm

theorem keys_of_fill_object
    (hclosed : ∀ part ∈ Document.parts members, part.isClosed = true)
    (hfill : fill (object members).template store = .ok (text, last))
    (rest : List Char) :
    Reading.keys (text.toList ++ rest) = some (Document.names members, rest) := by
  obtain ⟨document, hnames, hparts, rfl⟩ := exists_of_fill_object hfill
  rw [← hnames]
  refine Reading.keys_documentText (fun value hvalue => ?_) rest
  obtain ⟨template, htemplate, before, after, hfills⟩ :=
    hparts.exists_of_mem hvalue
  obtain ⟨part, hpart, rfl⟩ := List.mem_map.1 htemplate
  exact template_leads (hclosed part hpart) hfills

/-- Keys and names do not break out of their places.  A quoted text is one literal of
printable ASCII characters that stands for it, so different texts are quoted
differently; this is how the graph of a traversal is named, and its start vertex if
it is a document handle.  Objects with different keys and the same values differ in
their texts.  And whatever is in the keys of an object, they are read in order from
its text, if all texts are closed that are written into its values as they are
given. -/
theorem quoted_keys_kept :
    (∀ text, Quoted.Quotes (Quoted.quote text) text) ∧
    Function.Injective Quoted.quote ∧
    (∀ traversal : GraphSource Expr, traversal.QuotesNames) ∧
    (∀ {left right : Document Expr} {store leftLast rightLast text},
      Document.parts left = Document.parts right →
      fill (object left).template store = .ok (text, leftLast) →
      fill (object right).template store = .ok (text, rightLast) →
      left = right) ∧
    ∀ {members : Document Expr} {store text last},
      (∀ part ∈ Document.parts members, part.isClosed = true) →
      fill (object members).template store = .ok (text, last) →
      ∀ rest, Reading.keys (text.toList ++ rest) =
        some (Document.names members, rest) :=
  ⟨Quoted.quotes_quote, Quoted.quote_injective, GraphSource.quotesNames,
    eq_of_fill_object, keys_of_fill_object⟩

section Example

/-- A document with a key of choice and keys that need escapes. -/
def withKey (key : String) : Document Expr :=
  [(key, literal (.scalar (.int 1))), ("\\", reference "user.name"),
    ("\n😀", subquery
      { loop := some (.proper "v")
        source := some (.proper (.text "users"))
        result := some (reference "v") })]

theorem hostile_keys_kept :
    ∃ text last other otherLast,
      fill (object (withKey "a\": 1, \"b")).template {} = .ok (text, last) ∧
      fill (object (withKey "a")).template {} = .ok (other, otherLast) ∧
      Reading.keys text.toList = some (["a\": 1, \"b", "\\", "\n😀"], []) ∧
      text ≠ other := by
  obtain ⟨-, -, -, hdiffer, hkeys⟩ := quoted_keys_kept
  obtain ⟨text, last, hfill⟩ : ∃ text last,
      fill (object (withKey "a\": 1, \"b")).template {} = .ok (text, last) :=
    ⟨_, _, rfl⟩
  obtain ⟨other, otherLast, hother⟩ : ∃ text last,
      fill (object (withKey "a")).template {} = .ok (text, last) := ⟨_, _, rfl⟩
  have hclosed : ∀ part ∈ Document.parts (withKey "a\": 1, \"b"),
      part.isClosed = true := by
    decide
  have hread := hkeys hclosed hfill []
  rw [List.append_nil] at hread
  refine ⟨text, last, other, otherLast, hfill, hother, hread, ?_⟩
  rintro rfl
  have hvalues : Document.parts (withKey "a\": 1, \"b") =
      Document.parts (withKey "a") := rfl
  have hsame := congrArg Document.names (hdiffer hvalues hfill hother)
  exact absurd hsame (by decide)

/-- A reference is written as it is given, and may look like the rest of a
document. -/
theorem reference_hides_key :
    ¬ ∃ read : CompiledQuery → List String, ∀ members compiled,
      (object members).compile = .ok compiled →
        read compiled = Document.names members := by
  rintro ⟨read, hread⟩
  have hone : (object [("a", reference "x, \"b\": y")]).compile =
      .ok ⟨"\x7b\"a\": x, \"b\": y\x7d", []⟩ := rfl
  have htwo : (object [("a", reference "x"), ("b", reference "y")]).compile =
      .ok ⟨"\x7b\"a\": x, \"b\": y\x7d", []⟩ := rfl
  have hnames := (hread _ _ hone).symm.trans (hread _ _ htwo)
  exact absurd hnames (by decide)

end Example

end Expr

end ArangoQuery
