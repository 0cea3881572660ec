import ArangoQuery.Proofs.Reading
import ArangoQuery.Proofs.WrittenLines

/-!
# How the lines of clauses begin

Every line of a clause begins with a keyword, and which keywords these are depends
on the kind of the clause alone (`Record.opens_of_mem_linesOf`).  So a keyword
tells the lines of some kinds from those of all others, in the text of a compiled
query as well, whatever the expressions in it look like
(`Query.Writes.map_beginsWith`).
-/

namespace ArangoQuery

open Reading (AreApart)
open Template (Fills FillsEach fillsEach_append_iff)

def beginsWith (mark line : String) : Bool :=
  mark.toList.isPrefixOf line.toList

/-- A word that begins with a mark, or one that neither begins the other. -/
def Settles (mark word : String) : Prop :=
  mark.toList <+: word.toList ∨ AreApart mark word

instance (mark word : String) : Decidable (Settles mark word) :=
  inferInstanceAs (Decidable (_ ∨ _))

/-- What comes after a word does not matter once the word settles it. -/
theorem beginsWith_append {mark word : String} (hmark : Settles mark word)
    (rest : String) :
    beginsWith mark (word ++ rest) = beginsWith mark word := by
  have hword : word.toList <+: (word ++ rest).toList :=
    ⟨rest.toList, String.toList_append.symm⟩
  obtain hbegins | hapart := hmark
  · rw [beginsWith, beginsWith, List.isPrefixOf_iff_prefix.2 hbegins,
      List.isPrefixOf_iff_prefix.2 (hbegins.trans hword)]
  · have hnot : ¬ mark.toList <+: (word ++ rest).toList := by
      intro hboth
      obtain hmark | hmark := List.prefix_or_prefix_of_prefix hboth hword
      · exact hapart.1 hmark
      · exact hapart.2 hmark
    rw [beginsWith, beginsWith,
      Bool.eq_false_iff.2 (mt List.isPrefixOf_iff_prefix.1 hnot),
      Bool.eq_false_iff.2 (mt List.isPrefixOf_iff_prefix.1 hapart.1)]

namespace Template

variable {store last : BindingStore String} {text : String}

theorem fills_text_iff {content : String} {pieces : Template} :
    Fills (.text content :: pieces) store text last ↔
      ∃ rest, Fills pieces store rest last ∧ text = content ++ rest := by
  constructor
  · intro hfills
    cases hfills with
    | text _ run => exact ⟨_, run, rfl⟩
  · rintro ⟨rest, hrest, rfl⟩
    exact .text content hrest

theorem fills_ofText_iff {content : String} :
    Fills (ofText content) store text last ↔ text = content ∧ last = store := by
  rw [ofText, fills_text_iff]
  constructor
  · rintro ⟨rest, ⟨⟩, rfl⟩
    exact ⟨String.append_empty, rfl⟩
  · rintro ⟨rfl, rfl⟩
    exact ⟨"", .nil _, String.append_empty.symm⟩

theorem exists_of_fills_text {content : String} {pieces : Template}
    (hfills : Fills (.text content :: pieces) store text last) :
    ∃ rest, text = content ++ rest := by
  obtain ⟨rest, -, rfl⟩ := fills_text_iff.1 hfills
  exact ⟨rest, rfl⟩

/-- Templates that begin with texts of their own are filled behind these. -/
theorem FillsEach.exists_of_fronts {ι : Type} {items : List ι}
    {front : ι → String} {rest : ι → Template} {texts : List String}
    (hfills : FillsEach (items.map fun item => .text (front item) :: rest item)
      store texts last) :
    ∃ rests, FillsEach (items.map rest) store rests last ∧
      texts = List.zipWith (fun item text => front item ++ text) items rests := by
  induction items generalizing store texts with
  | nil =>
      cases hfills
      exact ⟨[], .nil _, rfl⟩
  | cons item items hitems =>
      obtain _ | ⟨hfirst, hothers⟩ := hfills
      obtain ⟨text, htext, rfl⟩ := fills_text_iff.1 hfirst
      obtain ⟨rests, hrests, rfl⟩ := hitems hothers
      exact ⟨text :: rests, .cons htext hrests, rfl⟩

theorem FillsEach.exists_of_mem {templates : List Template}
    {texts : List String} (hfills : FillsEach templates store texts last)
    (htext : text ∈ texts) :
    ∃ template ∈ templates, ∃ before after,
      Fills template before text after := by
  induction hfills with
  | nil store => cases htext
  | cons first rest hrest =>
      cases htext with
      | head => exact ⟨_, List.mem_cons_self, _, _, first⟩
      | tail _ htext =>
          obtain ⟨template, hmem, hfills⟩ := hrest htext
          exact ⟨template, List.mem_cons_of_mem _ hmem, hfills⟩

/-- Every family of templates is filled somewhere on the way. -/
theorem FillsEach.of_family {κ : Type} {kinds : List κ}
    {linesOf : κ → List Template} {textsOf : κ → List String}
    (hlengths : ∀ kind, (textsOf kind).length = (linesOf kind).length)
    (hfills : FillsEach (kinds.flatMap linesOf) store (kinds.flatMap textsOf)
      last) {kind : κ} (hkind : kind ∈ kinds) :
    ∃ before after, FillsEach (linesOf kind) before (textsOf kind) after := by
  induction kinds generalizing store with
  | nil => cases hkind
  | cons first kinds hkinds =>
      rw [List.flatMap_cons, fillsEach_append_iff] at hfills
      obtain ⟨front, back, next, hfront, hback, htexts⟩ := hfills
      obtain ⟨rfl, rfl⟩ := List.append_inj htexts
        ((hlengths first).trans hfront.length_eq.symm)
      cases hkind with
      | head => exact ⟨store, next, hfront⟩
      | tail _ hkind => exact hkinds hback hkind

/-- Does the first piece of a template begin with a mark? -/
def beginsWith (mark : String) : Template → Bool
  | .text content :: _ => ArangoQuery.beginsWith mark content
  | _ => false

/-- A template that begins with one of some words, if it can be filled at all. -/
inductive Opens (words : List String) : Template → Prop
  | word {word : String} (hword : word ∈ words) (rest : String)
      (pieces : Template) : Opens words (.text (word ++ rest) :: pieces)
  | halt (error : Error) (pieces : Template) :
      Opens words (.halt error :: pieces)

theorem opens_word {words : List String} {word : String} (hword : word ∈ words)
    (pieces : Template) : Opens words (.text word :: pieces) := by
  simpa using Opens.word hword "" pieces

/-- How a line begins is decided by its first word. -/
theorem Opens.beginsWith_eq {words : List String} {template : Template}
    (hopens : Opens words template) {mark : String}
    (hmark : ∀ word ∈ words, Settles mark word)
    (hfills : Fills template store text last) :
    ArangoQuery.beginsWith mark text = template.beginsWith mark := by
  cases hopens with
  | halt error pieces => cases hfills
  | word hword rest pieces =>
      obtain ⟨after, rfl⟩ := exists_of_fills_text hfills
      rw [String.append_assoc, beginsWith_append (hmark _ hword),
        Template.beginsWith, beginsWith_append (hmark _ hword)]

theorem Opens.exists_of_fills {words : List String} {template : Template}
    (hopens : Opens words template) (hfills : Fills template store text last) :
    ∃ word ∈ words, ∃ rest, text = word ++ rest := by
  cases hopens with
  | halt error pieces => cases hfills
  | word hword rest pieces =>
      obtain ⟨after, rfl⟩ := exists_of_fills_text hfills
      exact ⟨_, hword, rest ++ after, String.append_assoc ..⟩

end Template

open Template (Opens opens_word)

/-! ## The first words of each kind -/

/-- The words that the lines of a kind begin with. -/
def ClauseKind.words : ClauseKind → List String
  | .collections => ["WITH "]
  | .loop | .nestedLoop => ["FOR "]
  | .earlyLet | .lateLet => ["LET "]
  | .search => ["SEARCH "]
  | .earlyFilter | .lateFilter => ["FILTER "]
  | .grouping => ["COLLECT", "  AGGREGATE ", "  INTO ", "  KEEP "]
  | .traversal => ["TRAVERSE "]
  | .prune => ["PRUNE "]
  | .order => ["SORT "]
  | .window => ["WINDOW \x7b ", "  AGGREGATE "]
  | .page => ["LIMIT "]
  | .operation => ["INSERT ", "REPLACE ", "REMOVE ", "UPDATE "]
  | .upsert => ["UPSERT ", "INSERT ", "UPDATE ", "IN "]
  | .update => ["UPDATE ", "WITH ", "IN ", "RETURN "]
  | .result => ["RETURN "]

theorem loopLine_opens (loop : String) (source : Slot (Source Template)) :
    Opens ["FOR "] (loopLine loop source) := by
  rw [loopLine, String.append_assoc]
  exact .word List.mem_cons_self _ _

theorem Join.opens_of_mem_lines {join : Join Template} {template : Template}
    (hline : template ∈ join.lines) : Opens ["FOR "] template := by
  unfold Join.lines at hline
  split at hline
  · split at hline
    · rw [List.mem_singleton.1 hline]
      exact loopLine_opens ..
    · cases hline
  · cases hline

theorem Search.opens_of_mem_lines {search : Search Template}
    {template : Template} (hline : template ∈ search.lines) :
    Opens ["SEARCH "] template := by
  unfold Search.lines at hline
  split at hline
  · cases hline
  · rw [List.mem_singleton.1 hline]
    exact opens_word List.mem_cons_self _

theorem Collect.opens_of_mem_lines {collect : Collect Template}
    {template : Template} (hline : template ∈ collect.lines) :
    Opens ClauseKind.grouping.words template := by
  simp only [Collect.lines, List.mem_append, List.mem_singleton] at hline
  obtain (rfl | hline) | hline := hline
  · split
    · exact opens_word (by decide) _
    · exact .word List.mem_cons_self " " _
  · split at hline
    · cases hline
    · rw [List.mem_singleton.1 hline]
      exact opens_word (by decide) _
  · split at hline
    · cases hline
    split at hline
    · cases hline
    obtain rfl | hline := List.mem_cons.1 hline
    · exact .word (by decide) _ _
    split at hline
    · cases hline
    · cases hline
    · rw [List.mem_singleton.1 hline]
      exact .word (by decide) _ _

theorem Window.opens_of_mem_lines {window : Window Template}
    {template : Template} (hline : template ∈ window.lines) :
    Opens ClauseKind.window.words template := by
  obtain rfl | rfl : template = _ ∨ template = _ := by
    simpa only [Window.lines, List.mem_cons, List.not_mem_nil, or_false]
      using hline
  · rw [String.append_assoc]
    exact .word (by decide) _ _
  · exact .word (by decide) _ _

theorem Operation.line_opens (operation : Operation Template) :
    Opens ClauseKind.operation.words operation.line := by
  obtain ⟨kind, document, collection, target⟩ := operation
  have hword : kind.text ++ " " ∈ ClauseKind.operation.words := by
    cases kind <;> decide
  have hopens (rest : String) (pieces : Template) :
      Opens ClauseKind.operation.words
        (.text (kind.text ++ (" " ++ rest)) :: pieces) := by
    rw [← String.append_assoc]
    exact .word hword rest pieces
  cases kind with
  | insert => exact opens_word (by decide) _
  | remove | replace | update =>
      cases document <;>
        simpa only [Operation.line, Template.ofText, String.append_assoc,
          List.cons_append] using hopens _ _

theorem Upsert.opens_of_mem_lines {upsert : Upsert Template}
    {template : Template} (hline : template ∈ upsert.lines) :
    Opens ClauseKind.upsert.words template := by
  simp only [Upsert.lines, List.mem_cons, List.not_mem_nil, or_false] at hline
  obtain rfl | rfl | rfl | rfl := hline
  · exact opens_word (by decide) _
  · exact opens_word (by decide) _
  · exact opens_word (by decide) _
  · exact .word (by decide) _ _

theorem Update.opens_of_mem_lines {hasResult : Bool} {update : Update Template}
    {template : Template} (hline : template ∈ update.lines hasResult) :
    Opens ClauseKind.update.words template := by
  simp only [Update.lines, List.mem_append, List.mem_cons, List.not_mem_nil,
    or_false] at hline
  obtain (rfl | rfl | rfl) | hline := hline
  · exact opens_word (by decide) _
  · exact opens_word (by decide) _
  · exact .word (by decide) _ _
  · split at hline
    · have hword : "RETURN " ∈ ClauseKind.update.words := by decide
      rw [List.mem_singleton.1 hline]
      exact .word hword "\x7b old: OLD, new: NEW \x7d" _
    · cases hline

namespace Record

variable {record : Record Template} {template : Template}

theorem opens_of_mem_withLines (hline : template ∈ record.withLines) :
    Opens ["WITH "] template := by
  unfold withLines at hline
  split at hline
  · cases hline
  · split at hline
    · rw [List.mem_singleton.1 hline]
      exact .word List.mem_cons_self _ _
    · rw [List.mem_singleton.1 hline]
      exact .halt ..

theorem opens_of_mem_loopLines (hline : template ∈ record.loopLines) :
    Opens ["FOR "] template := by
  unfold loopLines at hline
  split at hline
  · cases hline
  · split at hline
    · split at hline
      · rw [List.mem_singleton.1 hline]
        exact loopLine_opens ..
      · split at hline
        · rw [List.mem_singleton.1 hline]
          exact loopLine_opens ..
        · cases hline
      · cases hline
    · cases hline

theorem opens_of_mem_sortLines (hline : template ∈ record.sortLines) :
    Opens ["SORT "] template := by
  unfold sortLines at hline
  split at hline
  · cases hline
  · rw [List.mem_singleton.1 hline]
    exact .word List.mem_cons_self _ _

theorem opens_of_mem_limitLines (hline : template ∈ record.limitLines) :
    Opens ["LIMIT "] template := by
  unfold limitLines at hline
  split at hline
  · cases hline
  · rw [List.mem_singleton.1 hline, String.append_assoc, String.append_assoc]
    exact .word List.mem_cons_self _ _
  · rw [List.mem_singleton.1 hline]
    exact .word List.mem_cons_self _ _

theorem opens_of_mem_resultLines (hline : template ∈ record.resultLines) :
    Opens ["RETURN "] template := by
  unfold resultLines at hline
  split at hline
  · cases hline
  · rw [List.mem_singleton.1 hline]
    split
    · exact .word List.mem_cons_self "DISTINCT " _
    · exact opens_word List.mem_cons_self _

/-- Every line begins with a word of its kind. -/
theorem opens_of_mem_linesOf {kind : ClauseKind}
    (hline : template ∈ record.linesOf kind) : Opens kind.words template := by
  cases kind with
  | collections => exact opens_of_mem_withLines hline
  | loop => exact opens_of_mem_loopLines hline
  | nestedLoop =>
      obtain ⟨join, -, hline⟩ := List.mem_flatMap.1 hline
      exact join.opens_of_mem_lines hline
  | earlyLet | lateLet =>
      obtain ⟨⟨name, part⟩, -, rfl⟩ := List.mem_map.1 hline
      simp only [String.append_assoc]
      exact .word List.mem_cons_self _ _
  | search =>
      obtain ⟨search, -, hline⟩ := List.mem_flatMap.1 hline
      exact search.opens_of_mem_lines hline
  | earlyFilter | lateFilter | prune =>
      obtain ⟨condition, -, rfl⟩ := List.mem_map.1 hline
      exact opens_word List.mem_cons_self _
  | grouping =>
      obtain ⟨collect, -, hline⟩ := List.mem_flatMap.1 hline
      exact collect.opens_of_mem_lines hline
  | traversal =>
      obtain ⟨traversal, -, rfl⟩ := List.mem_map.1 hline
      simp only [Traversal.line, Template.ofText, String.append_assoc]
      exact .word List.mem_cons_self _ _
  | order => exact opens_of_mem_sortLines hline
  | window =>
      obtain ⟨window, -, hline⟩ := List.mem_flatMap.1 hline
      exact window.opens_of_mem_lines hline
  | page => exact opens_of_mem_limitLines hline
  | operation =>
      obtain ⟨operation, -, rfl⟩ := List.mem_map.1 hline
      exact operation.line_opens
  | upsert =>
      obtain ⟨upsert, -, hline⟩ := List.mem_flatMap.1 hline
      exact upsert.opens_of_mem_lines hline
  | update =>
      obtain ⟨update, -, hline⟩ := List.mem_flatMap.1 hline
      exact update.opens_of_mem_lines hline
  | result => exact opens_of_mem_resultLines hline

/-- Where the first words settle a mark, the texts of a kind agree on it. -/
theorem beginsWith_of_fillsEach {kind : ClauseKind} {mark : String}
    {answer : Bool}
    (hmark : ∀ word ∈ kind.words,
      Settles mark word ∧ beginsWith mark word = answer)
    {texts : List String} {store last : BindingStore String}
    (hfills : FillsEach (record.linesOf kind) store texts last) {text : String}
    (htext : text ∈ texts) : beginsWith mark text = answer := by
  obtain ⟨template, hline, before, after, hfills⟩ := hfills.exists_of_mem htext
  obtain ⟨word, hword, rest, rfl⟩ :=
    (opens_of_mem_linesOf hline).exists_of_fills hfills
  obtain ⟨hsettles, hanswer⟩ := hmark word hword
  rw [beginsWith_append hsettles, hanswer]

end Record

namespace Query

variable {query : Query} {compiled : CompiledQuery}
variable {linesOf : ClauseKind → List String} {mark : String}

theorem Writes.fillsEach_kind (hwrites : query.Writes compiled linesOf)
    (kind : ClauseKind) :
    ∃ before after,
      FillsEach (query.lineTemplates.linesOf kind) before (linesOf kind)
        after := by
  obtain ⟨last, hfills, -⟩ := hwrites.filled
  have hkind : kind ∈ ClauseKind.all := by cases kind <;> decide
  exact hfills.of_family hwrites.length hkind

/-- Where the first words settle a mark, the lines of a kind agree on it. -/
theorem Writes.beginsWith_of_mem (hwrites : query.Writes compiled linesOf)
    {kind : ClauseKind} {answer : Bool}
    (hmark : ∀ word ∈ kind.words,
      Settles mark word ∧ beginsWith mark word = answer)
    {text : String} (htext : text ∈ linesOf kind) :
    beginsWith mark text = answer := by
  obtain ⟨before, after, hlines⟩ := hwrites.fillsEach_kind kind
  exact Record.beginsWith_of_fillsEach hmark hlines htext

/-- The lines that begin with a mark are those of the kinds that it marks. -/
theorem Writes.filter_beginsWith (hwrites : query.Writes compiled linesOf)
    {kinds : List ClauseKind} {marked : ClauseKind → Bool}
    (hmark : ∀ kind ∈ kinds, ∀ word ∈ kind.words,
      Settles mark word ∧ beginsWith mark word = marked kind) :
    (kinds.flatMap linesOf).filter (beginsWith mark) =
      (kinds.filter marked).flatMap linesOf := by
  induction kinds with
  | nil => rfl
  | cons kind kinds hkinds =>
      obtain ⟨hkind, hmark⟩ := List.forall_mem_cons.1 hmark
      have hlines : (linesOf kind).filter (beginsWith mark) =
          if marked kind then linesOf kind else [] := by
        calc (linesOf kind).filter (beginsWith mark)
            = (linesOf kind).filter fun _ => marked kind :=
              List.filter_congr fun _ htext =>
                hwrites.beginsWith_of_mem hkind htext
          _ = if marked kind then linesOf kind else [] := by
              cases marked kind <;> simp
      rw [List.flatMap_cons, List.filter_append, hlines, hkinds hmark,
        List.filter_cons]
      cases marked kind <;> rfl

/-- Which lines of a kind begin with a mark is told by their templates. -/
theorem Writes.map_beginsWith (hwrites : query.Writes compiled linesOf)
    {kind : ClauseKind} (hmark : ∀ word ∈ kind.words, Settles mark word) :
    (linesOf kind).map (beginsWith mark) =
      (query.lineTemplates.linesOf kind).map (Template.beginsWith mark) := by
  obtain ⟨before, after, hfills⟩ := hwrites.fillsEach_kind kind
  have hopens : ∀ template ∈ query.lineTemplates.linesOf kind,
      Opens kind.words template :=
    fun template hline => Record.opens_of_mem_linesOf hline
  generalize query.lineTemplates.linesOf kind = templates at hfills hopens
  generalize linesOf kind = texts at hfills
  induction hfills with
  | nil store => rfl
  | cons first rest hrest =>
      obtain ⟨hfirst, hopens⟩ := List.forall_mem_cons.1 hopens
      rw [List.map_cons, List.map_cons, hfirst.beginsWith_eq hmark first,
        hrest hopens]

end Query

end ArangoQuery
