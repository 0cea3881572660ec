import ArangoQuery.Proofs.DataIndependence
import ArangoQuery.Proofs.SnapshotNames

/-!
# Parameters and data

The walk over a snapshot takes data for parts of the query, so a text in it that
looks like a placeholder counts as a parameter.  Queries that are equal but for
their data have the same parameters exactly if their data mention the same names,
apart from those that are asked for anyway (`Query.parameters_agree_iff`).
-/

namespace ArangoQuery

namespace Mention

/-! ## Mentions that are equal but for data -/

variable {left right : List Mention}

theorem ownNames_blank (mention : Mention) :
    mention.blank.ownNames = mention.ownNames := by
  cases mention <;> rfl

theorem ownNames_of_blank_eq (hblank : left.map blank = right.map blank) :
    left.flatMap ownNames = right.flatMap ownNames := by
  have hown (mentions : List Mention) :
      (mentions.map blank).flatMap ownNames = mentions.flatMap ownNames := by
    rw [List.flatMap_map]
    exact List.flatMap_congr fun mention _ => mention.ownNames_blank
  rw [← hown left, ← hown right, hblank]

/-- The same names in the data, one after the other, leave all names the same. -/
theorem names_of_blank_eq (hblank : left.map blank = right.map blank)
    (hdata : (left.filterMap datum?).map Value.mentionedNames =
      (right.filterMap datum?).map Value.mentionedNames) :
    left.flatMap names = right.flatMap names := by
  induction left generalizing right with
  | nil =>
      obtain rfl := List.map_eq_nil_iff.1 hblank.symm
      rfl
  | cons mention rest hrest =>
      cases right with
      | nil => cases hblank
      | cons mention' rest' =>
          obtain ⟨hmention, hblanks⟩ := List.cons.inj hblank
          rw [List.flatMap_cons, List.flatMap_cons]
          cases mention with
          | text content =>
              cases mention' with
              | text content' =>
                  obtain rfl := Mention.text.inj hmention
                  rw [hrest hblanks hdata]
              | datum value' => cases hmention
          | datum value =>
              cases mention' with
              | text content' => cases hmention
              | datum value' =>
                  obtain ⟨hvalue, hvalues⟩ := List.cons.inj hdata
                  rw [hrest hblanks hvalues]
                  exact congrArg (· ++ _) hvalue

/-! ## Data that asks for nothing new -/

/-- Does data mention only names that have been asked for before? -/
def asksNothingNew : List String → List Mention → Bool
  | _, [] => true
  | seen, .text content :: rest =>
      asksNothingNew (seen ++ Value.placeholderNames content) rest
  | seen, .datum value :: rest =>
      value.mentionedNames.all seen.contains && asksNothingNew seen rest

/-- Repetitions of what has come before do not count. -/
theorem eraseDups_append_of_subset {earlier repeated later : List String}
    (hsubset : repeated ⊆ earlier) :
    (earlier ++ (repeated ++ later)).eraseDups =
      (earlier ++ later).eraseDups := by
  have hnothing : repeated.removeAll earlier = [] := by
    rw [List.removeAll, List.filter_eq_nil_iff]
    intro name hname
    simpa using hsubset hname
  have hsplit : (repeated ++ later).removeAll earlier =
      later.removeAll earlier := by
    rw [List.removeAll, List.filter_append, ← List.removeAll, hnothing,
      List.nil_append, ← List.removeAll]
  rw [List.eraseDups_append, List.eraseDups_append, hsplit]

/-- Data that asks for nothing new does not change what is asked for, nor in
which order. -/
theorem eraseDups_of_asksNothingNew {seen : List String}
    {mentions : List Mention} (hnothing : asksNothingNew seen mentions = true) :
    (seen ++ mentions.flatMap names).eraseDups =
      (seen ++ mentions.flatMap ownNames).eraseDups := by
  induction mentions generalizing seen with
  | nil => rfl
  | cons mention rest hrest =>
      rw [List.flatMap_cons, List.flatMap_cons]
      cases mention with
      | text content =>
          rw [← List.append_assoc, ← List.append_assoc]
          exact hrest hnothing
      | datum value =>
          obtain ⟨hvalue, hothers⟩ := Bool.and_eq_true_iff.1 hnothing
          have hsubset : value.mentionedNames ⊆ seen := by
            intro name hname
            exact List.contains_iff_mem.1 (List.all_eq_true.1 hvalue name hname)
          rw [names, ownNames, eraseDups_append_of_subset hsubset,
            List.nil_append]
          exact hrest hothers

end Mention

/-! ## Queries that are equal but for data -/

namespace Query

variable {left right : Query}

/-- Some data of a query mentions a name. -/
def MentionsInData (query : Query) (name : String) : Prop :=
  ∃ datum ∈ query.data, name ∈ datum.mentionedNames

def dataAsksNothingNew (query : Query) : Bool :=
  Mention.asksNothingNew [] query.mentions

theorem ownNames_of_skeleton_eq (hsame : left.skeleton = right.skeleton) :
    left.ownNames = right.ownNames :=
  Mention.ownNames_of_blank_eq (mentions_of_skeleton_eq hsame)

theorem mem_parameterNames (query : Query) {names : List String}
    (hnames : names = (query.mentions.flatMap Mention.names).eraseDups)
    (name : String) :
    name ∈ names ↔ name ∈ query.ownNames ∨ query.MentionsInData name := by
  rw [hnames, List.mem_eraseDups, mem_flatMap_names]
  rfl

theorem parameterNames_of_dataAsksNothingNew {query : Query}
    (hnothing : query.dataAsksNothingNew = true) :
    (query.mentions.flatMap Mention.names).eraseDups =
      query.ownNames.eraseDups := by
  have heraseDups := Mention.eraseDups_of_asksNothingNew hnothing
  exact heraseDups

/-- Two typed queries that are equal but for their data ask for the same names
exactly if their data do, apart from the names asked for elsewhere.  The lists
are the same if the data mention the same names one after the other.  If no
datum mentions a name that has not been asked for before it, then the
parameters are those that the query asks for outside its data. -/
theorem parameters_agree_iff (hleft : left.isTyped = true)
    (hleftData : left.holdsData = true) (hright : right.isTyped = true)
    (hrightData : right.holdsData = true)
    (hsame : left.skeleton = right.skeleton) :
    ∃ leftNames rightNames,
      left.parameterNames? = some leftNames ∧
        right.parameterNames? = some rightNames ∧
        ((∀ name, name ∈ leftNames ↔ name ∈ rightNames) ↔
          ∀ name, name ∉ left.ownNames →
            (left.MentionsInData name ↔ right.MentionsInData name)) ∧
        (left.data.map Value.mentionedNames =
            right.data.map Value.mentionedNames →
          leftNames = rightNames) ∧
        (left.dataAsksNothingNew = true → leftNames = left.ownNames.eraseDups) ∧
        (left.dataAsksNothingNew = true → right.dataAsksNothingNew = true →
          leftNames = rightNames) := by
  have hown := ownNames_of_skeleton_eq hsame
  refine ⟨_, _, parameterNames?_eq hleft hleftData,
    parameterNames?_eq hright hrightData, ?_, ?_, ?_, ?_⟩
  · have hmem (name : String) := left.mem_parameterNames rfl name
    have hmem' (name : String) := right.mem_parameterNames rfl name
    simp only [hmem, hmem', ← hown]
    constructor
    · intro hagree name hfresh
      simpa [hfresh] using hagree name
    · intro hagree name
      by_cases hname : name ∈ left.ownNames
      · simp [hname]
      · simp [hname, hagree name hname]
  · intro hdata
    have hblank := mentions_of_skeleton_eq hsame
    rw [Mention.names_of_blank_eq hblank hdata]
  · exact parameterNames_of_dataAsksNothingNew
  · intro hnothing hnothing'
    rw [parameterNames_of_dataAsksNothingNew hnothing,
      parameterNames_of_dataAsksNothingNew hnothing', hown]

/-- A search of a view that is given as a parameter, with data of every kind. -/
def searchingView (items : List Value) (value : Value) (pattern field : String) :
    Query :=
  { carrying items value pattern field with
    source := some (.proper (.text "@view")) }

theorem searchingView_parameters_agree :
    ∃ leftNames rightNames,
      (searchingView [.text "@view"]
          (.map [(.text "type", .text "parameter"),
            (.text "name", .text "view")]) "@view" "@view").parameterNames? =
        some leftNames ∧
      (searchingView [] (.list [.int 1]) "a%" "@@view").parameterNames? =
        some rightNames ∧
      leftNames = ["view"] ∧ leftNames = rightNames := by
  have hsame : (searchingView [.text "@view"]
      (.map [(.text "type", .text "parameter"),
        (.text "name", .text "view")]) "@view" "@view").skeleton =
      (searchingView [] (.list [.int 1]) "a%" "@@view").skeleton := rfl
  obtain ⟨leftNames, rightNames, hleft, hright, -, -, hown, hagree⟩ :=
    parameters_agree_iff (by decide +kernel) (by decide +kernel)
      (by decide +kernel) (by decide +kernel) hsame
  refine ⟨leftNames, rightNames, hleft, hright, ?_, ?_⟩
  · rw [hown (by decide +kernel)]
    decide +kernel
  · exact hagree (by decide +kernel) (by decide +kernel)

/-- A literal may look like a placeholder. -/
def comparingWith (value : Value) : Query where
  filters := some
    [.of (.binary .equal (.reference "u.a") (.literal value))]

/-- The parameters depend on the data, even where every list stays a list. -/
theorem parameters_not_independent_of_data :
    ¬ ∀ left right : Query,
      left.isTyped = true → left.holdsData = true →
        right.isTyped = true → right.holdsData = true →
        left.withoutData = right.withoutData →
        left.parameterNames? = right.parameterNames? := by
  intro hindependent
  have hnames : (comparingWith (.text "@x")).parameterNames? = some ["x"] := by
    decide +kernel
  have hnone : (comparingWith (.text "x")).parameterNames? = some [] := by
    decide +kernel
  have hsame := hindependent (comparingWith (.text "@x"))
    (comparingWith (.text "x")) (by decide +kernel) (by decide +kernel)
    (by decide +kernel) (by decide +kernel) rfl
  rw [hnames, hnone] at hsame
  cases hsame

end Query

end ArangoQuery
