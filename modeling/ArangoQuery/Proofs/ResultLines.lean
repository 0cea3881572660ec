import ArangoQuery.Proofs.LineWords

/-!
# The line of the result

A query is meant to return one thing and to end with that.  A declared result is
written last, and no update returns anything next to it.  Without one, every update
that looks at the previous revision writes a result of its own, after which the
lines of the next update follow.  So the result is single and last if and only if
it is declared or no update but the last one looks back (`Query.result_last_iff`).
-/

namespace ArangoQuery

open Record (members)

def isResultLine (line : String) : Bool :=
  beginsWith "RETURN " line

/-- No line but the last one returns anything. -/
structure EndsWithResult (lines : List String) : Prop where
  single : lines.countP isResultLine ≤ 1
  last : ∀ line ∈ lines.dropLast, isResultLine line = false

/-! ## Marked lines -/

section Marks

variable {front marks : List Bool}

/-- A mark in front of others is none of the last. -/
theorem dropLast_append_iff (hmarks : marks ≠ []) :
    (∀ mark ∈ (front ++ marks).dropLast, mark = false) ↔
      (∀ mark ∈ front, mark = false) ∧
        ∀ mark ∈ marks.dropLast, mark = false := by
  rw [List.dropLast_append_of_ne_nil hmarks, List.forall_mem_append]

theorem dropLast_append_nil (hfront : ∀ mark ∈ front, mark = false)
    (marks : List Bool) :
    (∀ mark ∈ (front ++ marks).dropLast, mark = false) ↔
      ∀ mark ∈ marks.dropLast, mark = false := by
  by_cases hmarks : marks = []
  · subst hmarks
    rw [List.append_nil]
    have hdropped : ∀ mark ∈ front.dropLast, mark = false :=
      fun mark hmark => hfront mark (List.dropLast_subset _ hmark)
    simpa using hdropped
  · exact (dropLast_append_iff hmarks).trans (and_iff_right hfront)

theorem countP_of_false (hmarks : ∀ mark ∈ marks, mark = false) :
    marks.countP id = 0 :=
  List.countP_eq_zero.2 fun mark hmark => by simp [hmarks mark hmark]

/-- Where only the last one may be marked, at most one is. -/
theorem countP_le_one (hlast : ∀ mark ∈ marks.dropLast, mark = false) :
    marks.countP id ≤ 1 := by
  by_cases hmarks : marks = []
  · simp [hmarks]
  · rw [← List.dropLast_append_getLast hmarks, List.countP_append,
      countP_of_false hlast, Nat.zero_add]
    exact List.countP_le_length

end Marks

/-- The lines of a list are judged by their marks. -/
theorem endsWithResult_iff {lines : List String} :
    EndsWithResult lines ↔
      ∀ mark ∈ (lines.map isResultLine).dropLast, mark = false := by
  have hdropped :
      (∀ mark ∈ (lines.map isResultLine).dropLast, mark = false) ↔
        ∀ line ∈ lines.dropLast, isResultLine line = false := by
    rw [← List.map_dropLast, List.forall_mem_map]
  rw [hdropped]
  refine ⟨EndsWithResult.last, fun hlast => ⟨?_, hlast⟩⟩
  have hsingle := countP_le_one (hdropped.2 hlast)
  rwa [List.countP_map] at hsingle

namespace Update

/-- Which lines of an update return something. -/
def marks (hasResult : Bool) {ε : Type} (update : Update ε) : List Bool :=
  [false, false, false] ++
    if update.oldReference && !hasResult then [true] else []

theorem map_beginsWith_lines (hasResult : Bool) (update : Update Template) :
    (update.lines hasResult).map (Template.beginsWith "RETURN ") =
      update.marks hasResult := by
  have hcollection :
      beginsWith "RETURN " ("IN " ++ update.collection.getD "None") =
        beginsWith "RETURN " "IN " :=
    beginsWith_append (by decide) _
  rw [lines, marks, List.map_append]
  congr 1
  · simp only [List.map_cons, List.map_nil, Template.beginsWith,
      Template.ofText, hcollection]
    decide
  · split <;> rfl

theorem flatMap_marks_of_result {ε : Type} (updates : List (Update ε)) :
    ∀ mark ∈ updates.flatMap (marks true), mark = false := by
  simp [marks]

/-- Only an update that looks back returns something. -/
theorem forall_mem_marks {ε : Type} {update : Update ε} :
    (∀ mark ∈ update.marks false, mark = false) ↔
      update.oldReference = false := by
  cases hold : update.oldReference <;> simp [marks, hold]

theorem dropLast_marks {ε : Type} (update : Update ε) :
    ∀ mark ∈ (update.marks false).dropLast, mark = false := by
  cases hold : update.oldReference <;> simp [marks, hold]

theorem countP_flatMap_marks {ε : Type} (updates : List (Update ε)) :
    (updates.flatMap (marks false)).countP id =
      updates.countP (·.oldReference) := by
  induction updates with
  | nil => rfl
  | cons update rest hrest =>
      rw [List.flatMap_cons, List.countP_append, hrest, List.countP_cons]
      cases hold : update.oldReference <;> simp [marks, hold, Nat.add_comm]

/-- An update that looks back may stand only at the end. -/
theorem dropLast_flatMap_marks {ε : Type} (updates : List (Update ε)) :
    (∀ mark ∈ (updates.flatMap (marks false)).dropLast, mark = false) ↔
      ∀ update ∈ updates.dropLast, update.oldReference = false := by
  induction updates with
  | nil => simp
  | cons update rest hrest =>
      cases rest with
      | nil => simpa using update.dropLast_marks
      | cons next rest =>
          have hmarks : (next :: rest).flatMap (marks false) ≠ [] := by
            simp [marks]
          rw [List.flatMap_cons, dropLast_append_iff hmarks, forall_mem_marks,
            hrest, List.dropLast_cons_cons, List.forall_mem_cons]

end Update

namespace Query

variable {query : Query} {compiled : CompiledQuery}
variable {linesOf : ClauseKind → List String}

/-- The kinds whose lines never return anything. -/
def plainKinds : List ClauseKind :=
  ClauseKind.all.take 16

theorem Writes.plain_marks (hwrites : query.Writes compiled linesOf) :
    ∀ mark ∈ (plainKinds.flatMap linesOf).map isResultLine, mark = false := by
  intro mark hmark
  obtain ⟨line, hline, rfl⟩ := List.mem_map.1 hmark
  obtain ⟨kind, hkind, hline⟩ := List.mem_flatMap.1 hline
  refine hwrites.beginsWith_of_mem ?_ hline
  revert hkind
  cases kind <;> decide

theorem Writes.update_marks (hwrites : query.Writes compiled linesOf) :
    (linesOf .update).map isResultLine =
      (members query.updates).flatMap (Update.marks query.result.isSome) := by
  calc (linesOf .update).map isResultLine
      = (query.lineTemplates.linesOf .update).map
          (Template.beginsWith "RETURN ") := hwrites.map_beginsWith (by decide)
    _ = (members query.updates).flatMap (Update.marks query.result.isSome) := by
        simp only [Record.linesOf, lineTemplates, Record.map,
          Record.members_map, List.flatMap_map, List.map_flatMap,
          Update.map_beginsWith_lines, Option.isSome_map]
        rfl

theorem Writes.result_marks (hwrites : query.Writes compiled linesOf) :
    (linesOf .result).map isResultLine =
      if query.result.isSome then [true] else [] := by
  calc (linesOf .result).map isResultLine
      = (query.lineTemplates.linesOf .result).map
          (Template.beginsWith "RETURN ") := hwrites.map_beginsWith (by decide)
    _ = if query.result.isSome then [true] else [] := by
        rw [Record.linesOf, lineTemplates, Record.resultLines, Record.map]
        cases query.result with
        | none => rfl
        | some result =>
            simp only [Option.map_some, List.map_cons, List.map_nil]
            split <;> rfl

/-- Which lines of a compiled query return something. -/
theorem Writes.map_isResultLine (hwrites : query.Writes compiled linesOf) :
    (ClauseKind.all.flatMap linesOf).map isResultLine =
      (plainKinds.flatMap linesOf).map isResultLine ++
        ((members query.updates).flatMap (Update.marks query.result.isSome) ++
          if query.result.isSome then [true] else []) := by
  have hkinds : ClauseKind.all = plainKinds ++ [.update, .result] := rfl
  rw [← hwrites.update_marks, ← hwrites.result_marks, hkinds,
    List.flatMap_append, List.map_append]
  simp

/-- How often a query returns something. -/
theorem Writes.countP_isResultLine (hwrites : query.Writes compiled linesOf) :
    (ClauseKind.all.flatMap linesOf).countP isResultLine =
      if query.result.isSome then 1
      else (members query.updates).countP (·.oldReference) := by
  have hmarks := congrArg (List.countP id) hwrites.map_isResultLine
  rw [List.countP_map, List.countP_append, countP_of_false hwrites.plain_marks,
    Nat.zero_add, List.countP_append] at hmarks
  refine hmarks.trans ?_
  cases query.result.isSome with
  | true => simp [countP_of_false (Update.flatMap_marks_of_result _)]
  | false => simp [Update.countP_flatMap_marks]

theorem Writes.endsWithResult_iff (hwrites : query.Writes compiled linesOf) :
    EndsWithResult (ClauseKind.all.flatMap linesOf) ↔
      query.result.isSome = true ∨
        ∀ update ∈ (members query.updates).dropLast,
          update.oldReference = false := by
  rw [ArangoQuery.endsWithResult_iff, hwrites.map_isResultLine,
    dropLast_append_nil hwrites.plain_marks]
  cases hresult : query.result.isSome with
  | true => simpa using Update.flatMap_marks_of_result (members query.updates)
  | false => simpa using Update.dropLast_flatMap_marks (members query.updates)

/-- The result of a query that compiles is single and last if and only if it is
declared or no update but the last one looks at the previous revision. -/
theorem result_last_iff (hraw : query.raw = none)
    (hcompile : query.compile = .ok compiled) :
    ∃ linesOf, query.Writes compiled linesOf ∧
      (ClauseKind.all.flatMap linesOf).countP isResultLine =
        (if query.result.isSome then 1
        else (members query.updates).countP (·.oldReference)) ∧
      (EndsWithResult (ClauseKind.all.flatMap linesOf) ↔
        query.result.isSome = true ∨
          ∀ update ∈ (members query.updates).dropLast,
            update.oldReference = false) := by
  obtain ⟨linesOf, hwrites⟩ := query.exists_writes hraw hcompile
  exact ⟨linesOf, hwrites, hwrites.countP_isResultLine,
    hwrites.endsWithResult_iff⟩

section Example

/-- An update of a user that looks at the previous revision. -/
def lookingBack (field : String) (number : Int) : Update Expr where
  document := .reference "u"
  fields := .object [(field, .literal (.int number))]
  collection := some "users"
  loop := some "u"
  oldReference := true

/-- Two of them. -/
def lookingBackTwice (result : Option Expr) : Query where
  collection := some "users"
  loop := some (.proper "u")
  source := some (.proper (.text "users"))
  updates := some [lookingBack "n" 1, lookingBack "m" 2]
  result := result

theorem declared_result_last :
    ∃ compiled linesOf,
      (lookingBackTwice (some (.reference "u"))).compile = .ok compiled ∧
      (lookingBackTwice (some (.reference "u"))).Writes compiled linesOf ∧
      EndsWithResult (ClauseKind.all.flatMap linesOf) := by
  obtain ⟨compiled, hcompile⟩ : ∃ compiled,
      (lookingBackTwice (some (.reference "u"))).compile = .ok compiled :=
    ⟨_, rfl⟩
  obtain ⟨linesOf, hwrites, -, hlast⟩ := result_last_iff rfl hcompile
  exact ⟨compiled, linesOf, hcompile, hwrites, hlast.2 (.inl rfl)⟩

/-- Lines are written after the result of the first update. -/
theorem result_not_always_last :
    ¬ ∀ (query : Query) (compiled : CompiledQuery), query.raw = none →
      query.compile = .ok compiled →
      ∃ linesOf, query.Writes compiled linesOf ∧
        EndsWithResult (ClauseKind.all.flatMap linesOf) := by
  intro hlast
  obtain ⟨compiled, hcompile⟩ : ∃ compiled,
      (lookingBackTwice none).compile = .ok compiled := ⟨_, rfl⟩
  obtain ⟨linesOf, hwrites, hlast⟩ := hlast _ _ rfl hcompile
  obtain hresult | hplain := hwrites.endsWithResult_iff.1 hlast
  · cases hresult
  · cases hplain _ List.mem_cons_self

end Example

end Query

end ArangoQuery
