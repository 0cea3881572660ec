import ArangoQuery.Builder.Function
import ArangoQuery.Proofs.OperationLines

/-!
# The end of a text

The language has no function for the end of a text, so `ends_with` compares a text
with a pattern: any run of characters, and then the end.  The end stands in the
pattern as it is given.  So the call holds of the texts with that end exactly if
every character of the end stands for itself in a pattern
(`Catalogue.ends_with_tests_end_iff`); with a wildcard or an escape in the end it
also holds of others.
-/

namespace ArangoQuery

open Template (Fills fill fill_eq_ok_iff fills_append_iff fills_between_iff)

/-! ## Patterns -/

/-- What the characters of a pattern stand for, one after the other. -/
inductive PatternStep where
  /-- Any run of characters. -/
  | run
  /-- Any single character. -/
  | single
  | exactly (character : Char)

namespace PatternStep

/-- The steps of a pattern.  A percent sign stands for a run, an underscore for a
single character, and a backslash makes the next character stand for itself.
`lone` is what a backslash with nothing behind it stands for. -/
def ofPattern (lone : Option Char) : List Char → List PatternStep
  | [] => []
  | '%' :: rest => .run :: ofPattern lone rest
  | '_' :: rest => .single :: ofPattern lone rest
  | ['\\'] => lone.toList.map exactly
  | '\\' :: character :: rest => .exactly character :: ofPattern lone rest
  | character :: rest => .exactly character :: ofPattern lone rest

/-- A text is made by the steps of a pattern, from the first character to the
last. -/
inductive Makes : List PatternStep → List Char → Prop
  | nil : Makes [] []
  | run (skipped : List Char) {steps : List PatternStep} {text : List Char}
      (rest : Makes steps text) : Makes (.run :: steps) (skipped ++ text)
  | single (character : Char) {steps : List PatternStep} {text : List Char}
      (rest : Makes steps text) : Makes (.single :: steps) (character :: text)
  | exactly (character : Char) {steps : List PatternStep} {text : List Char}
      (rest : Makes steps text) :
      Makes (.exactly character :: steps) (character :: text)

theorem makes_exactly_iff {characters text : List Char} :
    Makes (characters.map exactly) text ↔ text = characters := by
  constructor
  · intro hmakes
    induction characters generalizing text with
    | nil => cases hmakes; rfl
    | cons character characters hcharacters =>
        cases hmakes with
        | exactly _ rest => rw [hcharacters rest]
  · rintro rfl
    induction text with
    | nil => exact .nil
    | cons character text htext => exact .exactly character htext

/-- After any run, the steps of a text make the texts that end with it. -/
theorem makes_run_exactly_iff {ending text : List Char} :
    Makes (.run :: ending.map exactly) text ↔ ending <:+ text := by
  constructor
  · intro hmakes
    cases hmakes with
    | run skipped rest =>
        rw [makes_exactly_iff.1 rest]
        exact List.suffix_append skipped ending
  · rintro ⟨skipped, rfl⟩
    exact .run skipped (makes_exactly_iff.2 rfl)

/-! ## Patterns of texts that stand for themselves -/

/-- A text that steps make with empty runs and one and the same letter wherever
any character will do. -/
def shortest : List PatternStep → List Char
  | [] => []
  | .run :: steps => shortest steps
  | .single :: steps => 'a' :: shortest steps
  | .exactly character :: steps => character :: shortest steps

theorem makes_shortest (steps : List PatternStep) :
    Makes steps (shortest steps) := by
  induction steps with
  | nil => exact .nil
  | cons step steps hsteps =>
      cases step with
      | run => exact .run [] hsteps
      | single => exact .single 'a' hsteps
      | exactly character => exact .exactly character hsteps

theorem shortest_exactly (characters : List Char) :
    shortest (characters.map exactly) = characters := by
  induction characters with
  | nil => rfl
  | cons character characters hcharacters =>
      exact congrArg (character :: ·) hcharacters

variable {lone : Option Char} {ending : List Char}

theorem length_shortest_le (lone : Option Char) (pattern : List Char) :
    (shortest (ofPattern lone pattern)).length ≤ pattern.length := by
  fun_induction ofPattern lone pattern with
  | case1 => exact Nat.le_refl 0
  | case2 rest hrest => exact Nat.le_succ_of_le hrest
  | case3 rest hrest => exact Nat.succ_le_succ hrest
  | case4 => cases lone <;> simp [shortest]
  | case5 character rest hrest =>
      exact Nat.le_succ_of_le (Nat.succ_le_succ hrest)
  | case6 character rest hrun hsingle hlone hescape hrest =>
      exact Nat.succ_le_succ hrest

/-- Nothing but a text whose characters all stand for themselves is made again by
its own steps without any to spare. -/
theorem eq_exactly_of_shortest
    (hshortest : shortest (ofPattern lone ending) = ending) :
    ofPattern lone ending = ending.map exactly := by
  fun_induction ofPattern lone ending with
  | case1 => rfl
  | case2 rest hrest =>
      have hlength := congrArg List.length hshortest
      have hbound := length_shortest_le lone rest
      simp only [shortest, List.length_cons] at hlength
      omega
  | case3 rest hrest =>
      have hletter := (List.cons.inj hshortest).1
      exact absurd hletter (by decide)
  | case4 =>
      cases lone with
      | none => cases hshortest
      | some character =>
          obtain rfl : character = '\\' := (List.cons.inj hshortest).1
          rfl
  | case5 character rest hrest =>
      have hlength := congrArg List.length hshortest
      have hbound := length_shortest_le lone rest
      simp only [shortest, List.length_cons] at hlength
      omega
  | case6 character rest hrun hsingle hlone hescape hrest =>
      rw [hrest (List.cons.inj hshortest).2]
      rfl

/-- A pattern of a run and an end holds of the texts with that end exactly if the
end stands for itself. -/
theorem forall_makes_iff :
    (∀ text, Makes (.run :: ofPattern lone ending) text ↔ ending <:+ text) ↔
      ofPattern lone ending = ending.map exactly := by
  constructor
  · intro htests
    have hends := (htests _).1 (.run [] (makes_shortest (ofPattern lone ending)))
    have hlength := length_shortest_le lone ending
    exact eq_exactly_of_shortest (hends.eq_of_length_le hlength).symm
  · intro hplain text
    rw [hplain]
    exact makes_run_exactly_iff

/-- No wildcard, and no backslash but one at the end that stands for itself
there. -/
def IsVerbatim (lone : Option Char) (ending : List Char) : Prop :=
  '%' ∉ ending ∧ '_' ∉ ending ∧
    ('\\' ∉ ending ∨ lone = some '\\' ∧ '\\' ∉ ending.dropLast)

theorem ofPattern_eq_exactly_iff :
    ofPattern lone ending = ending.map exactly ↔ IsVerbatim lone ending := by
  fun_induction ofPattern lone ending with
  | case1 => simp [IsVerbatim]
  | case2 rest hrest => simp [IsVerbatim]
  | case3 rest hrest => simp [IsVerbatim]
  | case4 => cases lone <;> simp [IsVerbatim]
  | case5 character rest hrest =>
      -- An escape makes one step out of two characters.
      have hlong : PatternStep.exactly character :: ofPattern lone rest ≠
          ('\\' :: character :: rest).map exactly := by
        intro hsteps
        have hlength := congrArg (List.length ∘ shortest) hsteps
        have hbound := length_shortest_le lone rest
        simp only [Function.comp_apply, shortest_exactly, shortest,
          List.length_cons] at hlength
        omega
      exact iff_of_false hlong (by simp [IsVerbatim])
  | case6 character rest hrun hsingle hlone hescape hrest =>
      have hbackslash : '\\' ≠ character := by
        rintro rfl
        cases rest with
        | nil => exact hlone rfl rfl
        | cons next rest => exact hescape next rest rfl rfl
      rw [List.map_cons, List.cons.injEq, hrest, IsVerbatim, IsVerbatim]
      cases rest with
      | nil => simp [Ne.symm hrun, Ne.symm hsingle, hbackslash]
      | cons next rest =>
          simp [Ne.symm hrun, Ne.symm hsingle, hbackslash]

end PatternStep

/-- Does a text match a pattern? -/
def MatchesPattern (lone : Option Char) (pattern text : String) : Prop :=
  PatternStep.Makes (PatternStep.ofPattern lone pattern.toList) text.toList

theorem forall_matches_iff {lone : Option Char} {ending : String} :
    (∀ text, MatchesPattern lone ("%" ++ ending) text ↔
        ending.toList <:+ text.toList) ↔
      PatternStep.IsVerbatim lone ending.toList := by
  have hpattern (text : String) : MatchesPattern lone ("%" ++ ending) text ↔
      PatternStep.Makes (.run :: PatternStep.ofPattern lone ending.toList)
        text.toList := by
    rw [MatchesPattern, String.toList_append]
    rfl
  rw [← PatternStep.ofPattern_eq_exactly_iff, ← PatternStep.forall_makes_iff]
  constructor
  · intro htests characters
    have htext := htests (String.ofList characters)
    rwa [hpattern, String.toList_ofList] at htext
  · intro htests text
    rw [hpattern]
    exact htests text.toList

/-! ## The call -/

namespace Catalogue

variable {ρ : Type} {look : ρ → Query} {value : Operand ρ}
variable {subject accepted : Expr}

/-- The entry for the end of a text. -/
def endEntry : FunctionEntry where
  helper := "ends_with"
  function := "LIKE"
  parameters :=
    [{ name := "value", mode := .subject },
      { name := "suffix", mode := .suffixPattern }]

theorem find_endEntry :
    (entries .text).find? (·.helper == "ends_with") = some endEntry :=
  rfl

/-- The call that compares a text with a pattern for its end. -/
def endTest (subject : Expr) (ending : String) : Expr :=
  .of (.call "LIKE" [subject, .literal (.text ("%" ++ ending))])

theorem apply_ends_with (hsubject : value.toSubject look = .ok subject)
    (haccept : subject.accept = .ok accepted) (ending : String) :
    apply look .text "ends_with" ⟨[value, .text ending], []⟩ =
      .ok (endTest accepted ending) := by
  have hpattern : "%" ++ (Operand.text ending : Operand ρ).raw.display =
      "%" ++ ending := rfl
  have hcall : endEntry.call look ⟨[value, .text ending], []⟩ =
      Expr.ofCall (.text "LIKE") [subject, .literal (.text ("%" ++ ending))] := by
    simp [FunctionEntry.call, FunctionEntry.signature, FunctionEntry.moded,
      FunctionParameter.parameter, Signature.bind, Signature.assign, endEntry,
      ParameterMode.checkSide, ParameterMode.arguments, hsubject, hpattern, bind,
      Except.bind, pure, Except.pure]
  rw [apply, find_endEntry]
  · show endEntry.call look ⟨[value, .text ending], []⟩ = _
    rw [hcall, Expr.ofCall, Checked.traverse, haccept]
    rfl
  · simp
  · simp

/-- The pattern is bound, and the call names it behind its subject. -/
theorem fill_endTest {store next : BindingStore String} {subjectText : String}
    (hfill : fill subject.template store = .ok (subjectText, next))
    (ending : String) :
    ∃ name last,
      fill (endTest subject ending).template store =
        .ok ("LIKE(" ++ subjectText ++ ", @" ++ name ++ ")", last) ∧
      last.get? name = some (.text ("%" ++ ending)) := by
  obtain ⟨name, last, hbind⟩ :
      ∃ name last, next.bind "value" (.text ("%" ++ ending)) = (name, last) :=
    ⟨_, _, rfl⟩
  have htemplate : (endTest subject ending).template =
      Piece.text "LIKE(" :: (subject.template ++
        [.text ", ", .hole "value" (.text ("%" ++ ending))]) ++
        Template.ofText ")" := by
    rw [Expr.template, endTest, Expr.fold_of]
    rfl
  have hpattern : Fills [.text ", ", .hole "value" (.text ("%" ++ ending))] next
      (", @" ++ name) last := by
    have hhole := Fills.hole "value" (.text ("%" ++ ending))
      (.nil (next.bind "value" (.text ("%" ++ ending))).2)
    rw [hbind] at hhole
    have hfills := Fills.text ", " hhole
    rw [← String.append_assoc, String.append_empty] at hfills
    exact hfills
  refine ⟨name, last, ?_, ?_⟩
  · rw [htemplate, fill_eq_ok_iff, fills_between_iff]
    refine ⟨subjectText ++ (", @" ++ name), ?_, ?_⟩
    · exact fills_append_iff.2
        ⟨_, _, next, fill_eq_ok_iff.1 hfill, hpattern, rfl⟩
    · simp only [String.append_assoc]
  · have hget := next.get?_bind "value" (.text ("%" ++ ending)) name
    rw [hbind] at hget
    simpa using hget

/-- The call for the end of a text compares its subject with a pattern that it
binds.  The texts that match are those with the end exactly if the end has no
wildcard and no backslash before another character in it. -/
theorem ends_with_tests_end_iff (hsubject : value.toSubject look = .ok subject)
    (haccept : subject.accept = .ok accepted) (ending : String) :
    ∃ call pattern,
      apply look .text "ends_with" ⟨[value, .text ending], []⟩ = .ok call ∧
      (∀ store subjectText next,
        fill accepted.template store = .ok (subjectText, next) →
        ∃ name last,
          fill call.template store =
            .ok ("LIKE(" ++ subjectText ++ ", @" ++ name ++ ")", last) ∧
          last.get? name = some (.text pattern)) ∧
      ∀ lone, (∀ text, MatchesPattern lone pattern text ↔
          ending.toList <:+ text.toList) ↔
        PatternStep.IsVerbatim lone ending.toList := by
  refine ⟨_, "%" ++ ending, apply_ends_with hsubject haccept ending, ?_, ?_⟩
  · intro store subjectText next hfill
    exact fill_endTest hfill ending
  · intro lone
    exact forall_matches_iff

section Example

theorem archives_tested_by_end :
    ∃ call pattern,
      apply (fun _ : Nat => {}) .text "ends_with"
          ⟨[.text "file.path", .text ".tar.gz"], []⟩ = .ok call ∧
      (∃ name last,
        fill call.template {} =
          .ok ("LIKE(" ++ "file.path" ++ ", @" ++ name ++ ")", last) ∧
        last.get? name = some (.text pattern)) ∧
      ∀ lone text, MatchesPattern lone pattern text ↔
        ".tar.gz".toList <:+ text.toList := by
  have hsubject : Operand.toSubject (fun _ : Nat => {}) (.text "file.path") =
      .ok (.reference "file.path") := rfl
  have haccept : Expr.accept (.reference "file.path") =
      .ok (.reference "file.path") := rfl
  obtain ⟨call, pattern, hcall, hfill, htests⟩ :=
    ends_with_tests_end_iff hsubject haccept ".tar.gz"
  refine ⟨call, pattern, hcall, hfill {} _ {} rfl, fun lone => (htests lone).2 ?_⟩
  exact ⟨by decide, by decide, .inl (by decide)⟩

/-- An underscore in the end matches any character in its place, so a text
without the end passes the test for it. -/
theorem underscore_in_end_matches_others :
    ∃ call compiled,
      apply (fun _ : Nat => {}) .text "ends_with"
          ⟨[.text "u.key", .text "_id"], []⟩ = .ok call ∧
      call.compile = .ok compiled ∧ compiled.text = "LIKE(u.key, @value0)" ∧
      compiled.value? "value0" = some (.text "%_id") ∧
      ∀ lone, MatchesPattern lone "%_id" "void" ∧
        ¬ "_id".toList <:+ "void".toList := by
  refine ⟨_, _, rfl, rfl, rfl, rfl, fun lone => ⟨?_, by decide⟩⟩
  exact .run ['v'] (.single 'o' (.exactly 'i' (.exactly 'd' .nil)))

end Example

end Catalogue

end ArangoQuery
