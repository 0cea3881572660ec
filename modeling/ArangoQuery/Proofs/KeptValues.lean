import ArangoQuery.Proofs.LastValue
import ArangoQuery.Value.Json

/-!
# What becomes of the values

A query is compiled to bindings that hold one value for every name, the last one
that was wanted under it.  Earlier ones are the same up to the spelling of
numbers, but `1`, `true` and `1.0` are three JSON values.  So every value is kept
exactly if no two values wanted under one name differ as JSON
(`Query.values_kept_iff`).
-/

namespace ArangoQuery

open Record (members)
open Request (lastValue taken)

/-! ## JSON values -/

namespace Value

mutual

/-- The JSON value that a value is written as, with the members of every mapping
in the order of their keys.  Leaves without a JSON form stay as they are. -/
def json : Value → Value
  | .scalar value => .scalar value
  | .list items => .list (jsonList items)
  | .tuple items => .list (jsonList items)
  | .map entries =>
      .map ((jsonEntries entries).mergeSort
        fun left right => left.1.display ≤ right.1.display)
  | .model name fields => .model name fields
  | .foreign kind shown => .foreign kind shown

def jsonList : List Value → List Value
  | [] => []
  | value :: rest => json value :: jsonList rest

def jsonEntries : List (Scalar × Value) → List (Scalar × Value)
  | [] => []
  | (key, value) :: rest =>
      (.text key.toJsonKey, json value) :: jsonEntries rest

end

/-- Are two values one JSON value? -/
def SameJson (left right : Value) : Prop :=
  left.json = right.json

theorem SameJson.symm {left right : Value} (h : left.SameJson right) :
    right.SameJson left :=
  Eq.symm h

theorem SameJson.trans {left middle right : Value}
    (hleft : left.SameJson middle) (hright : middle.SameJson right) :
    left.SameJson right :=
  Eq.trans hleft hright

/-- Truth values and numbers are equal here, but not as JSON. -/
example : (Value.int 1).same (.bool true) = true ∧
    ¬ (Value.int 1).SameJson (.bool true) :=
  ⟨by decide +kernel, by simp [SameJson, json]⟩

end Value

namespace Query

variable {query : Query} {compiled : CompiledQuery}

/-- A query that compiles keeps every value under its name exactly if no two
values wanted under one name differ as JSON.  A value that is replaced is the same
as its successor up to the spelling of numbers, and where two values are not, the
name is reported as bound twice. -/
theorem values_kept_iff (query : Query) :
    (∀ compiled, query.compile = .ok compiled →
      compiled.text = query.template.fillWith query.generatedNames ∧
      ((∀ request ∈ query.requests, ∃ value,
          compiled.value? request.name = some value ∧
            value.SameJson request.value) ↔
        ∀ request ∈ query.requests, ∀ other ∈ query.requests,
          request.name = other.name →
            request.value.SameJson other.value)) ∧
    (query.raw = none → (∃ compiled, query.compile = .ok compiled) →
      ∀ before request after, query.requests = before ++ request :: after →
        ∀ old, lastValue before request.name = some old →
          old.same request.value = true) ∧
    (query.raw = none → (∀ piece ∈ query.template, piece.isHalt = false) →
      ∀ error, query.compile = .error error →
        ∃ name, error = .configuration (.boundTwice name)) := by
  refine ⟨?_, ?_, ?_⟩
  · intro compiled hcompile
    refine ⟨text_of_compile hcompile, ?_⟩
    constructor
    · intro hkept request hrequest other hother hname
      obtain ⟨value, hvalue, hsame⟩ := hkept request hrequest
      obtain ⟨value', hvalue', hsame'⟩ := hkept other hother
      rw [← hname, hvalue] at hvalue'
      obtain rfl := Option.some.inj hvalue'
      exact hsame.symm.trans hsame'
    · intro hagree request hrequest
      obtain ⟨wanted, hwanted, hname, hvalue⟩ :=
        value?_of_compile hcompile hrequest
      exact ⟨wanted.value, hvalue,
        hagree wanted hwanted request hrequest hname⟩
  · intro hraw hcompiles before request after hrequests old hold
    obtain ⟨compiled, hcompile⟩ := hcompiles
    obtain ⟨last, hfills, -⟩ := (compile_eq_ok_iff hraw).1 hcompile
    have hconsistent := hfills.isConsistent
    rw [show query.template.requests {} = _ from hrequests] at hconsistent
    exact Request.same_of_isConsistent hconsistent hold
  · intro hraw hhalts error herror
    rw [compile_eq hraw] at herror
    cases hfill : Template.fill query.template {} with
    | ok filled => simp [hfill, bind, Except.bind, pure, Except.pure] at herror
    | error error' =>
        obtain rfl : error' = error := by
          simpa [hfill, bind, Except.bind] using herror
        exact Template.fill_error hhalts hfill

/-- Two raw subqueries with a parameter of one name. -/
def sharingParameter (left right : Value) : Query where
  result := some (.array
    [.subquery { raw := some "RETURN @p", rawBindings := some [("p", left)] },
      .subquery { raw := some "RETURN @p", rawBindings := some [("p", right)] }])

theorem sharing_values_kept :
    ∃ compiled,
      (sharingParameter (.int 1) (.int 1)).compile = .ok compiled ∧
        ∀ request ∈ (sharingParameter (.int 1) (.int 1)).requests,
          ∃ value, compiled.value? request.name = some value ∧
            value.SameJson request.value := by
  have hcompile : (sharingParameter (.int 1) (.int 1)).compile =
      .ok ⟨"RETURN [(RETURN @p), (RETURN @p)]", [("p", .int 1)]⟩ := by
    with_unfolding_all rfl
  have hrequests : (sharingParameter (.int 1) (.int 1)).requests =
      [taken ("p", .int 1), taken ("p", .int 1)] := by
    with_unfolding_all rfl
  refine ⟨_, hcompile, ?_⟩
  apply ((values_kept_iff _).1 _ hcompile).2.2
  rw [hrequests]
  simp [taken, Value.SameJson]

/-- A truth value takes the place of a number. -/
theorem value_silently_replaced :
    ¬ ∀ (query : Query) (compiled : CompiledQuery),
      query.compile = .ok compiled →
        ∀ request ∈ query.requests, ∃ value,
          compiled.value? request.name = some value ∧
            value.SameJson request.value := by
  intro hkept
  have hcompile : (sharingParameter (.int 1) (.bool true)).compile =
      .ok ⟨"RETURN [(RETURN @p), (RETURN @p)]", [("p", .bool true)]⟩ := by
    with_unfolding_all rfl
  have hrequest : taken ("p", .int 1) ∈
      (sharingParameter (.int 1) (.bool true)).requests :=
    List.mem_cons_self
  obtain ⟨value, hvalue, hsame⟩ := hkept _ _ hcompile _ hrequest
  obtain rfl : Value.bool true = value := Option.some.inj hvalue
  simp [Value.SameJson, Value.json, taken] at hsame

end Query

end ArangoQuery
