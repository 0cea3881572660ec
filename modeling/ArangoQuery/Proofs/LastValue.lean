import ArangoQuery.Proofs.Filling
import ArangoQuery.Proofs.Lookup

/-!
# What is bound in the end

A store that has been filled holds under every name the value that was wanted
last (`Template.Fills.get?_eq`).  A value wanted under a name that is bound
already is the same as the bound one up to the spelling of numbers
(`Template.Fills.isConsistent`); any other one is a fault of the name
(`Template.fill_error`).
-/

namespace ArangoQuery

open BindingStore (get?_adopt get?_bind get?_eq_none_iff merge_cons
  same_of_adopt)
open Record (members)

namespace Request

variable {requests : List Request} {name : String}

/-- The value that is wanted last under a name. -/
def lastValue : List Request → String → Option Value
  | [], _ => none
  | request :: rest, name =>
      (lastValue rest name).or
        (if request.name = name then some request.value else none)

theorem lastValue_append (left right : List Request) (name : String) :
    lastValue (left ++ right) name =
      (lastValue right name).or (lastValue left name) := by
  induction left with
  | nil => simp [lastValue]
  | cons request rest hrest =>
      rw [List.cons_append, lastValue, lastValue, hrest, Option.or_assoc]

theorem mem_of_lastValue {value : Value}
    (hlast : lastValue requests name = some value) :
    ∃ request ∈ requests, request.name = name ∧ request.value = value := by
  induction requests with
  | nil => simp [lastValue] at hlast
  | cons request rest hrest =>
      rw [lastValue, Option.or_eq_some_iff] at hlast
      rcases hlast with hlater | ⟨-, hhere⟩
      · obtain ⟨later, hmem, hlater⟩ := hrest hlater
        exact ⟨later, List.mem_cons_of_mem _ hmem, hlater⟩
      · by_cases hname : request.name = name
        · simp only [hname, if_true, Option.some.injEq] at hhere
          exact ⟨request, List.mem_cons_self, hname, hhere⟩
        · simp [hname] at hhere

theorem exists_lastValue {request : Request} (hrequest : request ∈ requests) :
    ∃ value, lastValue requests request.name = some value := by
  rw [← Option.isSome_iff_exists]
  induction requests with
  | nil => exact absurd hrequest List.not_mem_nil
  | cons first rest hrest =>
      rw [lastValue, Option.isSome_or]
      rcases List.mem_cons.1 hrequest with rfl | hmem
      · simp
      · simp [hrest hmem]

/-- Every value is the same as the one that is bound under its name when it is
wanted. -/
def IsConsistent : (String → Option Value) → List Request → Prop
  | _, [] => True
  | bound, request :: rest =>
      (∀ old, bound request.name = some old →
        old.same request.value = true) ∧
      IsConsistent
        (fun name =>
          if request.name = name then some request.value else bound name)
        rest

theorem isConsistent_append {bound : String → Option Value}
    {left right : List Request} :
    IsConsistent bound (left ++ right) ↔ IsConsistent bound left ∧
      IsConsistent (fun name => (lastValue left name).or (bound name)) right := by
  induction left generalizing bound with
  | nil => simp [IsConsistent, lastValue]
  | cons request rest hrest =>
      have hbound : (fun name => (lastValue (request :: rest) name).or
            (bound name)) =
          fun name => (lastValue rest name).or
            (if request.name = name then some request.value
              else bound name) := by
        funext name
        rw [lastValue, Option.or_assoc]
        by_cases heq : request.name = name <;> simp [heq]
      rw [List.cons_append, IsConsistent, IsConsistent, hrest, hbound,
        and_assoc]

/-- Whatever takes the place of an earlier value is the same as that value. -/
theorem same_of_isConsistent {before after : List Request} {request : Request}
    (hconsistent : IsConsistent (fun _ => none) (before ++ request :: after))
    {old : Value} (hold : lastValue before request.name = some old) :
    old.same request.value = true := by
  have hrequest := (isConsistent_append.1 hconsistent).2.1
  exact hrequest old (by simp [hold])

end Request

open Request (lastValue lastValue_append taken)

namespace BindingStore

/-- A merge leaves the last value of every name that it brings along. -/
theorem get?_merge {store last : BindingStore String}
    {bindings : List (String × Value)}
    (hmerge : store.merge bindings = (none, last)) (name : String) :
    last.get? name =
      (lastValue (bindings.map taken) name).or (store.get? name) := by
  induction bindings generalizing store with
  | nil =>
      obtain rfl : store = last := by simpa [merge] using hmerge
      rfl
  | cons binding rest hrest =>
      obtain ⟨next, hadopt, hnext⟩ := merge_cons.1 hmerge
      rw [hrest hnext, get?_adopt hadopt, List.map_cons, lastValue,
        Option.or_assoc]
      by_cases heq : binding.1 = name <;> simp [taken, heq]

/-- A merge fails only on a name that is bound already. -/
theorem merge_fault {store last : BindingStore String}
    {bindings : List (String × Value)} {fault : ConfigurationFault}
    (hmerge : store.merge bindings = (some fault, last)) :
    ∃ name, fault = .boundTwice name := by
  induction bindings generalizing store with
  | nil => simp [merge] at hmerge
  | cons binding rest hrest =>
      rw [merge] at hmerge
      cases hadopt : store.adopt binding.1 binding.2 with
      | ok next =>
          rw [hadopt] at hmerge
          exact hrest hmerge
      | error fault' =>
          rw [hadopt] at hmerge
          obtain rfl : fault' = fault := by
            simpa using congrArg Prod.fst hmerge
          rw [adopt] at hadopt
          split at hadopt
          · split at hadopt
            · exact absurd hadopt (by simp)
            · exact ⟨_, (Except.error.inj hadopt).symm⟩
          · exact absurd hadopt (by simp)

theorem isConsistent_of_merge {store last : BindingStore String}
    {bindings : List (String × Value)}
    (hmerge : store.merge bindings = (none, last)) :
    Request.IsConsistent store.get? (bindings.map taken) := by
  induction bindings generalizing store with
  | nil => trivial
  | cons binding rest hrest =>
      obtain ⟨next, hadopt, hnext⟩ := merge_cons.1 hmerge
      have hget : next.get? = fun name =>
          if binding.1 = name then some binding.2 else store.get? name := by
        funext name
        exact get?_adopt hadopt name
      constructor
      · intro old hold
        exact same_of_adopt hadopt hold
      · have hlater := hrest hnext
        rw [hget] at hlater
        exact hlater

end BindingStore

namespace Template

variable {template : Template} {store last : BindingStore String}
variable {text : String}

/-- A store that has been filled holds the values that were wanted last. -/
theorem Fills.get?_eq (hfills : Fills template store text last)
    (name : String) :
    last.get? name =
      (lastValue (template.requests store) name).or (store.get? name) := by
  induction hfills with
  | nil store => rfl
  | text content run hrun => exact hrun
  | hole stem value run hrun =>
      rw [hrun, get?_bind, requests, lastValue, Option.or_assoc]
      split <;> rfl
  | adopt hmerge run hrun =>
      rw [hrun, BindingStore.get?_merge hmerge, requests, hmerge,
        lastValue_append, Option.or_assoc]

theorem Fills.isConsistent (hfills : Fills template store text last) :
    Request.IsConsistent store.get? (template.requests store) := by
  induction hfills with
  | nil store => trivial
  | text content run hrun => exact hrun
  | @hole stem value _ store _ _ run hrun =>
      have hfresh := (get?_eq_none_iff _).2 (store.bind_fresh stem value)
      have hget : (store.bind stem value).2.get? = fun name =>
          if (store.bind stem value).1 = name then some value
          else store.get? name := by
        funext name
        exact get?_bind store stem value name
      constructor
      · intro old hold
        rw [hfresh] at hold
        exact absurd hold (by simp)
      · rw [hget] at hrun
        exact hrun
  | @adopt bindings _ store next _ _ hmerge run hrun =>
      have hget : next.get? = fun name =>
          (lastValue (bindings.map taken) name).or (store.get? name) := by
        funext name
        exact BindingStore.get?_merge hmerge name
      rw [hget] at hrun
      rw [requests, hmerge]
      exact Request.isConsistent_append.2
        ⟨BindingStore.isConsistent_of_merge hmerge, hrun⟩

/-- Filling fails where the template halts, or on a name wanted for a value that
is not the same as the bound one. -/
theorem fill_error_cases {error : Error}
    (hfill : fill template store = .error error) :
    Piece.halt error ∈ template ∨
      ∃ name, error = .configuration (.boundTwice name) := by
  induction template generalizing store with
  | nil => simp [fill] at hfill
  | cons piece rest hrest =>
      -- What fails the rest of a template fails the whole of it.
      have hlater {next : BindingStore String}
          (hrun : fill rest next = .error error) :=
        (hrest hrun).imp_left (List.mem_cons_of_mem piece)
      cases piece with
      | text content =>
          cases hrun : fill rest store with
          | ok result =>
              simp [fill, hrun, bind, Except.bind, pure, Except.pure] at hfill
          | error error' =>
              obtain rfl : error' = error := by
                simpa [fill, hrun, bind, Except.bind] using hfill
              exact hlater hrun
      | hole stem value =>
          cases hrun : fill rest (store.bind stem value).2 with
          | ok result =>
              simp [fill, hrun, bind, Except.bind, pure, Except.pure] at hfill
          | error error' =>
              obtain rfl : error' = error := by
                simpa [fill, hrun, bind, Except.bind] using hfill
              exact hlater hrun
      | adopt bindings =>
          rcases hmerge : store.merge bindings with ⟨_ | fault, next⟩
          · rw [fill, hmerge] at hfill
            exact hlater hfill
          · rw [fill, hmerge] at hfill
            obtain rfl := Except.error.inj hfill
            exact .inr ((BindingStore.merge_fault hmerge).imp fun name hname =>
              congrArg Error.configuration hname)
      | halt error' =>
          obtain rfl : error' = error := by simpa [fill] using hfill
          exact .inl (List.mem_cons_self ..)

theorem fill_error (hhalts : ∀ piece ∈ template, piece.isHalt = false)
    {error : Error} (hfill : fill template store = .error error) :
    ∃ name, error = .configuration (.boundTwice name) := by
  rcases fill_error_cases hfill with hhalt | hname
  · exact absurd (hhalts _ hhalt) Bool.noConfusion
  · exact hname

end Template

namespace Query

variable {query : Query} {compiled : CompiledQuery}

/-- Whatever is wanted under a name, a value that was wanted under it is bound to
it. -/
theorem value?_of_compile (hcompile : query.compile = .ok compiled)
    {request : Request} (hrequest : request ∈ query.requests) :
    ∃ wanted ∈ query.requests, wanted.name = request.name ∧
      compiled.value? request.name = some wanted.value := by
  cases hraw : query.raw with
  | some raw =>
      rw [compile_raw hraw] at hcompile
      obtain rfl := Except.ok.inj hcompile
      rw [requests_of_raw hraw] at hrequest ⊢
      have hname : request.name ∈ (members query.rawBindings).map Prod.fst := by
        obtain ⟨binding, hbinding, rfl⟩ := List.mem_map.1 hrequest
        exact List.mem_map_of_mem hbinding
      have hsome := (BindingStore.get?_isSome_iff
        { values := members query.rawBindings } request.name).2 hname
      obtain ⟨value, hvalue⟩ := Option.isSome_iff_exists.1 hsome
      have hbinding := mem_of_lookupEntry hvalue
      exact ⟨taken (request.name, value), List.mem_map_of_mem hbinding, rfl,
        hvalue⟩
  | none =>
      obtain ⟨last, hfills, hbindings⟩ := (compile_eq_ok_iff hraw).1 hcompile
      obtain ⟨value, hlast⟩ := Request.exists_lastValue hrequest
      obtain ⟨wanted, hwanted, hname, rfl⟩ := Request.mem_of_lastValue hlast
      refine ⟨wanted, hwanted, hname, ?_⟩
      have hget := hfills.get?_eq request.name
      rw [CompiledQuery.value?, hbindings]
      rw [show query.template.requests {} = query.requests from rfl, hlast]
        at hget
      exact hget

/-- Only names that are wanted get bound. -/
theorem mem_names_of_compile (hcompile : query.compile = .ok compiled)
    {name : String} (hname : name ∈ compiled.names) :
    ∃ request ∈ query.requests, request.name = name := by
  cases hraw : query.raw with
  | some raw =>
      rw [compile_raw hraw] at hcompile
      obtain rfl := Except.ok.inj hcompile
      obtain ⟨binding, hbinding, rfl⟩ := List.mem_map.1 hname
      rw [requests_of_raw hraw]
      exact ⟨taken binding, List.mem_map_of_mem hbinding, rfl⟩
  | none =>
      obtain ⟨last, hfills, hbindings⟩ := (compile_eq_ok_iff hraw).1 hcompile
      rw [CompiledQuery.names, hbindings] at hname
      obtain ⟨value, hvalue⟩ := Option.isSome_iff_exists.1
        ((last.get?_isSome_iff name).2 hname)
      have hempty : BindingStore.get? {} name = none := rfl
      rw [hfills.get?_eq, hempty, Option.or_none] at hvalue
      obtain ⟨request, hrequest, hname, -⟩ := Request.mem_of_lastValue hvalue
      exact ⟨request, hrequest, hname⟩

end Query

end ArangoQuery
