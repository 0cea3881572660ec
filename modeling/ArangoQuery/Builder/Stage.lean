import ArangoQuery.Builder.Builder

/-!
# Stages

A grouping and an upsert are declared in stages of their own, which collect their
parts and hand one finished clause to the builder.  Until then the builder is not
touched.  The keys of a grouping are converted when it is finished, not when it is
started.
-/

namespace ArangoQuery

inductive Stage (ρ : Type) where
  /-- A grouping with named aggregations, of which a later one replaces an
  earlier one of the same name. -/
  | collect (keys : List (Value × Operand ρ))
      (aggregates : List (Value × Expr))
  /-- A grouping that keeps some variables of its rows. -/
  | collectKeep (keys : List (Value × Operand ρ)) (keep : List Value)
  | upsertInsert (search : Expr)
  | upsertUpdate (search insert : Expr)
  | upsertInto (search insert update : Expr)

inductive StageCall (ρ : Type) where
  | aggregate (function : String) (name expression : Operand ρ)
  | finish
  | into (name : Operand ρ)
  | aggregateAll (aggregates : List (String × Operand ρ))
  | sort (field direction : Operand ρ)
  | insert (document : Operand ρ)
  | update (document : Operand ρ)

/-- What a call on a stage leads to. -/
inductive StageResult (ρ : Type) where
  /-- The same stage, with what has been added to it. -/
  | same (stage : Stage ρ)
  | next (stage : Stage ρ)
  /-- Back to the builder. -/
  | parent (builder : Builder)
  /-- The call failed; the builder may have been changed before. -/
  | failed (builder : Builder) (error : Error)

namespace Stage

variable {ρ : Type}

/-- Adds an entry to a mapping with keys of any kind. -/
def putKey (entries : List (Value × Operand ρ)) (key : Value)
    (value : Operand ρ) : Except Error (List (Value × Operand ρ)) :=
  if key.isHashable then .ok (putEntry Value.same key value entries)
  else .error (.type .mismatch)

def characters (word : String) : List (Operand ρ) :=
  word.toList.map fun character => .text (String.singleton character)

/-- The members of an operand that can be gone through one by one.  Going
through an expression would ask for its attributes. -/
def membersOf : Operand ρ → Except Error (List (Operand ρ))
  | .list items => .ok items
  | .tuple items => .ok items
  | .text word => .ok (characters word)
  | .map entries => .ok (entries.map fun (key, _) => .scalar key)
  | .built (.reference _) => .error (.type .mismatch)
  | .built _ => .error (.value .propertyOfComplexExpression)
  | _ => .error (.type .mismatch)

/-- Enters pairs, each of which has to have two members. -/
def enterPairs (position : Nat) (entries : List (Value × Operand ρ)) :
    List (Operand ρ) → Except Error (List (Value × Operand ρ))
  | [] => .ok entries
  | item :: rest => do
      match ← membersOf item with
      | [key, value] =>
          let entries ← putKey entries key.raw value
          enterPairs (position + 1) entries rest
      | members => .error (.value (.pairLength position members.length))

/-- The keys of a grouping, each a name with an operand: a mapping, or pairs. -/
def keysOf : Operand ρ → Except Error (List (Value × Operand ρ))
  | .map entries =>
      .ok (entries.map fun (key, value) => (.scalar key, value))
  | operand => do enterPairs 0 [] (← membersOf operand)

def keepNames (operand : Operand ρ) : Except Error (List Value) := do
  return (← membersOf operand).map Operand.raw

def ofCollect (given : Operand ρ) : Except Error (Stage ρ) := do
  return .collect (← keysOf given) []

def ofCollectKeep (given keep : Operand ρ) : Except Error (Stage ρ) := do
  let keys ← keysOf given
  let keep ← keepNames keep
  return .collectKeep keys keep

def ofUpsert (look : ρ → Query) (search : Operand ρ) :
    Except Error (Stage ρ) := do
  return .upsertInsert (← search.toDocument look)

/-- A named part of a grouping. -/
def namedPart (model : String) (name : Value) (part : Expr) :
    Except Error (String × Expr) :=
  (Prod.mk <$> Check.text name <*> part.accept).orInvalid model

def convertKeys (look : ρ → Query)
    (keys : List (Value × Operand ρ)) : Except Error (Document Expr) :=
  keys.mapM fun (key, value) => do
    namedPart "CollectVariable" key (← value.toValue look)

def clause (keys aggregates : Document Expr) (into : Value)
    (keep : Option (List Value)) : Except Error (Collect Expr) :=
  ((fun into keep => { keys, into, aggregates, keep }) <$>
    Check.nullable Check.text into <*>
    (match keep with
      | none => .ok none
      | some names =>
          (Checked.traverse Check.text names).map some)).orInvalid
    "CollectClause"

/-- The clause of a grouping with aggregations. -/
def collectClause (look : ρ → Query) (keys : List (Value × Operand ρ))
    (aggregates : List (Value × Expr)) (into : Value) :
    Except Error (Collect Expr) := do
  let keys ← convertKeys look keys
  let aggregates ← aggregates.mapM fun (name, part) =>
    namedPart "CollectAggregate" name part
  clause keys aggregates into none

/-- An aggregation as a call of its function. -/
def aggregation (look : ρ → Query) (function : String)
    (expression : Operand ρ) : Except Error Expr := do
  Expr.ofCall (.text function) [← expression.toValue look]

def upsertClause (search insert update : Expr) (collection : Value) :
    Except Error (Upsert Expr) :=
  ((fun search insert update collection =>
      { search, insert, update, collection }) <$>
    search.accept <*> insert.accept <*> update.accept <*>
    Check.text collection).orInvalid "UpsertClause"

def addAggregate (aggregates : List (Value × Expr)) (name : Value)
    (part : Expr) : Except Error (List (Value × Expr)) :=
  if name.isHashable then .ok (putEntry Value.same name part aggregates)
  else .error (.type .mismatch)

def ofOutcome (outcome : Outcome) : StageResult ρ :=
  match outcome.error with
  | none => .parent outcome.builder
  | some error => .failed outcome.builder error

/-- The result of a step that leaves the builder alone if it fails. -/
def orFail {α : Type} (builder : Builder) (step : Except Error α)
    (next : α → StageResult ρ) : StageResult ρ :=
  match step with
  | .ok value => next value
  | .error error => .failed builder error

/-- Hands a finished clause to the builder. -/
def hand (look : Query → ρ → Query) (builder : Builder)
    (clause : Except Error (Collect Expr)) : Outcome :=
  match clause with
  | .ok clause => builder.perform look (.addCollect clause)
  | .error error => { builder, error := some error }

/-- What a call on a stage does.  A call that the stage does not have fails. -/
def perform (look : Query → ρ → Query) (builder : Builder)
    (stage : Stage ρ) (call : StageCall ρ) : StageResult ρ :=
  let find := look builder.record
  match stage, call with
  | .collect keys aggregates, .aggregate function name expression =>
      orFail builder
        (do
          let part ← aggregation find function expression
          addAggregate aggregates name.raw part)
        fun aggregates => .same (.collect keys aggregates)
  | .collect keys aggregates, .finish =>
      ofOutcome (hand look builder
        (collectClause find keys aggregates .null))
  | .collect keys aggregates, .into name =>
      ofOutcome (hand look builder
        (collectClause find keys aggregates name.raw))
  | .collect keys aggregates, .sort field direction =>
      ofOutcome ((hand look builder
          (collectClause find keys aggregates .null)).andThen
        fun builder => builder.perform look (.sort field direction))
  | .collectKeep keys keep, .into name =>
      ofOutcome (hand look builder do
        let keys ← convertKeys find keys
        clause keys [] name.raw (some keep))
  | .collectKeep keys keep, .aggregateAll aggregates =>
      ofOutcome (hand look builder do
        let keys ← convertKeys find keys
        let aggregates ← aggregates.mapM fun (name, expression) => do
          namedPart "CollectAggregate" (.text name)
            (← expression.toValue find)
        clause keys aggregates .null (some keep))
  | .collectKeep _ _, .sort field direction =>
      ofOutcome (builder.perform look (.sort field direction))
  | .upsertInsert search, .insert document =>
      orFail builder (document.toDocument find) fun insert =>
        .next (.upsertUpdate search insert)
  | .upsertUpdate search insert, .update document =>
      orFail builder (document.toDocument find) fun update =>
        .next (.upsertInto search insert update)
  | .upsertInto search insert update, .into collection =>
      orFail builder (upsertClause search insert update collection.raw)
        fun upsert => ofOutcome (builder.perform look (.addUpsert upsert))
  | _, _ => .failed builder .attribute

end Stage

end ArangoQuery
