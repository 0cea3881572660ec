import ArangoQuery.Builder.Stage

/-!
# Sessions

Several builders at work side by side.  Two builders may share one record: what
one of them changes, the other sees.  Everything else is kept apart; putting a
builder into the record of another takes the record as it is at that moment.

Builders, stages and records are numbered in the order of their creation.
-/

namespace ArangoQuery

/-- A builder or a stage. -/
inductive Handle where
  | builder (number : Nat)
  | stage (number : Nat)
  deriving DecidableEq, Repr, Inhabited

/-- What a builder keeps apart from its record. -/
structure BuilderCell where
  record : Nat
  openJoin : Option Nat := none
  deriving DecidableEq, Repr, Inhabited

/-- A stage and the builder that it belongs to. -/
structure StageCell where
  parent : Nat
  stage : Stage Nat

structure Session where
  records : List Query := []
  builders : List BuilderCell := []
  stages : List StageCell := []
  saved : List (Scalar × Handle) := []

instance : Inhabited Session := ⟨{}⟩

namespace Session

def cell (session : Session) (number : Nat) : BuilderCell :=
  session.builders.getD number default

/-- The record of a builder. -/
def query (session : Session) (number : Nat) : Query :=
  session.records.getD (session.cell number).record {}

/-- A builder by its number. -/
def builder (session : Session) (number : Nat) : Builder :=
  { record := session.query number,
    openJoin := (session.cell number).openJoin }

/-- The records of all builders while the record of one of them changes: those
that share it see the change. -/
def look (session : Session) (number : Nat) (current : Query) (other : Nat) :
    Query :=
  if (session.cell other).record = (session.cell number).record then current
  else session.query other

def setBuilder (session : Session) (number : Nat) (builder : Builder) :
    Session :=
  let cell := session.cell number
  { session with
    records := session.records.set cell.record builder.record,
    builders :=
      session.builders.set number { cell with openJoin := builder.openJoin } }

/-- A new builder with a record of its own. -/
def addBuilder (session : Session) (builder : Builder) : Nat × Session :=
  (session.builders.length,
    { session with
      records := session.records ++ [builder.record],
      builders :=
        session.builders ++
          [{ record := session.records.length,
             openJoin := builder.openJoin }] })

/-- A new builder on the record of another one. -/
def shareRecord (session : Session) (number : Nat) : Nat × Session :=
  (session.builders.length,
    { session with
      builders :=
        session.builders ++ [{ record := (session.cell number).record }] })

def addStage (session : Session) (parent : Nat) (stage : Stage Nat) :
    Nat × Session :=
  (session.stages.length,
    { session with stages := session.stages ++ [{ parent, stage }] })

/-- A call on a builder. -/
def call (session : Session) (number : Nat) (call : Call Nat) :
    Session × Option Error :=
  let outcome :=
    (session.builder number).perform (session.look number) call
  (session.setBuilder number outcome.builder, outcome.error)

/-- A call on a stage, and what it leads to. -/
def callStage (session : Session) (number : Nat) (call : StageCall Nat) :
    Session × Except Error Handle :=
  match session.stages[number]? with
  | none => (session, .error .attribute)
  | some cell =>
      let builder := session.builder cell.parent
      match cell.stage.perform (session.look cell.parent) builder call with
      | .same stage =>
          ({ session with
              stages := session.stages.set number { cell with stage } },
            .ok (.stage number))
      | .next stage =>
          let (next, session) := session.addStage cell.parent stage
          (session, .ok (.stage next))
      | .parent builder =>
          (session.setBuilder cell.parent builder, .ok (.builder cell.parent))
      | .failed builder error =>
          (session.setBuilder cell.parent builder, .error error)

end Session

end ArangoQuery
