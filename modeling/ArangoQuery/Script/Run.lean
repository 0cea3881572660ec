import ArangoQuery.Diagnostics.Build
import ArangoQuery.Rendering.Inlined
import ArangoQuery.Script.Method
import ArangoQuery.Snapshot.Parameters
import ArangoQuery.Value.Reader

/-!
# Running scripts

`evaluate` evaluates terms and `runStep` performs one step on the current builder
or stage.  A step that fails leaves the current one as it is; what the failing
call has changed before stays changed, since errors keep the workspace.

Fuel bounds the nesting of terms.  The depth of a script is enough for it: a
closure is part of the step that calls it.
-/

namespace ArangoQuery

/-- The state that a script works on. -/
structure Workspace where
  session : Session := {}
  settings : Settings := {}
  events : List Event := []

instance : Inhabited Workspace := ⟨{}⟩

namespace Script

abbrev Action := EStateM Error Workspace

/-- What a step answers. -/
inductive Answer where
  /-- A builder, with the snapshot of its record if it has one. -/
  | builder (snapshot : Option Value)
  | stage (name : String)
  | compiled (query : CompiledQuery)
  | value (value : Value)

def liftExcept {α : Type} (result : Except Error α) : Action α :=
  match result with
  | .ok value => pure value
  | .error error => throw error

def liftOption {α : Type} (error : Error) (result : Option α) : Action α :=
  match result with
  | some value => pure value
  | none => throw error

/-- Keeps the events of a result, whether or not it is an error. -/
def liftLogged {α : Type} (result : Except Error α × List Event) :
    Action α := do
  modify fun workspace =>
    { workspace with events := workspace.events ++ result.2 }
  liftExcept result.1

def session : Action Session :=
  return (← get).session

def setSession (session : Session) : Action Unit :=
  modify fun workspace => { workspace with session }

/-- The records of all builders as they are now. -/
def records : Action (Nat → Query) :=
  return (← session).query

def addBuilder (builder : Builder) : Action Handle := do
  let (number, session) := (← session).addBuilder builder
  setSession session
  return .builder number

def addStage (parent : Nat) (stage : Stage Nat) : Action Handle := do
  let (number, session) := (← session).addStage parent stage
  setSession session
  return .stage number

def callBuilder (number : Nat) (call : Call Nat) : Action Handle := do
  let (session, error) := (← session).call number call
  setSession session
  match error with
  | none => return .builder number
  | some error => throw error

def callStage (number : Nat) (call : StageCall Nat) : Action Handle := do
  let (session, result) := (← session).callStage number call
  setSession session
  liftExcept result

/-- The builder that is current; a stage has no record of its own. -/
def currentBuilder : Handle → Action Nat
  | .builder number => pure number
  | .stage _ => throw .attribute

def stageOf (number : Nat) : Action StageCell := do
  liftOption .attribute (← session).stages[number]?

/-- What a builder or a stage answers when it becomes current. -/
def describeHandle : Handle → Action Answer
  | .builder number => return .builder ((← session).query number).snapshot?
  | .stage number => return .stage (stageName (← stageOf number).stage)

def snapshotOf (number : Nat) : Action Value := do
  liftOption .unserializable ((← session).query number).snapshot?

def build (number : Nat) : Action CompiledQuery := do
  let workspace ← get
  liftLogged
    ((workspace.session.query number).buildLogged workspace.settings)

def restore (restored : Checked Query) : Action Handle := do
  addBuilder { record := ← liftLogged (Query.restoreLogged restored) }

/-- The record that a snapshot, or its JSON text, describes. -/
def readSnapshot : Operand Nat → Checked Query
  | .text text =>
      match Value.ofJson? Numeral.maxLength text with
      | some value => Query.check value
      | none => .rejected 1
  | operand => Query.check operand.raw

/-- The record that the bytes of a JSON text describe. -/
def readBytes (bytes : ByteArray) : Checked Query :=
  match String.fromUTF8? bytes with
  | some text => readSnapshot (.text text)
  | none => .rejected 1

/-- The bytes that pairs of hexadecimal digits spell. -/
def bytesOfDigits : List Nat → List UInt8
  | high :: low :: rest =>
      (16 * high + low).toUInt8 :: bytesOfDigits rest
  | _ => []

def bytesOfHex (text : String) : ByteArray :=
  ⟨(bytesOfDigits (text.toList.filterMap Quoted.hexValue?)).toArray⟩

/-- A builder of raw text with its bindings. -/
def rawBuilder (arguments : Arguments (Operand Nat)) :
    Except Error Builder := do
  let signature : Signature :=
    { parameters := [.required "query", .optional "bind_vars"] }
  match (← arguments.assign signature).values with
  | [text, bindings] =>
      let bindings ←
        match bindings with
        | .null => pure none
        | bindings => some <$> Stage.keysOf bindings
      let entry (binding : Value × Operand Nat) : Checked (String × Value) :=
        (Check.text binding.1).map fun name => (name, binding.2.raw)
      let record ←
        ((fun raw rawBindings =>
            ({ raw, rawBindings } : Query)) <$>
          Check.nullable Check.text text.raw <*>
          (match bindings with
            | none => .ok none
            | some bindings =>
                (Checked.traverse entry bindings).map some)).orInvalid
          "QueryRecord"
      return { record }
  | _ => throw (.type .mismatch)

/-- A builder on a record given as such. -/
def recordBuilder (operand : Operand Nat) : Except Error Builder :=
  match operand.raw with
  | .model "QueryRecord" fields =>
      match Query.check (.model "QueryRecord" fields) with
      | .ok record => .ok { record }
      | .rejected _ => .error .attribute
  | _ => .error .attribute

/-- Adds a finished grouping clause. -/
def addCollect (number : Nat) (operand : Operand Nat) : Action Handle := do
  let value := operand.raw
  match value, Collect.check (Expr.checkWithin value.depth) value with
  | .model .., .ok clause => callBuilder number (.addCollect clause)
  | _, _ => throw .attribute

/-- The variables that a condition on a traversal may refer to. -/
def loopReferences (query : Query) : List Object :=
  let nameOr (default : String) (name : Option String) : Object :=
    .built (.reference
      (match name with
        | some name => if name = "" then default else name
        | none => default))
  match query.loopNames with
  | some loop =>
      [.built (.reference loop.vertex), nameOr "e" loop.edge,
        nameOr "p" loop.path]
  | none => [nameOr "v" none, nameOr "e" none, nameOr "p" none]

/-- The parameters of whatever a step is asked about. -/
def parametersOf (handle : Handle) : Action Value := do
  let snapshot ← snapshotOf (← currentBuilder handle)
  return .list (snapshot.parameterNames.map .text)

def saveAs (name : Scalar) (handle : Handle) : Action Unit := do
  let session ← session
  setSession
    { session with
      saved := putEntry Scalar.same name handle session.saved }

def load (name : Scalar) : Action Handle := do
  liftOption .key (lookupEntry Scalar.same name (← session).saved)

/-- Forgets afterwards, also after an error, what an action has saved. -/
def forgettingNames {α : Type} (action : Action α) : Action α :=
  fun before =>
    let restored (after : Workspace) : Workspace :=
      { after with
        session := { after.session with saved := before.session.saved } }
    match action before with
    | .ok result after => .ok result (restored after)
    | .error error after => .error error (restored after)

/-- Is this a closure, given in the place of a parameter? -/
def closureAt? (parameters : List String) (name : String)
    (arguments : Arguments Object) : Option Term :=
  let position := parameters.findIdx (· == name)
  let given :=
    match arguments.positional[position]? with
    | some object => some object
    | none => lookupEntry (· == ·) name arguments.named
  match given with
  | some (.closure body) => some body
  | _ => none

/-- Puts an object in the place of every closure. -/
def fillClosures (result : Object) (arguments : Arguments Object) :
    Arguments Object :=
  arguments.map fun
    | .closure _ => result
    | object => object

/-- The steps that need no more than their arguments.  They answer with the
object that is current afterwards. -/
def runPlain (current : Handle) (method : String)
    (arguments : Arguments (Operand Nat)) : Action (Handle × Answer) := do
  let becomes (handle : Handle) : Action (Handle × Answer) := do
    return (handle, ← describeHandle handle)
  let stays (value : Value) : Action (Handle × Answer) :=
    return (current, .value value)
  let started (number : Nat) (stage : Except Error (Stage Nat)) :
      Action (Handle × Answer) := do
    becomes (← addStage number (← liftExcept stage))
  let none : Action Unit := liftExcept arguments.none
  let only (name : String) : Action (Operand Nat) :=
    liftExcept (arguments.only name)
  match method with
  | "$new" =>
      let signature : Signature := { parameters := [.optional "initial_value"] }
      let look ← records
      let builder ← liftExcept do
        match (← arguments.assign signature).values with
        | [initial] => Builder.ofInitial look initial
        | _ => throw (.type .mismatch)
      becomes (← addBuilder builder)
  | "$raw" =>
      becomes (← addBuilder (← liftExcept (rawBuilder arguments)))
  | "$for_" =>
      let loop ← only "variable"
      let builder ← liftExcept (Builder.openLoop {} loop)
      becomes (← addBuilder builder)
  | "$subquery" =>
      none
      becomes (← addBuilder {})
  | "$from_json" =>
      becomes (← restore (readSnapshot (← only "snapshot")))
  | "$from_json_hex" =>
      match ← only "snapshot" with
      | .text digits => becomes (← restore (readBytes (bytesOfHex digits)))
      | _ => throw (.type .mismatch)
  | "$restore" =>
      let snapshot ← snapshotOf (← currentBuilder current)
      becomes (← restore (Query.check snapshot))
  | "$from_record" =>
      let number ← currentBuilder current
      let (number, session) := (← session).shareRecord number
      setSession session
      becomes (.builder number)
  | "$save" =>
      match ← only "name" with
      | .scalar name =>
          saveAs name current
          becomes current
      | _ => throw (.type .mismatch)
  | "$load" =>
      match ← only "name" with
      | .scalar name => becomes (← load name)
      | _ => throw (.type .mismatch)
  | "$compile" =>
      let number ← currentBuilder current
      let workspace ← get
      let compiled ← liftLogged
        ((workspace.session.query number).compileLogged workspace.settings)
      return (current, .compiled compiled)
  | "$parameters" => stays (← parametersOf current)
  | "$phase" =>
      let number ← currentBuilder current
      stays (.text ((← session).query number).phase.text)
  | method =>
      match current with
      | .stage number =>
          let cell ← stageOf number
          let found ←
            liftOption .attribute (stageMethod? cell.stage method)
          becomes (← callStage number (← liftExcept (found.apply arguments)))
      | .builder number =>
          match builderMethod? method with
          | some found =>
              becomes
                (← callBuilder number (← liftExcept (found.apply arguments)))
          | Option.none =>
              match method with
              | "collect" =>
                  started number (Stage.ofCollect (← only "variables"))
              | "collect_keep" =>
                  started number do
                    let names : Signature := .ofNames ["variables", "keep"]
                    match (← arguments.assign names).values with
                    | [keys, keep] => Stage.ofCollectKeep keys keep
                    | _ => throw (.type .mismatch)
              | "upsert" =>
                  let look ← records
                  started number (Stage.ofUpsert look (← only "search"))
              | "add_collect" =>
                  becomes (← addCollect number (← only "clause"))
              | "subquery" =>
                  none
                  becomes (← addBuilder {})
              | "raw" =>
                  becomes (← addBuilder (← liftExcept (rawBuilder arguments)))
              | "from_json" =>
                  becomes (← restore (readSnapshot (← only "snapshot")))
              | "from_record" =>
                  let record ← only "record"
                  becomes (← addBuilder (← liftExcept (recordBuilder record)))
              | "build" =>
                  none
                  return (current, .compiled (← build number))
              | "to_aql" =>
                  none
                  stays (.text (← build number).text)
              | "to_debug_string" =>
                  none
                  stays (.text (← build number).inlined)
              | "to_json" =>
                  none
                  stays (← snapshotOf number)
              | "query" => throw (.type .mismatch)
              | _ => throw .attribute

mutual

/-- The object that a term stands for.  `scope` holds what the innermost closure
has been called with. -/
def evaluate (fuel : Nat) (scope : List Object) (term : Term) :
    Action Object := do
  match fuel with
  | 0 => throw (.type .mismatch)
  | fuel + 1 =>
      let operands (terms : List Term) : Action (List (Operand Nat)) :=
        terms.mapM fun term => do
          return (← evaluate fuel scope term).toOperand
      match term with
      | .scalar value => return .operand (.scalar value)
      | .list items => return .operand (.list (← operands items))
      | .tuple items => return .operand (.tuple (← operands items))
      | .map entries =>
          let values ← operands (entries.map Prod.snd)
          return .operand (.map
            (entriesOf Scalar.same ((entries.map Prod.fst).zip values)))
      | .apply function positional named =>
          let arguments ← evaluateAll fuel scope positional named
          liftExcept (applyFunction function (arguments.map Object.toOperand))
      | .helper group name positional named =>
          let arguments ← evaluateAll fuel scope positional named
          let look ← records
          return .built (← liftExcept
            (Catalogue.apply look group name
              (arguments.map Object.toOperand)))
      | .model name contents =>
          let contents := (← evaluate fuel scope contents).toOperand
          liftExcept (modelObject name contents)
      | .script steps =>
          let start ← addBuilder {}
          match ← forgettingNames (runAll fuel scope start steps) with
          | .builder number => return .operand (.query number)
          | .stage number => return .stage number
      | .closure body => return .closure body
      | .argument position =>
          liftOption .key scope[position]?
      | .saved name =>
          match ← load name with
          | .builder number => return .operand (.query number)
          | .stage number => return .stage number
      | .chain subject (.call method positional named) =>
          let object ← evaluate fuel scope subject
          let arguments ← evaluateAll fuel scope positional named
          let look ← records
          liftExcept
            (callObject look object method (arguments.map Object.toOperand))

def evaluateAll (fuel : Nat) (scope : List Object)
    (positional : List Term) (named : List (String × Term)) :
    Action (Arguments Object) := do
  match fuel with
  | 0 => throw (.type .mismatch)
  | fuel + 1 =>
      let values ← positional.mapM (evaluate fuel scope)
      let namedValues ← named.mapM fun (name, term) => do
        return (name, ← evaluate fuel scope term)
      return { positional := values, named := namedValues }

/-- One step: the object that is current afterwards, and the answer. -/
def runStep (fuel : Nat) (scope : List Object) (current : Handle)
    (step : Step) : Action (Handle × Answer) := do
  match fuel with
  | 0 => throw (.type .mismatch)
  | fuel + 1 =>
      let .call method positional named := step
      let arguments ← evaluateAll fuel scope positional named
      let run (arguments : Arguments Object) : Action (Handle × Answer) :=
        runPlain current method (arguments.map Object.toOperand)
      let checked : Action Unit := liftExcept do
        if let some found := builderMethod? method then
          discard
            ((arguments.map Object.toOperand).assign found.signature)
      match current, method with
      | .builder number, "prune" =>
          match closureAt? ["condition"] "condition" arguments with
          | some body =>
              checked
              let query := (← session).query number
              let result ← evaluate fuel (loopReferences query) body
              run (fillClosures result arguments)
          | none => run arguments
      | .builder _, "update_with_old" =>
          let parameters := ["document", "updates_fn", "collection"]
          match closureAt? parameters "updates_fn" arguments with
          | some body =>
              checked
              let result ← evaluate fuel [.previous] body
              run (fillClosures result arguments)
          | none => throw (.type .mismatch)
      | _, _ => run arguments

/-- All steps of a nested script, which knows the names saved so far; an error in
one of them ends it. -/
def runAll (fuel : Nat) (scope : List Object) (current : Handle)
    (steps : List Step) : Action Handle := do
  match fuel with
  | 0 => throw (.type .mismatch)
  | fuel + 1 =>
      steps.foldlM
        (fun current step => do
          return (← runStep fuel scope current step).1)
        current

end

/-- Four levels of evaluation suffice for each level of nesting. -/
def fuelFor (depth : Nat) : Nat :=
  4 * depth + 4

/-- The operand that a term stands for. -/
def operandOf (term : Term) : Action (Operand Nat) := do
  return (← evaluate (fuelFor term.depth) [] term).toOperand

/-- Performs a step of the outermost script. -/
def perform (current : Handle) (step : Step) : Action (Handle × Answer) :=
  runStep (fuelFor step.depth) [] current step

end Script

end ArangoQuery
