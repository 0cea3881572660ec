import ArangoQuery.Fault.Configuration
import ArangoQuery.Query.Description
import ArangoQuery.Query.Slot

/-!
# Compilable records

`Query.faults` lists everything that keeps a record from being compiled, in the
order in which it is checked; the first of them is reported.  Subqueries are
checked on their own when they are rendered.
-/

namespace ArangoQuery

variable {ε : Type}

namespace ConfigurationFault

/-- A depth that is not negative, if it is given. -/
def ofDepth (field : SourceField) (side : DepthEnd) (depth : Option Int) :
    List ConfigurationFault :=
  match depth with
  | some depth =>
      if depth < 0 then [.negativeDepth field side depth] else []
  | none => []

def ofDepths (field : SourceField) (minimum maximum : Option Int) :
    List ConfigurationFault :=
  ofDepth field .minimum minimum ++ ofDepth field .maximum maximum ++
    match minimum, maximum with
    | some minimum, some maximum =>
        if maximum < minimum then [.crossedDepths field minimum maximum]
        else []
    | _, _ => []

def ofSource (field : SourceField) (source : Option (Slot (Source ε))) :
    List ConfigurationFault :=
  match source with
  | some (.proper (.graph traversal)) =>
      ofDepths field (some traversal.minDepth) traversal.maxDepth
  | some (.proper (.text name)) =>
      if startsWithAt name && !isPlaceholder name then
        [.malformedPlaceholder field name]
      else []
  | _ => []

def ofCount (field : CountField) (count : Option (Slot Int)) :
    List ConfigurationFault :=
  match count with
  | some (.proper count) =>
      if count < 0 then [.malformedCount field (.int count)] else []
  | some (.stray value) => [.malformedCount field value]
  | none => []

def ofBound (side : WindowSide) (bound : Option Bound) :
    List ConfigurationFault :=
  match bound with
  | some (.rows count) =>
      if count < 0 then [.negativeBound side count] else []
  | _ => []

end ConfigurationFault

open ConfigurationFault

namespace Query

def loopFaults (query : Query) : List ConfigurationFault :=
  let hasSource := Slot.isPresentSource query.source
  (match query.loop with
    | some loop =>
        if Slot.isPresentText (some loop) && !hasSource then
          [.loopWithoutSource loop.displayText]
        else []
    | none => []) ++
  (match query.loopNames with
    | some loop =>
        if hasSource then []
        else [.loopWithoutSource (", ".intercalate loop.names)]
    | none => []) ++
  (Record.members query.joins).flatMap fun join =>
    if Slot.isPresentSource join.source then []
    else [.joinWithoutSource join.loop]

def sourceFaults (query : Query) : List ConfigurationFault :=
  ofSource .source query.source ++
    (Record.members query.joins).flatMap fun join =>
      ofSource .joins join.source

/-- Whatever the main loop iterates must be the view that is searched. -/
def searchFaults (query : Query) : List ConfigurationFault :=
  (Record.members query.searches).flatMap fun search =>
    match query.source with
    | none => []
    | some (.proper (.text name)) =>
        if search.view = name then []
        else [.viewIsNotSource search.view (.text name)]
    | some source =>
        [.viewIsNotSource search.view
          (source.describe Source.describeFully)]

def traversalFaults (query : Query) : List ConfigurationFault :=
  (Record.members query.traversals).flatMap fun traversal =>
    ofDepths .traversals traversal.minDepth traversal.maxDepth

def modificationFaults (query : Query) : List ConfigurationFault :=
  (if (Record.members query.operations).all fun operation =>
      Slot.isPresentText operation.collection
    then [] else [.operationWithoutCollection]) ++
  (if (Record.members query.updates).all fun update =>
      update.collection.getD "" != ""
    then [] else [.updateWithoutCollection])

def countFaults (query : Query) : List ConfigurationFault :=
  ofCount .limit query.limit ++ ofCount .offset query.offset ++
    if query.offset.isSome && query.limit.isNone then [.offsetWithoutLimit]
    else []

def windowFaults (query : Query) : List ConfigurationFault :=
  (Record.members query.windows).flatMap fun window =>
    ofBound .preceding window.preceding ++ ofBound .following window.following

/-- Everything that is wrong with a record, in the order of the checks. -/
def faults (query : Query) : List ConfigurationFault :=
  query.loopFaults ++ query.sourceFaults ++ query.searchFaults ++
    query.traversalFaults ++ query.modificationFaults ++ query.countFaults ++
    query.windowFaults

end Query

end ArangoQuery
