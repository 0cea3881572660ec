import ArangoQuery.Text.Quoted
import ArangoQuery.Rendering.Template
import ArangoQuery.Rendering.Invariant

/-!
# Lines of clauses

Each clause of a record, with its expressions already turned into templates,
becomes one or more lines.  `Record.groups` puts them in the order that the query
language requires, whatever the order in which they were declared.
-/

namespace ArangoQuery

open Template

/-- A document handle is quoted; placeholders, quoted texts and names without a
slash stand as they are. -/
def vertexText (vertex : String) : String :=
  if startsWithAt vertex || vertex.toList.head? = some '"' ||
      !vertex.toList.contains '/' then vertex
  else Quoted.quote vertex

def Document.template (members : Document Template) : Template :=
  enclose "\x7b"
    (intercalate ", " (List.map
      (fun (name, part) => Piece.text (Quoted.quote name ++ ": ") :: part)
      members))
    "\x7d"

/-- The options of a loop or a search, if there are any. -/
def optionsTemplate (options : Option (Document Template)) : Template :=
  match options with
  | none => []
  | some options => Piece.text " OPTIONS " :: options.template

namespace GraphSource

variable {ε : Type}

/-- A missing maximum is the minimum. -/
def depthRange (source : GraphSource ε) : String :=
  toString source.minDepth ++ ".." ++
    toString (source.maxDepth.getD source.minDepth)

def head (source : GraphSource ε) : String :=
  source.depthRange ++ " " ++ source.direction.text ++ " " ++
    vertexText source.startVertex ++ " GRAPH " ++ Quoted.quote source.graph

end GraphSource

def rangeText (first last : Int) : String :=
  toString first ++ ".." ++ toString last

def Source.template : Source Template → Template
  | .text name => ofText name
  | .range first last => ofText (rangeText first last)
  | .graph traversal =>
      Piece.text traversal.head :: optionsTemplate traversal.options

def Slot.sourceTemplate : Slot (Source Template) → Template
  | .proper source => source.template
  | .stray content => ofText content.display

def loopLine (loop : String) (source : Slot (Source Template)) : Template :=
  Piece.text ("FOR " ++ loop ++ " IN ") :: source.sourceTemplate

/-- The position of the first member that is not a text decides the fault. -/
def withLine (position : Nat) :
    List (Slot String) → Except TypeFault (List String)
  | [] => .ok []
  | .stray content :: _ =>
      .error (.joinOfNonText position content.typeName)
  | .proper name :: rest => do
      let rest ← withLine (position + 1) rest
      return name :: rest

def Join.lines (join : Join Template) : List Template :=
  match join.source with
  | some source =>
      if Slot.isPresentSource join.source then [loopLine join.loop source]
      else []
  | none => []

def letLines (lets : Option (Document Template)) : List Template :=
  List.map
    (fun (name, part) => Piece.text ("LET " ++ name ++ " = ") :: part)
    (Record.members lets)

def filterLines (conditions : Option (List Template)) : List Template :=
  (Record.members conditions).map (Piece.text "FILTER " :: ·)

def pruneLines (conditions : Option (List Template)) : List Template :=
  (Record.members conditions).map (Piece.text "PRUNE " :: ·)

/-- A search without conditions is not written. -/
def Search.lines (search : Search Template) : List Template :=
  if search.conditions.isEmpty then []
  else
    [Piece.text "SEARCH " :: intercalate " AND " search.conditions ++
      optionsTemplate search.options]

def assignments (document : Document Template) : Template :=
  intercalate ", " (List.map
    (fun (name, part) => Piece.text (name ++ " = ") :: part) document)

def Collect.lines (collect : Collect Template) : List Template :=
  [if collect.keys.isEmpty then ofText "COLLECT"
    else Piece.text "COLLECT " :: assignments collect.keys] ++
  (if collect.aggregates.isEmpty then []
    else [Piece.text "  AGGREGATE " :: assignments collect.aggregates]) ++
  match collect.into with
  | none => []
  | some group =>
      if group = "" then []
      else
        ofText ("  INTO " ++ group) ::
          match collect.keep with
          | none => []
          | some [] => []
          | some names => [ofText ("  KEEP " ++ ", ".intercalate names)]

def Traversal.line (traversal : Traversal) : Template :=
  let depth (word : String) : Option Int → String
    | none => ""
    | some depth => word ++ toString depth
  ofText ("TRAVERSE " ++ traversal.loop ++ " IN " ++ traversal.path ++
    depth " MINDEPTH " traversal.minDepth ++
    depth " MAXDEPTH " traversal.maxDepth)

def SortKey.text (key : SortKey) : String :=
  key.field ++ " " ++ key.direction.text

/-- A bound given by a word is quoted. -/
def Bound.quotedText : Bound → String
  | .unbounded => "\"" ++ Bound.text .unbounded ++ "\""
  | .rows count => toString count

def Window.lines (window : Window Template) : List Template :=
  let bound (side : WindowSide) : Option Bound → List String
    | none => []
    | some bound => [side.text ++ ": " ++ bound.quotedText]
  let bounds :=
    bound .preceding window.preceding ++ bound .following window.following
  let name :=
    match window.name with
    | none => ""
    | some name => if name = "" then "" else name ++ " = "
  [ofText ("WINDOW \x7b " ++ ", ".intercalate bounds ++ " \x7d"),
    Piece.text ("  AGGREGATE " ++ name) :: window.aggregation]

def Operation.line (operation : Operation Template) : Template :=
  let collection :=
    (operation.collection.map Slot.displayText).getD "None"
  let target := operation.target.getD "None"
  match operation.kind, operation.document with
  | .insert, document =>
      Piece.text "INSERT " :: document.getD (ofText "\x7b\x7d") ++
        ofText (" INTO " ++ collection)
  | .remove, _ | _, none =>
      ofText (operation.kind.text ++ " " ++ target ++ " IN " ++ collection)
  | kind, some document =>
      Piece.text (kind.text ++ " " ++ target ++ " WITH ") :: document ++
        ofText (" IN " ++ collection)

def Upsert.lines (upsert : Upsert Template) : List Template :=
  [Piece.text "UPSERT " :: upsert.search,
    Piece.text "INSERT " :: upsert.insert,
    Piece.text "UPDATE " :: upsert.update,
    ofText ("IN " ++ upsert.collection)]

/-- Unless the query declares a result, an update that looks at the previous
revision returns both revisions. -/
def Update.lines (hasResult : Bool) (update : Update Template) :
    List Template :=
  [Piece.text "UPDATE " :: update.document,
    Piece.text "WITH " :: update.fields,
    ofText ("IN " ++ update.collection.getD "None")] ++
  if update.oldReference && !hasResult then
    [ofText "RETURN \x7b old: OLD, new: NEW \x7d"]
  else []

namespace Record

def withLines (record : Record Template) : List Template :=
  match members record.withCollections with
  | [] => []
  | collections =>
      match withLine 0 collections with
      | .ok names => [ofText ("WITH " ++ ", ".intercalate names)]
      | .error fault => [[.halt (.type fault)]]

def loopLines (record : Record Template) : List Template :=
  match record.source with
  | none => []
  | some source =>
      if Slot.isPresentSource record.source then
        match record.loopNames, record.loop with
        | some loop, _ => [loopLine (", ".intercalate loop.names) source]
        | none, some loop =>
            if Slot.isPresentText (some loop) then
              [loopLine loop.displayText source]
            else []
        | none, none => []
      else []

def sortLines (record : Record Template) : List Template :=
  match members record.sorts with
  | [] => []
  | keys =>
      [ofText ("SORT " ++ ", ".intercalate (keys.map SortKey.text))]

def countText : Slot Int → String
  | .proper count => toString count
  | .stray content => content.display

def limitLines (record : Record Template) : List Template :=
  match record.limit, record.offset with
  | none, _ => []
  | some limit, some offset =>
      [ofText ("LIMIT " ++ countText offset ++ ", " ++ countText limit)]
  | some limit, none => [ofText ("LIMIT " ++ countText limit)]

def resultLines (record : Record Template) : List Template :=
  match record.result with
  | none => []
  | some result =>
      [Piece.text (if record.distinct = some true then "RETURN DISTINCT "
        else "RETURN ") :: result]

/-- The lines of every kind of clause, in the order of the language. -/
def groups (record : Record Template) : List (List Template) :=
  [record.withLines,
    record.loopLines,
    (members record.joins).flatMap Join.lines,
    letLines record.letsBeforeCollect,
    (members record.searches).flatMap Search.lines,
    filterLines record.filters,
    (members record.collects).flatMap Collect.lines,
    (members record.traversals).map Traversal.line,
    pruneLines record.prunes,
    letLines record.letsAfterCollect,
    filterLines record.filtersAfterCollect,
    record.sortLines,
    (members record.windows).flatMap Window.lines,
    record.limitLines,
    (members record.operations).map Operation.line,
    (members record.upserts).flatMap Upsert.lines,
    (members record.updates).flatMap (Update.lines record.result.isSome),
    record.resultLines]

def template (record : Record Template) : Template :=
  intercalate "\n" record.groups.flatten

/-- How many kinds of clauses are written. -/
def clauseCount (record : Record Template) : Nat :=
  (record.groups.filter (!·.isEmpty)).length

end Record

end ArangoQuery
