import ArangoQuery.Fault.Details
import ArangoQuery.Value.Display

/-!
# Why a record cannot be compiled

Every way in which a record is not in a compilable state has a constructor of its
own; its message and its details are functions of the cause.
-/

namespace ArangoQuery

/-- The two depths of a traversal. -/
inductive DepthEnd where
  | minimum
  | maximum
  deriving DecidableEq, Repr

/-- The fields of a record that hold a traversal or a source. -/
inductive SourceField where
  | source
  | joins
  | traversals
  deriving DecidableEq, Repr

/-- The two counts of a record. -/
inductive CountField where
  | limit
  | offset
  deriving DecidableEq, Repr

/-- The two directions of a window. -/
inductive WindowSide where
  | preceding
  | following
  deriving DecidableEq, Repr

inductive ConfigurationFault where
  | loopWithoutSource (loop : String)
  | joinWithoutSource (loop : String)
  | malformedPlaceholder (field : SourceField) (text : String)
  | viewIsNotSource (view : String) (source : Value)
  | negativeDepth (field : SourceField) (side : DepthEnd) (depth : Int)
  | crossedDepths (field : SourceField) (minimum maximum : Int)
  | operationWithoutCollection
  | updateWithoutCollection
  | malformedCount (field : CountField) (value : Value)
  | offsetWithoutLimit
  | negativeBound (side : WindowSide) (count : Int)
  | boundTwice (name : Scalar)

namespace DepthEnd

def text : DepthEnd → String
  | .minimum => "minDepth"
  | .maximum => "maxDepth"

end DepthEnd

namespace SourceField

def text : SourceField → String
  | .source => "source"
  | .joins => "joins"
  | .traversals => "traversals"

end SourceField

namespace CountField

def text : CountField → String
  | .limit => "limit"
  | .offset => "offset"

def upperText : CountField → String
  | .limit => "LIMIT"
  | .offset => "OFFSET"

end CountField

namespace WindowSide

def text : WindowSide → String
  | .preceding => "preceding"
  | .following => "following"

end WindowSide

namespace ConfigurationFault

def message : ConfigurationFault → String
  | .loopWithoutSource loop => "FOR " ++ loop ++ " requires an IN clause"
  | .joinWithoutSource loop => "FOR " ++ loop ++ " requires an IN clause"
  | .malformedPlaceholder _ text =>
      "Invalid bind parameter placeholder: " ++ Inspect.text text
  | .viewIsNotSource view source =>
      "SEARCH view " ++ Inspect.text view ++ " does not match the FOR source " ++
        source.inspect
  | .negativeDepth _ side _ => side.text ++ " must be a non-negative integer"
  | .crossedDepths _ minimum maximum =>
      "maxDepth " ++ toString maximum ++ " is smaller than minDepth " ++
        toString minimum
  | .operationWithoutCollection => "All operations require a collection"
  | .updateWithoutCollection => "All updates require a collection"
  | .malformedCount field _ =>
      field.upperText ++ " must be a non-negative integer"
  | .offsetWithoutLimit => "OFFSET requires a LIMIT"
  | .negativeBound side _ =>
      "WINDOW " ++ side.text ++ " must be a non-negative integer"
  | .boundTwice name =>
      "Bind variable @" ++ name.display ++
        " is already bound to a different value"

def breach : ConfigurationFault → Breach
  | .loopWithoutSource _ =>
      { field := some "source", constraint := some "required" }
  | .joinWithoutSource _ =>
      { field := some "joins", constraint := some "required" }
  | .malformedPlaceholder field text =>
      { field := some field.text, actual := .text text,
        constraint := some "@name or @@name" }
  | .viewIsNotSource _ _ =>
      { field := some "searches",
        constraint := some "view is the FOR source" }
  | .negativeDepth field _ depth =>
      { field := some field.text, actual := .int depth, expected := some "int",
        constraint := some ">= 0" }
  | .crossedDepths field _ maximum =>
      { field := some field.text, actual := .int maximum,
        constraint := some ">= minDepth" }
  | .operationWithoutCollection =>
      { field := some "operations", constraint := some "collection required" }
  | .updateWithoutCollection =>
      { field := some "updatesEnhanced",
        constraint := some "collection required" }
  | .malformedCount field value =>
      { field := some field.text, actual := value, expected := some "int",
        constraint := some ">= 0" }
  | .offsetWithoutLimit =>
      { field := some "offset", constraint := some "limit required" }
  | .negativeBound side count =>
      { field := some side.text, actual := .int count,
        constraint := some ">= 0" }
  | .boundTwice name =>
      { field := some "bindVars", actual := .scalar name,
        constraint := some "unique names" }

def details (fault : ConfigurationFault) : ErrorDetails :=
  { source := "compiler", operation := "build", breach := some fault.breach }

end ConfigurationFault

end ArangoQuery
