import ArangoQuery.Builder.Builder
import ArangoQuery.Builder.Combinator
import ArangoQuery.Builder.Count
import ArangoQuery.Builder.Function
import ArangoQuery.Builder.Operand
import ArangoQuery.Builder.Session
import ArangoQuery.Builder.Signature
import ArangoQuery.Builder.Stage
import ArangoQuery.Check.Checked
import ArangoQuery.Check.Clause
import ArangoQuery.Check.Field
import ArangoQuery.Check.Model
import ArangoQuery.Check.Node
import ArangoQuery.Diagnostics.Build
import ArangoQuery.Diagnostics.Event
import ArangoQuery.Diagnostics.Incident
import ArangoQuery.Diagnostics.Settings
import ArangoQuery.Fault.Configuration
import ArangoQuery.Fault.Details
import ArangoQuery.Fault.Error
import ArangoQuery.Number.Binary64
import ArangoQuery.Number.Numeral
import ArangoQuery.Number.Shortest
import ArangoQuery.Number.Spelling
import ArangoQuery.Proofs.AcceptedSnapshots
import ArangoQuery.Proofs.CallOrder
import ArangoQuery.Proofs.Changes
import ArangoQuery.Proofs.ClosedTexts
import ArangoQuery.Proofs.Compilability
import ArangoQuery.Proofs.DataIndependence
import ArangoQuery.Proofs.DeclaredLoops
import ArangoQuery.Proofs.DocumentKeys
import ArangoQuery.Proofs.EmbeddedBuilders
import ArangoQuery.Proofs.Erasure
import ArangoQuery.Proofs.FailedCalls
import ArangoQuery.Proofs.Filling
import ArangoQuery.Proofs.FreshNames
import ArangoQuery.Proofs.GroupingRuns
import ArangoQuery.Proofs.GroupingSplit
import ArangoQuery.Proofs.HandledErrors
import ArangoQuery.Proofs.Hygiene
import ArangoQuery.Proofs.InlinedText
import ArangoQuery.Proofs.KeptValues
import ArangoQuery.Proofs.LastValue
import ArangoQuery.Proofs.LineWords
import ArangoQuery.Proofs.LoggedData
import ArangoQuery.Proofs.Lookup
import ArangoQuery.Proofs.LoopLines
import ArangoQuery.Proofs.Mentions
import ArangoQuery.Proofs.Moves
import ArangoQuery.Proofs.NestedText
import ArangoQuery.Proofs.Nesting
import ArangoQuery.Proofs.Numbering
import ArangoQuery.Proofs.OperandData
import ArangoQuery.Proofs.OperationCollections
import ArangoQuery.Proofs.OperationLines
import ArangoQuery.Proofs.ParameterDiscovery
import ArangoQuery.Proofs.ParametersAndData
import ArangoQuery.Proofs.Permanence
import ArangoQuery.Proofs.Pieces
import ArangoQuery.Proofs.PlaceholderTexts
import ArangoQuery.Proofs.Reading
import ArangoQuery.Proofs.Renaming
import ArangoQuery.Proofs.RenderedParts
import ArangoQuery.Proofs.ResolvedArguments
import ArangoQuery.Proofs.Restorable
import ArangoQuery.Proofs.Restoring
import ArangoQuery.Proofs.ResultLines
import ArangoQuery.Proofs.ScriptMoves
import ArangoQuery.Proofs.SearchedViews
import ArangoQuery.Proofs.Separators
import ArangoQuery.Proofs.SnapshotClauses
import ArangoQuery.Proofs.SnapshotData
import ArangoQuery.Proofs.SnapshotFields
import ArangoQuery.Proofs.SnapshotNames
import ArangoQuery.Proofs.SnapshotRoundTrip
import ArangoQuery.Proofs.SnapshotSchema
import ArangoQuery.Proofs.StageClauses
import ArangoQuery.Proofs.StageReturns
import ArangoQuery.Proofs.StageRuns
import ArangoQuery.Proofs.StartVertices
import ArangoQuery.Proofs.StoreCalls
import ArangoQuery.Proofs.StringLiterals
import ArangoQuery.Proofs.Substitution
import ArangoQuery.Proofs.Successes
import ArangoQuery.Proofs.TextEnds
import ArangoQuery.Proofs.TraversalLoops
import ArangoQuery.Proofs.Tree
import ArangoQuery.Proofs.Typed
import ArangoQuery.Proofs.TypedArguments
import ArangoQuery.Proofs.TypedCalls
import ArangoQuery.Proofs.UniqueReading
import ArangoQuery.Proofs.UnsetFields
import ArangoQuery.Proofs.UpdateCollections
import ArangoQuery.Proofs.WrittenLines
import ArangoQuery.Query.Clause
import ArangoQuery.Query.Description
import ArangoQuery.Query.Expr
import ArangoQuery.Query.Keyword
import ArangoQuery.Query.Node
import ArangoQuery.Query.Slot
import ArangoQuery.Rendering.Clause
import ArangoQuery.Rendering.Compiled
import ArangoQuery.Rendering.Inlined
import ArangoQuery.Rendering.Invariant
import ArangoQuery.Rendering.Store
import ArangoQuery.Rendering.Template
import ArangoQuery.Script.Method
import ArangoQuery.Script.Question
import ArangoQuery.Script.Run
import ArangoQuery.Script.Term
import ArangoQuery.Snapshot.Dump
import ArangoQuery.Snapshot.Parameters
import ArangoQuery.Text.CodeRange
import ArangoQuery.Text.Inspect
import ArangoQuery.Text.Name
import ArangoQuery.Text.Printable
import ArangoQuery.Text.Quoted
import ArangoQuery.Text.Word
import ArangoQuery.Value.Basic
import ArangoQuery.Value.Display
import ArangoQuery.Value.Equality
import ArangoQuery.Value.Json
import ArangoQuery.Value.Reader
