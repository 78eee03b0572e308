import RecordLens.Main
import RecordLens.Optic.Record
import RecordLens.Optic.Workbench
import RecordLens.Proofs.Splice
import RecordLens.Proofs.Weaving
import RecordLens.Plan.Running
import RecordLens.Proofs.Attributes
import RecordLens.Proofs.Construction
import RecordLens.Proofs.Derivation
import RecordLens.Proofs.GeneratedLens
import RecordLens.Proofs.Accounting
import RecordLens.Proofs.SecondRun
import RecordLens.Proofs.Lines
import RecordLens.Proofs.Reading
import RecordLens.Plan.Registering
import RecordLens.Proofs.Composition
import RecordLens.Proofs.GeneratedRegistry
import RecordLens.Proofs.Places
import RecordLens.Proofs.Preservation
import RecordLens.Proofs.CodeLines
import RecordLens.Proofs.TokenPlaces
import RecordLens.Proofs.Forward
import RecordLens.Proofs.GrammarForward
import RecordLens.Proofs.StatementPlaces
import RecordLens.Proofs.LineOrder
import RecordLens.Proofs.Insertions
import RecordLens.Proofs.ClassPlaces
import RecordLens.Proofs.FieldPaths
import RecordLens.Proofs.AssignmentPlaces
import RecordLens.Proofs.WrittenFiles
import RecordLens.Proofs.InsertionPlaces
import RecordLens.Proofs.FieldInsertions
import RecordLens.Proofs.Failures
import RecordLens.Proofs.ConstructorNames
import RecordLens.Proofs.RecordShapes
import RecordLens.Proofs.StatementOrder
import RecordLens.Proofs.ImportPlace
import RecordLens.Proofs.FreshFiles
import RecordLens.Proofs.ByteInsertions
import RecordLens.Proofs.Reconciliation
import RecordLens.Proofs.InferredInsertions
import RecordLens.Proofs.JoinedBodies
import RecordLens.Proofs.VisibilityTuples
import RecordLens.Proofs.DefinitionPaths
import RecordLens.Proofs.FieldExtraction
import RecordLens.Proofs.MissingImports
import RecordLens.Proofs.LensPairs
import RecordLens.Proofs.FocusUpdates
import RecordLens.Proofs.KeptRegistries
import RecordLens.Proofs.LiteralTypes
import RecordLens.Proofs.ByteColumns
import RecordLens.Proofs.MarkedClasses
