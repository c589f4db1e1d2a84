import TraitSchema.AdminType
import TraitSchema.Aggregate
import TraitSchema.Binary64
import TraitSchema.CommandLine
import TraitSchema.Config.Basic
import TraitSchema.Config.Quoted
import TraitSchema.Config.Reader
import TraitSchema.Conformance.Checks
import TraitSchema.Conformance.Definitions
import TraitSchema.Conformance.Report
import TraitSchema.Conformance.Run
import TraitSchema.Conversion
import TraitSchema.Declaration
import TraitSchema.Event
import TraitSchema.Files.Error
import TraitSchema.Files.Path
import TraitSchema.Files.System
import TraitSchema.Files.Tree
import TraitSchema.Fragment
import TraitSchema.Generation
import TraitSchema.Json.Basic
import TraitSchema.Json.Printer
import TraitSchema.Json.Reader
import TraitSchema.Json.Union
import TraitSchema.KeyMap.Records
import TraitSchema.KeyMap.Segments
import TraitSchema.Main
import TraitSchema.Operation
import TraitSchema.Operator
import TraitSchema.Pattern.Atom
import TraitSchema.Pattern.Bracket
import TraitSchema.Pattern.Check
import TraitSchema.Pattern.Gap
import TraitSchema.Pattern.Meaning
import TraitSchema.Pattern.Parser
import TraitSchema.Pattern.Property
import TraitSchema.Pattern.Size
import TraitSchema.Pattern.Syntax
import TraitSchema.Programs
import TraitSchema.Proofs.AcceptedDeclarations
import TraitSchema.Proofs.BucketTables
import TraitSchema.Proofs.CamelNames
import TraitSchema.Proofs.ConformingSchemas
import TraitSchema.Proofs.ConversionSteps
import TraitSchema.Proofs.ConvertedFragments
import TraitSchema.Proofs.DeclaredNames
import TraitSchema.Proofs.DefinedEntries
import TraitSchema.Proofs.DefinitionBodies
import TraitSchema.Proofs.DefinitionIndex
import TraitSchema.Proofs.DefinitionNames
import TraitSchema.Proofs.DiscoveredPaths
import TraitSchema.Proofs.DocumentMembers
import TraitSchema.Proofs.EmittedDefinitions
import TraitSchema.Proofs.FailedRuns
import TraitSchema.Proofs.FamilyMembers
import TraitSchema.Proofs.FamilyPatterns
import TraitSchema.Proofs.FileChanges
import TraitSchema.Proofs.FileGrowth
import TraitSchema.Proofs.FileListings
import TraitSchema.Proofs.FirstDeclaration
import TraitSchema.Proofs.FirstPlacement
import TraitSchema.Proofs.FirstViolation
import TraitSchema.Proofs.FlagRecords
import TraitSchema.Proofs.FragmentChecks
import TraitSchema.Proofs.FragmentFiles
import TraitSchema.Proofs.GeneratedSchemas
import TraitSchema.Proofs.InsertionRuns
import TraitSchema.Proofs.KeptTraits
import TraitSchema.Proofs.Layouts
import TraitSchema.Proofs.Letters
import TraitSchema.Proofs.LinePlaces
import TraitSchema.Proofs.ListSteps
import TraitSchema.Proofs.ListedSupport
import TraitSchema.Proofs.Listings
import TraitSchema.Proofs.OperatorCodes
import TraitSchema.Proofs.OptionsAndPermissions
import TraitSchema.Proofs.PartReadings
import TraitSchema.Proofs.PropertyNames
import TraitSchema.Proofs.ReadDocuments
import TraitSchema.Proofs.ReadingSteps
import TraitSchema.Proofs.RecordLayout
import TraitSchema.Proofs.RecordReaders
import TraitSchema.Proofs.RecordReadings
import TraitSchema.Proofs.RecordRoundTrip
import TraitSchema.Proofs.RecordScan
import TraitSchema.Proofs.RecordTexts
import TraitSchema.Proofs.Requirements
import TraitSchema.Proofs.Reruns
import TraitSchema.Proofs.RunOutcomes
import TraitSchema.Proofs.Scanning
import TraitSchema.Proofs.SegmentPlaces
import TraitSchema.Proofs.SegmentSets
import TraitSchema.Proofs.SegmentTable
import TraitSchema.Proofs.SeparateDefinitions
import TraitSchema.Proofs.SettledRequirements
import TraitSchema.Proofs.SharedLines
import TraitSchema.Proofs.StorableSchemas
import TraitSchema.Proofs.StoredDocuments
import TraitSchema.Proofs.SuccessfulRuns
import TraitSchema.Proofs.SupportLookup
import TraitSchema.Proofs.SupportSets
import TraitSchema.Proofs.TableContents
import TraitSchema.Proofs.Trace
import TraitSchema.Proofs.UnionGroupings
import TraitSchema.Proofs.UnionLaws
import TraitSchema.Proofs.UnionPaths
import TraitSchema.Proofs.UnitedDefinitions
import TraitSchema.Proofs.WrittenDocuments
import TraitSchema.Proofs.WrittenScalars
import TraitSchema.Proofs.WrittenSchemas
import TraitSchema.RunError
import TraitSchema.SchemaError
import TraitSchema.Support
import TraitSchema.Table
import TraitSchema.Task
import TraitSchema.Text.Alphabetic
import TraitSchema.Text.Camel
import TraitSchema.Text.Case
import TraitSchema.Text.CaseTable
import TraitSchema.Text.Cased
import TraitSchema.Text.Printable
import TraitSchema.Text.Quoted
import TraitSchema.Text.Ranges
import TraitSchema.Text.Scan
import TraitSchema.Text.Search
import TraitSchema.Text.Space
import TraitSchema.Text.Word
import TraitSchema.Traced
import TraitSchema.TypeTag
