import SchemaForms.Json.Reader
import SchemaForms.Schema.Decode
import SchemaForms.Fixture.Suite
import SchemaForms.Main
import SchemaForms.Proofs.RuleLayers
import SchemaForms.Proofs.FlattenedReferences
import SchemaForms.Proofs.LabelReferences
import SchemaForms.Proofs.FormShape
import SchemaForms.Proofs.PreparePass
import SchemaForms.Proofs.BatchGeneration
import SchemaForms.Proofs.FormFailures
import SchemaForms.Proofs.FormLocality
import SchemaForms.Proofs.ShownProperties
import SchemaForms.Proofs.ScalarRules
import SchemaForms.Proofs.FieldTitles
import SchemaForms.Proofs.LabelCoverage
import SchemaForms.Proofs.FieldNames
import SchemaForms.Proofs.FormRoots
import SchemaForms.Proofs.ArtifactFiles
import SchemaForms.Proofs.SchemaDocuments
import SchemaForms.Proofs.RuleLookups
import SchemaForms.Proofs.Directories
import SchemaForms.Proofs.TargetRuns
import SchemaForms.Proofs.LocaleStructure
import SchemaForms.Proofs.MergedPaths
import SchemaForms.Proofs.Replacements
import SchemaForms.Proofs.RuleDecoding
import SchemaForms.Proofs.ColumnOrder
import SchemaForms.Proofs.ColumnPlaces
import SchemaForms.Proofs.PropertyOverlay
import SchemaForms.Proofs.FlattenPasses
import SchemaForms.Proofs.PrefixedFields
import SchemaForms.Proofs.FixtureVerdicts
import SchemaForms.Proofs.CaseFiles
import SchemaForms.Proofs.CommandRuns
import SchemaForms.Proofs.ParentPaths
import SchemaForms.Proofs.ProjectSearch
import SchemaForms.Proofs.UnknownMembers
import SchemaForms.Proofs.AttributeLayout
import SchemaForms.Proofs.RepeatedLayers
import SchemaForms.Proofs.LiteralLabels
