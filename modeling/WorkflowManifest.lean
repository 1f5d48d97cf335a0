import WorkflowManifest.Convert
import WorkflowManifest.Document
import WorkflowManifest.Job
import WorkflowManifest.Main
import WorkflowManifest.Manifest
import WorkflowManifest.Pipeline
import WorkflowManifest.Program
import WorkflowManifest.Proofs.CommandLine.RoundTrip
import WorkflowManifest.Proofs.CommandLine.Spelling
import WorkflowManifest.Proofs.CommandLine.Values
import WorkflowManifest.Proofs.Convert.Again
import WorkflowManifest.Proofs.Convert.Projection
import WorkflowManifest.Proofs.Decimal.Digits
import WorkflowManifest.Proofs.Decimal.Overflow
import WorkflowManifest.Proofs.Decimal.ReadBack
import WorkflowManifest.Proofs.Document.Grammar
import WorkflowManifest.Proofs.Document.Steps
import WorkflowManifest.Proofs.Document.Truncation
import WorkflowManifest.Proofs.Document.Ways
import WorkflowManifest.Proofs.Entries
import WorkflowManifest.Proofs.FileSystem.Changes
import WorkflowManifest.Proofs.Job.AllOrNothing
import WorkflowManifest.Proofs.Json.Alike
import WorkflowManifest.Proofs.Json.Completeness
import WorkflowManifest.Proofs.Json.Exact
import WorkflowManifest.Proofs.Json.Fits
import WorkflowManifest.Proofs.Json.Fixpoint
import WorkflowManifest.Proofs.Json.Grammar
import WorkflowManifest.Proofs.Json.Meaning
import WorkflowManifest.Proofs.Json.NumberGrammar
import WorkflowManifest.Proofs.Json.NumberText
import WorkflowManifest.Proofs.Json.ReaderInvariant
import WorkflowManifest.Proofs.Json.Rebuilt
import WorkflowManifest.Proofs.Json.RoundTrip
import WorkflowManifest.Proofs.Json.Runs
import WorkflowManifest.Proofs.Json.Same
import WorkflowManifest.Proofs.Json.Soundness
import WorkflowManifest.Proofs.Json.StringGrammar
import WorkflowManifest.Proofs.Json.Unwritable
import WorkflowManifest.Proofs.Json.WrittenNumber
import WorkflowManifest.Proofs.Manifest.Failure
import WorkflowManifest.Proofs.Manifest.Faithful
import WorkflowManifest.Proofs.Manifest.Framing
import WorkflowManifest.Proofs.Manifest.Layout
import WorkflowManifest.Proofs.Pipeline.Endings
import WorkflowManifest.Proofs.Settings
import WorkflowManifest.Proofs.Slug.Shape
import WorkflowManifest.Proofs.Slug.Words
import WorkflowManifest.Proofs.Text.Lines
import WorkflowManifest.Proofs.Yaml.Faithful
import WorkflowManifest.Proofs.Yaml.Indentation
import WorkflowManifest.Proofs.Yaml.LiteralBlock
import WorkflowManifest.Proofs.Yaml.Number
import WorkflowManifest.Proofs.Yaml.Quoted
import WorkflowManifest.Proofs.Yaml.Reader
import WorkflowManifest.Proofs.Yaml.Token
import WorkflowManifest.Resource
import WorkflowManifest.Proofs.Convert.Order
import WorkflowManifest.Proofs.Job.Steps
import WorkflowManifest.Proofs.Program.Endings
import WorkflowManifest.Proofs.Decimal.Rounding
import WorkflowManifest.Proofs.Decimal.FewDigits
import WorkflowManifest.Proofs.Convert.Truth
import WorkflowManifest.Proofs.Json.Shell
import WorkflowManifest.Proofs.Yaml.Spot
import WorkflowManifest.Proofs.Manifest.Place
import WorkflowManifest.Proofs.Manifest.Integers
import WorkflowManifest.Proofs.Json.Rounded
import WorkflowManifest.Proofs.Manifest.Numbers
import WorkflowManifest.Proofs.Yaml.DecodedBlock
import WorkflowManifest.Proofs.Yaml.Decoded
import WorkflowManifest.Proofs.Manifest.Strings
import WorkflowManifest.Proofs.Yaml.Escapes
import WorkflowManifest.Proofs.Manifest.Shown
import WorkflowManifest.Proofs.Convert.Warnings
import WorkflowManifest.Proofs.Json.Printed
import WorkflowManifest.Proofs.Json.Sorted
import WorkflowManifest.Proofs.Document.Equality
import WorkflowManifest.Proofs.Document.Removal
import WorkflowManifest.Proofs.Manifest.Rendering
import WorkflowManifest.Proofs.CommandLine.Occurrence
import WorkflowManifest.Proofs.Manifest.Reference
import WorkflowManifest.Proofs.CommandLine.Reference
