import FieldPipeline.Calendar.Moment
import FieldPipeline.Calendar.Reader
import FieldPipeline.CommandLine.Argument
import FieldPipeline.CommandLine.Command
import FieldPipeline.CommandLine.Files
import FieldPipeline.CommandLine.Markup
import FieldPipeline.CommandLine.Performing
import FieldPipeline.CommandLine.Program
import FieldPipeline.CommandLine.Report
import FieldPipeline.CommandLine.Shell
import FieldPipeline.Declaration.Basic
import FieldPipeline.Declaration.Change
import FieldPipeline.Declaration.Data
import FieldPipeline.Declaration.Reader
import FieldPipeline.Declaration.Shape
import FieldPipeline.Digest.Basic
import FieldPipeline.Entity.Basic
import FieldPipeline.Entity.Data
import FieldPipeline.Expression.Basic
import FieldPipeline.Expression.Builtin
import FieldPipeline.Expression.Check
import FieldPipeline.Expression.Evaluation
import FieldPipeline.Expression.Formula
import FieldPipeline.Expression.Literal
import FieldPipeline.Expression.Parser
import FieldPipeline.Expression.Token
import FieldPipeline.Failure.Basic
import FieldPipeline.Failure.Declaration
import FieldPipeline.Failure.Operation
import FieldPipeline.Fault
import FieldPipeline.Feature.AddedField
import FieldPipeline.Feature.Basic
import FieldPipeline.Feature.Builtin
import FieldPipeline.Feature.Deletion
import FieldPipeline.Feature.Localization
import FieldPipeline.Feature.Nullability
import FieldPipeline.Feature.StateTracking
import FieldPipeline.Field.Basic
import FieldPipeline.Field.Coercion
import FieldPipeline.Field.Generation
import FieldPipeline.Field.Kind
import FieldPipeline.Field.Serial
import FieldPipeline.Graph.Basic
import FieldPipeline.Graph.Order
import FieldPipeline.Graph.Values
import FieldPipeline.Json.Reader
import FieldPipeline.Json.Writer
import FieldPipeline.Linking.Build
import FieldPipeline.Linking.Draft
import FieldPipeline.Main
import FieldPipeline.Model.Basic
import FieldPipeline.Modifier.Activator
import FieldPipeline.Modifier.Basic
import FieldPipeline.Modifier.Builtin
import FieldPipeline.Modifier.Processor
import FieldPipeline.Modifier.Validator
import FieldPipeline.Number.Binary
import FieldPipeline.Number.Decimal
import FieldPipeline.Number.FloatOps
import FieldPipeline.Number.Layout
import FieldPipeline.Number.Numeral
import FieldPipeline.Number.Shortest
import FieldPipeline.Pattern.Address
import FieldPipeline.Pattern.Basic
import FieldPipeline.Pattern.Matching
import FieldPipeline.Pattern.Reader
import FieldPipeline.Preparation.Application
import FieldPipeline.Preparation.Basic
import FieldPipeline.Preparation.Course
import FieldPipeline.Preparation.Filling
import FieldPipeline.Preparation.Identification
import FieldPipeline.Proofs.Address
import FieldPipeline.Proofs.CommandLine.Findings
import FieldPipeline.Proofs.CommandLine.Validating
import FieldPipeline.Proofs.Declaration.Plain
import FieldPipeline.Proofs.Declaration.Reading
import FieldPipeline.Proofs.Declaration.Saving
import FieldPipeline.Proofs.Drawing
import FieldPipeline.Proofs.Effect
import FieldPipeline.Proofs.Entries
import FieldPipeline.Proofs.Expression.Reading
import FieldPipeline.Proofs.Expression.References
import FieldPipeline.Proofs.Expression.Refusing
import FieldPipeline.Proofs.Expression.Statics
import FieldPipeline.Proofs.Fitting
import FieldPipeline.Proofs.Graph.Arrangement
import FieldPipeline.Proofs.Graph.Edges
import FieldPipeline.Proofs.Graph.Reporting
import FieldPipeline.Proofs.Graph.Sorting
import FieldPipeline.Proofs.Holding
import FieldPipeline.Proofs.Json
import FieldPipeline.Proofs.Keeping
import FieldPipeline.Proofs.Linking.Build
import FieldPipeline.Proofs.Linking.Callbacks
import FieldPipeline.Proofs.Linking.Draft
import FieldPipeline.Proofs.Linking.Failing
import FieldPipeline.Proofs.Linking.Keying
import FieldPipeline.Proofs.Linking.Layout
import FieldPipeline.Proofs.Linking.Options
import FieldPipeline.Proofs.Linking.Spelling
import FieldPipeline.Proofs.Model.Accompaniment
import FieldPipeline.Proofs.Model.Atomicity
import FieldPipeline.Proofs.Model.Derivation
import FieldPipeline.Proofs.Model.Nullability
import FieldPipeline.Proofs.Model.Recognition
import FieldPipeline.Proofs.Model.Request
import FieldPipeline.Proofs.Model.Validity
import FieldPipeline.Proofs.Model.WriteOnce
import FieldPipeline.Proofs.Modifier.Faults
import FieldPipeline.Proofs.Modifier.Reading
import FieldPipeline.Proofs.Preparation.Addressing
import FieldPipeline.Proofs.Preparation.Application
import FieldPipeline.Proofs.Preparation.Checking
import FieldPipeline.Proofs.Preparation.Composition
import FieldPipeline.Proofs.Preparation.Confining
import FieldPipeline.Proofs.Preparation.Consulting
import FieldPipeline.Proofs.Preparation.Course
import FieldPipeline.Proofs.Preparation.Creating
import FieldPipeline.Proofs.Preparation.Deriving
import FieldPipeline.Proofs.Preparation.Difference
import FieldPipeline.Proofs.Preparation.Failing
import FieldPipeline.Proofs.Preparation.Heeding
import FieldPipeline.Proofs.Preparation.Ignoring
import FieldPipeline.Proofs.Preparation.Keeping
import FieldPipeline.Proofs.Preparation.Lacking
import FieldPipeline.Proofs.Preparation.Loading
import FieldPipeline.Proofs.Preparation.Merging
import FieldPipeline.Proofs.Preparation.Requiring
import FieldPipeline.Proofs.Preparation.Rules
import FieldPipeline.Proofs.Preparation.Spreading
import FieldPipeline.Proofs.Preparation.Stamping
import FieldPipeline.Proofs.Preparation.Updating
import FieldPipeline.Proofs.Record
import FieldPipeline.Proofs.Rounding
import FieldPipeline.Proofs.Routine.Circularity
import FieldPipeline.Proofs.Routine.Completeness
import FieldPipeline.Proofs.Routine.Conservation
import FieldPipeline.Proofs.Routine.Evaluability
import FieldPipeline.Proofs.Routine.Failing
import FieldPipeline.Proofs.Routine.Fusion
import FieldPipeline.Proofs.Routine.Grouping
import FieldPipeline.Proofs.Routine.Isolation
import FieldPipeline.Proofs.Routine.Keeping
import FieldPipeline.Proofs.Routine.Merging
import FieldPipeline.Proofs.Routine.Ordering
import FieldPipeline.Proofs.Routine.Reaching
import FieldPipeline.Proofs.Routine.Settling
import FieldPipeline.Proofs.Routine.Stretches
import FieldPipeline.Proofs.Routine.Token
import FieldPipeline.Proofs.Routine.Turns
import FieldPipeline.Proofs.Rule.Chain
import FieldPipeline.Proofs.Rule.Following
import FieldPipeline.Proofs.Rule.Tree
import FieldPipeline.Proofs.Sequence
import FieldPipeline.Proofs.Session
import FieldPipeline.Proofs.Settings
import FieldPipeline.Proofs.Store
import FieldPipeline.Proofs.Store.History
import FieldPipeline.Proofs.Writing
import FieldPipeline.Record
import FieldPipeline.Routine.Basic
import FieldPipeline.Routine.Compilation
import FieldPipeline.Routine.Listing
import FieldPipeline.Routine.Token
import FieldPipeline.Rule.Chain
import FieldPipeline.Rule.Tree
import FieldPipeline.Session.Basic
import FieldPipeline.Session.Context
import FieldPipeline.Session.Seeded
import FieldPipeline.Settings.Basic
import FieldPipeline.Settings.Loading
import FieldPipeline.Settings.VariableFile
import FieldPipeline.Store.Basic
import FieldPipeline.Text.Base64
import FieldPipeline.Text.Blank
import FieldPipeline.Text.CharacterName
import FieldPipeline.Text.Letter
import FieldPipeline.Text.LetterCase
import FieldPipeline.Text.Quoted
import FieldPipeline.Text.Ranges
import FieldPipeline.Text.Table.Alphanumeric
import FieldPipeline.Text.Table.CharacterName
import FieldPipeline.Text.Table.Identifier
import FieldPipeline.Text.Table.LetterCase
import FieldPipeline.Text.Table.Printable
import FieldPipeline.Value.Arithmetic
import FieldPipeline.Value.Basic
import FieldPipeline.Value.Equality
import FieldPipeline.Value.Order
import FieldPipeline.Value.Template
import FieldPipeline.Value.Text
import FieldPipeline.Yaml.Cursor
import FieldPipeline.Yaml.Layout
import FieldPipeline.Yaml.Node
import FieldPipeline.Yaml.Reader
import FieldPipeline.Yaml.Resolution
import FieldPipeline.Yaml.Scalar
import FieldPipeline.Yaml.Token
