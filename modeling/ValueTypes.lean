import ValueTypes.Checked
import ValueTypes.Command
import ValueTypes.Command.Arguments
import ValueTypes.Dependencies
import ValueTypes.Dict
import ValueTypes.Distinct
import ValueTypes.Feature.Basic
import ValueTypes.Feature.CaseTest
import ValueTypes.Feature.Factory
import ValueTypes.Feature.Initializer
import ValueTypes.Feature.Matcher
import ValueTypes.Feature.Matching
import ValueTypes.Feature.Names
import ValueTypes.Feature.Properties
import ValueTypes.Feature.Storage
import ValueTypes.File.Generate
import ValueTypes.File.Path
import ValueTypes.File.Tree
import ValueTypes.Generate
import ValueTypes.Main
import ValueTypes.Model.Basic
import ValueTypes.Model.OfSource
import ValueTypes.Naming
import ValueTypes.Objc.Basic
import ValueTypes.Objc.Builtin
import ValueTypes.Objc.Code
import ValueTypes.Objc.Encoding
import ValueTypes.Objc.Type
import ValueTypes.Parser.Basic
import ValueTypes.Parser.Position
import ValueTypes.Parser.Repetition
import ValueTypes.Problem
import ValueTypes.Proofs.Checked
import ValueTypes.Proofs.Dependencies
import ValueTypes.Proofs.Dict
import ValueTypes.Proofs.Distinct
import ValueTypes.Proofs.Feature.Arguments
import ValueTypes.Proofs.Feature.Capture
import ValueTypes.Proofs.Feature.ClosedForm
import ValueTypes.Proofs.Feature.Code
import ValueTypes.Proofs.Feature.Identifiers
import ValueTypes.Proofs.Feature.Initializer
import ValueTypes.Proofs.Feature.Matcher
import ValueTypes.Proofs.Feature.Matching
import ValueTypes.Proofs.Feature.Names
import ValueTypes.Proofs.Feature.OwnHeader
import ValueTypes.Proofs.Feature.Qualification
import ValueTypes.Proofs.Feature.Reads
import ValueTypes.Proofs.Feature.Selectors
import ValueTypes.Proofs.Feature.Slots
import ValueTypes.Proofs.Feature.Storage
import ValueTypes.Proofs.Feature.Sum
import ValueTypes.Proofs.Feature.Switches
import ValueTypes.Proofs.Feature.Validation
import ValueTypes.Proofs.Model.Faults
import ValueTypes.Proofs.Model.OfSource
import ValueTypes.Proofs.Model.Pointers
import ValueTypes.Proofs.Naming
import ValueTypes.Proofs.Parser.Extension
import ValueTypes.Proofs.Parser.Greedy
import ValueTypes.Proofs.Parser.Outcome
import ValueTypes.Proofs.Parser.Position
import ValueTypes.Proofs.Parser.Reports
import ValueTypes.Proofs.Parser.Rounds
import ValueTypes.Proofs.Source.AttributeText
import ValueTypes.Proofs.Source.Commitment
import ValueTypes.Proofs.Source.Extension
import ValueTypes.Proofs.Source.Gaps
import ValueTypes.Proofs.Source.Layout
import ValueTypes.Proofs.Source.Lines
import ValueTypes.Proofs.Source.Preamble
import ValueTypes.Proofs.Source.References
import ValueTypes.Proofs.Source.Reports
import ValueTypes.Proofs.Source.RoundTrip
import ValueTypes.Proofs.Source.Separators
import ValueTypes.Proofs.Source.Surroundings
import ValueTypes.Proofs.Source.SyntaxErrors
import ValueTypes.Proofs.Source.TypeName
import ValueTypes.Proofs.Source.TypeText
import ValueTypes.Proofs.Source.Words
import ValueTypes.Proofs.Tags
import ValueTypes.Source.Basic
import ValueTypes.Source.Declaration
import ValueTypes.Source.Lexical
import ValueTypes.Source.Preamble
import ValueTypes.Source.TypeExpr
import ValueTypes.Tags
import ValueTypes.Text.Blank
import ValueTypes.Text.CaseTable
import ValueTypes.Text.Hidden
import ValueTypes.Text.Json
import ValueTypes.Text.Letter
import ValueTypes.Text.Quoted
