import StubForge.Text.Character
import StubForge.Text.Split
import StubForge.Text.Lines
import StubForge.Text.Quoted
import StubForge.Text.Casing
import StubForge.Decimal.Layout
import StubForge.Identifier
import StubForge.Json.Reader
import StubForge.Json.Writer
import StubForge.Schema.Document
import StubForge.Schema.Reading
import StubForge.Template.Dictionary
import StubForge.Template.Node
import StubForge.Template.Token
import StubForge.Template.Parser
import StubForge.Template.Render
import StubForge.Dialect.ScalaTemplates
import StubForge.Dialect.JavaTemplates
import StubForge.Dialect.Basic
import StubForge.ServiceOption
import StubForge.Schema.Recasing
import StubForge.Stub.Constants
import StubForge.Stub.Enumerations
import StubForge.Stub.Services
import StubForge.Storage.Output
import StubForge.Generation.Run
import StubForge.Schema.Loading
import StubForge.CommandLine.Arguments
import StubForge.CommandLine.Session
import StubForge.Main
import StubForge.Proofs.Outcome
import StubForge.Proofs.Stub.Outlines
import StubForge.Proofs.Generation.Rendering
import StubForge.Proofs.Stub.Unresolved
import StubForge.Proofs.Generation.Attribution
import StubForge.Proofs.Stub.Signatures
import StubForge.Proofs.Stub.Exceptions
import StubForge.Proofs.Stub.ReferenceTypes
import StubForge.Proofs.Storage.FileSystem
import StubForge.Proofs.Storage.Path
import StubForge.Proofs.Storage.Output
import StubForge.Proofs.Storage.AllOrNothing
import StubForge.Proofs.Storage.Blank
import StubForge.Proofs.Schema.Reading
import StubForge.Proofs.Text.Casing
import StubForge.Proofs.Generation.Tree
import StubForge.Proofs.Generation.Session
import StubForge.Proofs.Template.Parts
import StubForge.Proofs.Template.Reach
import StubForge.Proofs.Template.Source
import StubForge.Proofs.Template.Sections
import StubForge.Proofs.Template.Lines
import StubForge.Proofs.Generation.Inclusions
import StubForge.Proofs.Generation.Nesting
import StubForge.Proofs.Generation.InitialValues
import StubForge.Proofs.Generation.RequiredChecks
import StubForge.Proofs.Generation.WireNames
import StubForge.Proofs.Generation.Declarations
import StubForge.Proofs.Generation.Escapes
import StubForge.Proofs.Generation.Packages
import StubForge.Proofs.Generation.Separation
import StubForge.Proofs.Generation.Options
import StubForge.Proofs.Decimal.Numeral
import StubForge.Proofs.Json.RoundTrip
import StubForge.Proofs.Schema.Forms
import StubForge.Proofs.Schema.Members
import StubForge.Proofs.Schema.Values
import StubForge.Proofs.Schema.RoundTrip
import StubForge.Proofs.Text.Brackets
import StubForge.Proofs.Text.Quoted
import StubForge.Proofs.Text.Unquoted
import StubForge.Proofs.Text.Camel
import StubForge.Proofs.Text.Words
import StubForge.Proofs.Template.Brackets
import StubForge.Proofs.Schema.PlainNames
import StubForge.Proofs.Stub.Brackets
import StubForge.Proofs.Stub.Tame
import StubForge.Proofs.Stub.LiteralTexts
import StubForge.Proofs.Generation.Balance
import StubForge.Proofs.Generation.DryRun
import StubForge.Proofs.Generation.DistinctFiles
import StubForge.Proofs.Generation.TitleNames
import StubForge.Proofs.Generation.Getters
import StubForge.Proofs.Generation.Codecs
import StubForge.Proofs.Generation.FieldConstants
import StubForge.Proofs.Generation.Confinement
import StubForge.Proofs.Template.Termination
import StubForge.Proofs.Template.Separators
import StubForge.Proofs.Template.Chains
import StubForge.Proofs.Generation.DeclaredNames
import StubForge.Proofs.Generation.CanonicalNames
