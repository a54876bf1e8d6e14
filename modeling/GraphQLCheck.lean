import GraphQLCheck.Annotation
import GraphQLCheck.Binary64
import GraphQLCheck.Binary64.Shortest
import GraphQLCheck.BuiltInScalar
import GraphQLCheck.Coercion
import GraphQLCheck.Command
import GraphQLCheck.Command.Discovery
import GraphQLCheck.Command.Report
import GraphQLCheck.CommandLine
import GraphQLCheck.Declaration
import GraphQLCheck.Declaration.Grammar
import GraphQLCheck.Diagnostic
import GraphQLCheck.Dict
import GraphQLCheck.Disk
import GraphQLCheck.Disk.FileTree
import GraphQLCheck.Document
import GraphQLCheck.Document.Grammar
import GraphQLCheck.Fragments
import GraphQLCheck.Grammar
import GraphQLCheck.Json
import GraphQLCheck.Kind
import GraphQLCheck.Main
import GraphQLCheck.NamedType
import GraphQLCheck.NamedType.Json
import GraphQLCheck.NamedType.OfDecl
import GraphQLCheck.PathName
import GraphQLCheck.Proofs.Dict
import GraphQLCheck.Proofs.Schema.Built
import GraphQLCheck.Proofs.Validation.Visits
import GraphQLCheck.Rule
import GraphQLCheck.Rule.FieldSelection
import GraphQLCheck.Rule.Trace
import GraphQLCheck.Schema
import GraphQLCheck.Schema.Build
import GraphQLCheck.Schema.BuildError
import GraphQLCheck.Schema.Draft
import GraphQLCheck.Schema.Layout
import GraphQLCheck.Schema.Load
import GraphQLCheck.Schema.Violation
import GraphQLCheck.Source
import GraphQLCheck.Suggestion
import GraphQLCheck.Suggestion.EditDistance
import GraphQLCheck.Text.Blank
import GraphQLCheck.Text.Layout
import GraphQLCheck.Text.Lines
import GraphQLCheck.Text.Quoted
import GraphQLCheck.Text.Shapeless
import GraphQLCheck.Text.Terminal
import GraphQLCheck.Text.Utf8
import GraphQLCheck.Token
import GraphQLCheck.Token.Lexer
import GraphQLCheck.Token.Number
import GraphQLCheck.Token.StringLiteral
import GraphQLCheck.Tracker
import GraphQLCheck.TypeExpr
import GraphQLCheck.Validation
import GraphQLCheck.Value
import GraphQLCheck.Value.Printer
import GraphQLCheck.Proofs.Validation.FieldSites
import GraphQLCheck.Proofs.Validation.Protocol
import GraphQLCheck.Proofs.Schema.Faults
import GraphQLCheck.Proofs.Schema.PossibleTypes
import GraphQLCheck.Proofs.Schema.References
import GraphQLCheck.Proofs.Validation.FieldContext
import GraphQLCheck.Proofs.Schema.Multiplicity
import GraphQLCheck.Proofs.Validation.Silence
import GraphQLCheck.Proofs.Schema.Loading
import GraphQLCheck.Proofs.Schema.SourceOrder
import GraphQLCheck.Proofs.Schema.Roots
import GraphQLCheck.Proofs.Schema.Lookup
import GraphQLCheck.Proofs.Schema.InputPositions
import GraphQLCheck.Proofs.Validation.Substitution
import GraphQLCheck.Proofs.Validation.Independence
import GraphQLCheck.Proofs.Validation.Skeleton
import GraphQLCheck.Proofs.Schema.Declared
import GraphQLCheck.Proofs.Schema.Listing
import GraphQLCheck.Proofs.Schema.Completeness
import GraphQLCheck.Proofs.Command.Findings
import GraphQLCheck.Proofs.Suggestion.EditDistance
import GraphQLCheck.Proofs.Suggestion.Ranking
import GraphQLCheck.Proofs.Schema.PossibleNames
import GraphQLCheck.Proofs.Validation.Repairs
import GraphQLCheck.Proofs.Validation.Rewriting
import GraphQLCheck.Proofs.TypeExpr.Text
import GraphQLCheck.Proofs.Grammar.Yields
import GraphQLCheck.Proofs.TypeExpr.Reading
import GraphQLCheck.Proofs.Schema.Spelling
import GraphQLCheck.Proofs.Coercion.BuiltIn
import GraphQLCheck.Proofs.Coercion.Constants
import GraphQLCheck.Proofs.Validation.Messages
import GraphQLCheck.Proofs.Schema.Annotations
import GraphQLCheck.Proofs.Fragments.History
import GraphQLCheck.Proofs.Command.Discovery
import GraphQLCheck.Proofs.Validation.Introspection
import GraphQLCheck.Proofs.Json.Reordering
import GraphQLCheck.Proofs.NamedType.RoundTrip
import GraphQLCheck.Proofs.Tracker.History
