import EntityQuery.Text.SnakeCase
import EntityQuery.Text.Quoted
import EntityQuery.Registry
import EntityQuery.Log
import EntityQuery.Json.Writer
import EntityQuery.Json.Reader
import EntityQuery.Token.Scan
import EntityQuery.Node.Dictionary
import EntityQuery.Grammar.Statement
import EntityQuery.Query
import EntityQuery.Token.Listing
import EntityQuery.Metadata.Analysis
import EntityQuery.Mapping.Relation
import EntityQuery.Mapping.Resolver
import EntityQuery.Mapping.Config
import EntityQuery.Sql.Fragment
import EntityQuery.Sql.Schema
import EntityQuery.Sql.Render
import EntityQuery.Sql.Converter
import EntityQuery.Diagnostic
import EntityQuery.Export
import EntityQuery.Text.LineEnding
import EntityQuery.Text.Integer
import EntityQuery.CommandLine.Arguments
import EntityQuery.CommandLine.Command
import EntityQuery.Main
import EntityQuery.Proofs.Sql.TrueEntity
import EntityQuery.Proofs.Sql.SetClause
import EntityQuery.Proofs.Sql.Placeholders
import EntityQuery.Proofs.Token.LexicalClass
import EntityQuery.Proofs.Token.Tiling
import EntityQuery.Proofs.Metadata.Declared
import EntityQuery.Proofs.Metadata.Fields
import EntityQuery.Proofs.Sql.RecordedField
import EntityQuery.Proofs.Metadata.Parameters
import EntityQuery.Proofs.Token.Separator
import EntityQuery.Proofs.Token.Coordinates
import EntityQuery.Proofs.Token.Cut
import EntityQuery.Proofs.Token.Reuse
import EntityQuery.Proofs.Token.Malformed
import EntityQuery.Proofs.Grammar.Comparison
import EntityQuery.Proofs.Grammar.Compared
import EntityQuery.Proofs.Grammar.Threshold
import EntityQuery.Proofs.Grammar.Wording
import EntityQuery.Proofs.Sql.Agreement
import EntityQuery.Proofs.Json
import EntityQuery.Proofs.Sql.Wording
import EntityQuery.Proofs.Node.Decoding
import EntityQuery.Proofs.Node.Export
import EntityQuery.Proofs.Sql.Relevance
import EntityQuery.Proofs.Sql.ExplicitCondition
import EntityQuery.Proofs.Metadata.Renaming
import EntityQuery.Proofs.Grammar.Tracked
import EntityQuery.Proofs.Grammar.LocalErrors
import EntityQuery.Proofs.Metadata.Collection
import EntityQuery.Proofs.Text.SnakeCase
import EntityQuery.Proofs.Mapping.Reading
import EntityQuery.Proofs.Mapping.Reload
import EntityQuery.Proofs.Mapping.Refusal
