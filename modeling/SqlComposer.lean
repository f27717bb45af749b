import SqlComposer.Builder.Arguments
import SqlComposer.Builder.Basic
import SqlComposer.Builder.Run
import SqlComposer.Builder.Step
import SqlComposer.Config
import SqlComposer.Connection.Basic
import SqlComposer.Connection.Row
import SqlComposer.Connection.Script
import SqlComposer.Decimal.Binary64
import SqlComposer.Decimal.Layout
import SqlComposer.Decimal.Reading
import SqlComposer.Decimal.Shortest
import SqlComposer.Dialect
import SqlComposer.Digest
import SqlComposer.Error
import SqlComposer.Fragment.Basic
import SqlComposer.Fragment.Context
import SqlComposer.Fragment.Names
import SqlComposer.Json.Fields
import SqlComposer.Json.Token
import SqlComposer.Page
import SqlComposer.Proofs.Builder.Confinement
import SqlComposer.Proofs.Builder.CountedRows
import SqlComposer.Proofs.Builder.Counting
import SqlComposer.Proofs.Builder.Held
import SqlComposer.Proofs.Builder.Reached
import SqlComposer.Proofs.Builder.Renaming
import SqlComposer.Proofs.Builder.UnionTail
import SqlComposer.Proofs.Connection.Given
import SqlComposer.Proofs.Query.Pages
import SqlComposer.Proofs.Query.SubQueries
import SqlComposer.Proofs.Query.Tour
import SqlComposer.Proofs.Schema.Address
import SqlComposer.Proofs.Schema.Catalog
import SqlComposer.Proofs.Schema.CreationNumbers
import SqlComposer.Proofs.Schema.CreationOrder
import SqlComposer.Proofs.Schema.CreationText
import SqlComposer.Proofs.Schema.Database
import SqlComposer.Proofs.Schema.DefinitionScan
import SqlComposer.Proofs.Schema.Effect
import SqlComposer.Proofs.Schema.EnumReading
import SqlComposer.Proofs.Schema.EnumTypeBlock
import SqlComposer.Proofs.Schema.FinishedBlueprint
import SqlComposer.Proofs.Schema.FramedOptions
import SqlComposer.Proofs.Schema.GroupedEntries
import SqlComposer.Proofs.Schema.Key
import SqlComposer.Proofs.Schema.KeyDeclaration
import SqlComposer.Proofs.Schema.Links
import SqlComposer.Proofs.Schema.Naming
import SqlComposer.Proofs.Schema.Outcomes
import SqlComposer.Proofs.Schema.Rebuild
import SqlComposer.Proofs.Schema.RebuiltShape
import SqlComposer.Proofs.Schema.Redeclaration
import SqlComposer.Proofs.Schema.ReportedRows
import SqlComposer.Proofs.Schema.RestatedComment
import SqlComposer.Proofs.Schema.Spelling
import SqlComposer.Proofs.Schema.StatedTexts
import SqlComposer.Proofs.Schema.TypeHint
import SqlComposer.Proofs.Schema.TypeReading
import SqlComposer.Proofs.Statement.Grammar.Change
import SqlComposer.Proofs.Statement.Grammar.Name
import SqlComposer.Proofs.Statement.Grammar.Select
import SqlComposer.Proofs.Statement.Identifier
import SqlComposer.Proofs.Statement.InsertedRows
import SqlComposer.Proofs.Statement.KeyQualifier
import SqlComposer.Proofs.Statement.KeyedWrite
import SqlComposer.Proofs.Statement.Letters
import SqlComposer.Proofs.Statement.Lockstep
import SqlComposer.Proofs.Statement.NameBlind
import SqlComposer.Proofs.Statement.Outline
import SqlComposer.Proofs.Statement.Phrase
import SqlComposer.Proofs.Statement.Placeholders
import SqlComposer.Proofs.Statement.Portable
import SqlComposer.Proofs.Statement.Reading
import SqlComposer.Proofs.Statement.Request
import SqlComposer.Proofs.Statement.Sequence
import SqlComposer.Proofs.Statement.Target
import SqlComposer.Proofs.Statement.ValueBlind
import SqlComposer.Proofs.Statement.Values
import SqlComposer.Proofs.Statement.Vocabulary
import SqlComposer.Proofs.Statement.Within
import SqlComposer.Proofs.Text.Lexer
import SqlComposer.Proofs.Text.LiteralPattern
import SqlComposer.Proofs.Text.Literals
import SqlComposer.Proofs.Text.MysqlLiteral
import SqlComposer.Proofs.Text.Occurrence
import SqlComposer.Proofs.Text.PostgresLexer
import SqlComposer.Proofs.Text.Scanner
import SqlComposer.Query.Basic
import SqlComposer.Query.Bindings
import SqlComposer.Query.Clauses
import SqlComposer.Query.Name
import SqlComposer.Record
import SqlComposer.Registry
import SqlComposer.Schema.Alteration
import SqlComposer.Schema.Basic
import SqlComposer.Schema.Blueprint
import SqlComposer.Schema.Column
import SqlComposer.Schema.ColumnType
import SqlComposer.Schema.Command
import SqlComposer.Schema.Comment
import SqlComposer.Schema.Ddl
import SqlComposer.Schema.Definition
import SqlComposer.Schema.EnumType
import SqlComposer.Schema.Introspection
import SqlComposer.Schema.Listing
import SqlComposer.Schema.NativeType
import SqlComposer.Schema.Table
import SqlComposer.Statement.Insert
import SqlComposer.Statement.Select
import SqlComposer.Statement.Update
import SqlComposer.Text.Blank
import SqlComposer.Text.Casing
import SqlComposer.Text.CodeSet
import SqlComposer.Text.Escaped
import SqlComposer.Text.Number
import SqlComposer.Text.Printable
import SqlComposer.Text.Quoted
import SqlComposer.Text.Split
import SqlComposer.Text.Word
import SqlComposer.Value.Basic
import SqlComposer.Value.Read
