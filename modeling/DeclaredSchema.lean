import DeclaredSchema.Apply
import DeclaredSchema.Binary64
import DeclaredSchema.Binary64.Decimal
import DeclaredSchema.Command
import DeclaredSchema.Command.Report
import DeclaredSchema.CommandLine
import DeclaredSchema.Config
import DeclaredSchema.Declaration
import DeclaredSchema.Declaration.Build
import DeclaredSchema.Declaration.CamelCase
import DeclaredSchema.Declaration.Files
import DeclaredSchema.Declaration.Optional
import DeclaredSchema.Declaration.Scan
import DeclaredSchema.FileTree
import DeclaredSchema.FileTree.Walk
import DeclaredSchema.Glob
import DeclaredSchema.Http
import DeclaredSchema.Http.Address
import DeclaredSchema.Http.Domain
import DeclaredSchema.Http.Domain.Mapping
import DeclaredSchema.Http.Domain.Punycode
import DeclaredSchema.Http.Host
import DeclaredSchema.Http.Path
import DeclaredSchema.Http.Percent
import DeclaredSchema.Http.Url
import DeclaredSchema.Json
import DeclaredSchema.Json.Reader
import DeclaredSchema.Json.Writer
import DeclaredSchema.Literal
import DeclaredSchema.Main
import DeclaredSchema.Plan
import DeclaredSchema.Plan.Description
import DeclaredSchema.Plan.Diff
import DeclaredSchema.Plan.Merge
import DeclaredSchema.Progress
import DeclaredSchema.Schema.Attribute
import DeclaredSchema.Schema.Constraint
import DeclaredSchema.Schema.Description
import DeclaredSchema.Schema.Instant
import DeclaredSchema.Schema.Kind
import DeclaredSchema.Schema.Payload
import DeclaredSchema.Source.Cursor
import DeclaredSchema.Source.Expr
import DeclaredSchema.Source.Grammar
import DeclaredSchema.Source.Lexer
import DeclaredSchema.Source.LogicalLine
import DeclaredSchema.Source.Statement
import DeclaredSchema.Source.SyntaxError
import DeclaredSchema.Source.Token
import DeclaredSchema.Store
import DeclaredSchema.Store.Memory
import DeclaredSchema.Store.Rest
import DeclaredSchema.Store.Settings
import DeclaredSchema.Store.Snapshot
import DeclaredSchema.Sync
import DeclaredSchema.Text.Alphabet
import DeclaredSchema.Text.CodePointSet
import DeclaredSchema.Text.Composition
import DeclaredSchema.Text.Direction
import DeclaredSchema.Text.Escaped
import DeclaredSchema.Text.Joining
import DeclaredSchema.Text.LetterCase
import DeclaredSchema.Text.Mark
import DeclaredSchema.Text.Reader
import DeclaredSchema.Text.Table
import DeclaredSchema.Toml
import DeclaredSchema.Toml.Reader
import DeclaredSchema.Transcript
import DeclaredSchema.Proofs.Plan.Collapse
import DeclaredSchema.Proofs.Plan.DeclaredDiff
import DeclaredSchema.Proofs.Store.Memory
import DeclaredSchema.Proofs.Store.Step
import DeclaredSchema.Proofs.Plan.Planned
import DeclaredSchema.Proofs.Plan.Revision
import DeclaredSchema.Proofs.Store.Evolution
import DeclaredSchema.Proofs.Store.History
import DeclaredSchema.Proofs.Store.GeneratedIds
import DeclaredSchema.Proofs.Plan.Merge
import DeclaredSchema.Proofs.Store.Convergence
import DeclaredSchema.Proofs.Source.Printed
import DeclaredSchema.Proofs.Source.PrintedTokens
import DeclaredSchema.Proofs.Source.ExprTree
import DeclaredSchema.Proofs.Source.Ahead
import DeclaredSchema.Proofs.Source.Strengths
import DeclaredSchema.Proofs.Source.Operators
import DeclaredSchema.Proofs.Source.Lists
import DeclaredSchema.Proofs.Source.Displays
import DeclaredSchema.Proofs.Source.Calls
import DeclaredSchema.Proofs.Source.Targets
import DeclaredSchema.Proofs.Source.ReadTrees
import DeclaredSchema.Proofs.Source.ExpressionLines
import DeclaredSchema.Proofs.Source.PrintedLines
import DeclaredSchema.Proofs.Source.ClauseGroups
import DeclaredSchema.Proofs.Source.Brackets
import DeclaredSchema.Proofs.Source.Locality
import DeclaredSchema.Proofs.Source.LocalRules
import DeclaredSchema.Proofs.Source.LocalLists
import DeclaredSchema.Proofs.Source.LocalHeaders
import DeclaredSchema.Proofs.Source.LineNumbers
import DeclaredSchema.Proofs.Source.Outlines
import DeclaredSchema.Proofs.Source.InlineLines
import DeclaredSchema.Proofs.Source.InlineBodies
import DeclaredSchema.Proofs.Source.PrintedExprs
import DeclaredSchema.Proofs.Declaration.PrintedFields
import DeclaredSchema.Proofs.Declaration.PrintedScan
import DeclaredSchema.Proofs.Schema.JsonText
import DeclaredSchema.Proofs.Store.Ledger
import DeclaredSchema.Proofs.Schema.RoundTrips
import DeclaredSchema.Proofs.Plan.UpdateBody
import DeclaredSchema.Proofs.Plan.Order
import DeclaredSchema.Proofs.Store.Rehearsal
import DeclaredSchema.Proofs.Store.Results
import DeclaredSchema.Proofs.Store.Repair
import DeclaredSchema.Proofs.Http.SharedFront
import DeclaredSchema.Proofs.Store.RestWrites
import DeclaredSchema.Proofs.Store.DryRun
import DeclaredSchema.Proofs.Store.Paging
import DeclaredSchema.Proofs.Source.Crlf
import DeclaredSchema.Proofs.Source.LineEndings
import DeclaredSchema.Proofs.Source.LaidOut
import DeclaredSchema.Proofs.Source.Accepted
import DeclaredSchema.Proofs.Source.WrittenBack
import DeclaredSchema.Proofs.Source.StatementParts
import DeclaredSchema.Proofs.Source.Enclosures
import DeclaredSchema.Proofs.Source.ClassHeaders
import DeclaredSchema.Proofs.Declaration.ClassStatements
import DeclaredSchema.Proofs.Source.LexerMoves
import DeclaredSchema.Proofs.Source.TokenStreams
import DeclaredSchema.Proofs.Store.SameButDefaults
import DeclaredSchema.Proofs.Store.ClockReadings
import DeclaredSchema.Proofs.Source.SpelledIntegers
import DeclaredSchema.Proofs.Source.LiteralTokens
import DeclaredSchema.Proofs.Source.LiteralCuts
import DeclaredSchema.Proofs.Source.LiteralReadings
import DeclaredSchema.Proofs.Source.LiteralValues
import DeclaredSchema.Proofs.Source.StringValues
import DeclaredSchema.Proofs.Source.StringLiterals
import DeclaredSchema.Proofs.Declaration.BuiltAttributes
import DeclaredSchema.Proofs.Plan.Overlay
import DeclaredSchema.Proofs.Source.ExprReadings
import DeclaredSchema.Proofs.Source.StringSizes
import DeclaredSchema.Proofs.Declaration.ForwardTexts
import DeclaredSchema.Proofs.Declaration.OptionalSpellings
import DeclaredSchema.Proofs.Declaration.CancelledScans
import DeclaredSchema.Proofs.Source.StandingLines
import DeclaredSchema.Proofs.Source.FollowedTexts
import DeclaredSchema.Proofs.Source.ParallelRuns
import DeclaredSchema.Proofs.Source.BlankLines
import DeclaredSchema.Proofs.Source.StatementLines
import DeclaredSchema.Proofs.Source.ExchangedOutlines
import DeclaredSchema.Proofs.Declaration.UnlinedClasses
import DeclaredSchema.Proofs.Declaration.InlineClasses
import DeclaredSchema.Proofs.Source.OuterLines
import DeclaredSchema.Proofs.Declaration.ClassSpellings
import DeclaredSchema.Proofs.Source.AssignmentSigns
import DeclaredSchema.Proofs.Source.AnnotatedStatements
import DeclaredSchema.Proofs.Declaration.ForwardChains
import DeclaredSchema.Proofs.Store.Refusals
import DeclaredSchema.Proofs.Source.Separators
import DeclaredSchema.Proofs.Declaration.PlacedScan
