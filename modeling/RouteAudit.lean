import RouteAudit.Audit.Audited
import RouteAudit.Audit.Auditor
import RouteAudit.Audit.Collection
import RouteAudit.Audit.Engine
import RouteAudit.Audit.Entry
import RouteAudit.Audit.Rule
import RouteAudit.CommandLine.Arguments
import RouteAudit.CommandLine.Findings
import RouteAudit.CommandLine.Run
import RouteAudit.Config
import RouteAudit.Coverage.Bindings
import RouteAudit.Coverage.Table
import RouteAudit.Coverage.Visit
import RouteAudit.Coverage.Vocabulary
import RouteAudit.Decimal.Binary
import RouteAudit.Decimal.Fixed
import RouteAudit.Decimal.Shortest
import RouteAudit.Decode.Format
import RouteAudit.Decode.Problem
import RouteAudit.Discovery.Cache
import RouteAudit.Discovery.Catalog
import RouteAudit.Discovery.Method
import RouteAudit.Discovery.Source
import RouteAudit.Error
import RouteAudit.Expectation
import RouteAudit.Export
import RouteAudit.Files.Disk
import RouteAudit.Files.Memory
import RouteAudit.Files.Path
import RouteAudit.Ignore.Glob
import RouteAudit.Ignore.Matcher
import RouteAudit.Ignore.Pattern
import RouteAudit.Json.Basic
import RouteAudit.Json.Decode
import RouteAudit.Json.Printer
import RouteAudit.Json.Reader
import RouteAudit.Main
import RouteAudit.Php.Argument
import RouteAudit.Php.Declaration
import RouteAudit.Php.Expression
import RouteAudit.Php.Name
import RouteAudit.Php.Piece
import RouteAudit.Php.Program
import RouteAudit.Php.Reader
import RouteAudit.Php.Scan
import RouteAudit.Php.Statement
import RouteAudit.Php.Template
import RouteAudit.Php.Token
import RouteAudit.Php.Tokens
import RouteAudit.Proofs.Audit.Calls
import RouteAudit.Proofs.Audit.Collection
import RouteAudit.Proofs.Audit.Parameters
import RouteAudit.Proofs.Audit.Run
import RouteAudit.Proofs.Audit.Scoring
import RouteAudit.Proofs.Audit.Shared
import RouteAudit.Proofs.Audit.Sorting
import RouteAudit.Proofs.Audit.Spelling
import RouteAudit.Proofs.CommandLine.Findings
import RouteAudit.Proofs.CommandLine.Run
import RouteAudit.Proofs.Coverage.Files
import RouteAudit.Proofs.Coverage.Isolation
import RouteAudit.Proofs.Coverage.Memo
import RouteAudit.Proofs.Coverage.Schedule
import RouteAudit.Proofs.Coverage.Score
import RouteAudit.Proofs.Coverage.Visit
import RouteAudit.Proofs.Decode.Record
import RouteAudit.Proofs.Discovery.Cache
import RouteAudit.Proofs.Discovery.Family
import RouteAudit.Proofs.Discovery.Files
import RouteAudit.Proofs.Discovery.FullName
import RouteAudit.Proofs.Discovery.Lexical
import RouteAudit.Proofs.Discovery.Recorded
import RouteAudit.Proofs.Discovery.Respelling
import RouteAudit.Proofs.Expectation
import RouteAudit.Proofs.Expectation.Middleware
import RouteAudit.Proofs.Export
import RouteAudit.Proofs.Files.Memory
import RouteAudit.Proofs.Ignore.Glob
import RouteAudit.Proofs.Ignore.Language
import RouteAudit.Proofs.Json.Reading
import RouteAudit.Proofs.Json.Storage
import RouteAudit.Proofs.Route.Middleware
import RouteAudit.Proofs.Route.Storage
import RouteAudit.Proofs.Route.Table
import RouteAudit.Proofs.Statistic.Central
import RouteAudit.Proofs.Statistic.Count
import RouteAudit.Proofs.Statistic.Defaults
import RouteAudit.Proofs.Statistic.Exact
import RouteAudit.Proofs.Statistic.Kind
import RouteAudit.Proofs.Statistic.Measure
import RouteAudit.Proofs.Statistic.Ranks
import RouteAudit.Proofs.Statistic.Reorder
import RouteAudit.Proofs.Statistic.Report
import RouteAudit.Proofs.Statistic.Tree
import RouteAudit.Proofs.Syntax.Literal
import RouteAudit.Proofs.Syntax.Name
import RouteAudit.Proofs.Syntax.Order
import RouteAudit.Proofs.Syntax.Pipeline
import RouteAudit.Proofs.Syntax.Place
import RouteAudit.Proofs.Syntax.Search
import RouteAudit.Proofs.Syntax.Walk
import RouteAudit.Proofs.Syntax.Worklist
import RouteAudit.Proofs.Tally
import RouteAudit.Route.Basic
import RouteAudit.Route.Middleware
import RouteAudit.Route.Table
import RouteAudit.Statistic.Basic
import RouteAudit.Statistic.Measure
import RouteAudit.Statistic.Number
import RouteAudit.Statistic.Ranks
import RouteAudit.Statistic.Report
import RouteAudit.Syntax.Literal
import RouteAudit.Syntax.Name
import RouteAudit.Syntax.Node
import RouteAudit.Syntax.Search
import RouteAudit.Syntax.Walk
import RouteAudit.Tally
import RouteAudit.Text.Blank
import RouteAudit.Text.CaseTable
import RouteAudit.Text.Casing
import RouteAudit.Text.Digit
import RouteAudit.Text.Split
import RouteAudit.Text.Visible
import RouteAudit.Word
import RouteAudit.Yaml.Basic
import RouteAudit.Yaml.Cursor
import RouteAudit.Yaml.Decode
import RouteAudit.Yaml.Node
import RouteAudit.Yaml.Printer
import RouteAudit.Yaml.Reader
import RouteAudit.Yaml.Scalar
import RouteAudit.Yaml.Text
