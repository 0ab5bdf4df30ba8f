import BenchScope.Clock
import BenchScope.CommandLine.Basic
import BenchScope.CommandLine.Parse
import BenchScope.CommandLine.Run
import BenchScope.Decimal.Binary64
import BenchScope.Decimal.Numeral
import BenchScope.Decimal.Reading
import BenchScope.Decimal.Shortest
import BenchScope.Entries
import BenchScope.FileTree
import BenchScope.Http.MediaTable
import BenchScope.Http.MediaType
import BenchScope.Http.Message
import BenchScope.Http.Pattern
import BenchScope.Http.Range
import BenchScope.Http.Target
import BenchScope.Http.Time
import BenchScope.Json.Fault
import BenchScope.Json.Numbers
import BenchScope.Json.Reader
import BenchScope.Json.Strings
import BenchScope.Json.Value
import BenchScope.Json.Writer
import BenchScope.Main
import BenchScope.Markup.Escape
import BenchScope.Path
import BenchScope.Query.Form
import BenchScope.Query.Params
import BenchScope.Report.Cell
import BenchScope.Report.Chart
import BenchScope.Report.Files
import BenchScope.Report.Html
import BenchScope.Report.Page
import BenchScope.Report.Summary
import BenchScope.Report.Table
import BenchScope.Results.Basic
import BenchScope.Results.Document
import BenchScope.Results.Normalized
import BenchScope.Session.Fetch
import BenchScope.Session.Root
import BenchScope.Session.Run
import BenchScope.Session.State
import BenchScope.Session.View
import BenchScope.Settings.Basic
import BenchScope.Settings.Layer
import BenchScope.Settings.Load
import BenchScope.Settings.Value
import BenchScope.Suite.Basic
import BenchScope.Suite.Document
import BenchScope.Text.Bytes
import BenchScope.Text.Characters
import BenchScope.Text.Composed
import BenchScope.Text.Quoted
import BenchScope.Text.Spans
import BenchScope.Toml.Basic
import BenchScope.Toml.Document
import BenchScope.Toml.Moments
import BenchScope.Toml.Numbers
import BenchScope.Toml.Strings
import BenchScope.Toml.Tables
import BenchScope.Units
import BenchScope.Url.Basic
import BenchScope.Url.Domain
import BenchScope.Url.DomainTable
import BenchScope.Url.Host
import BenchScope.Url.Parse
import BenchScope.Url.Punycode
import BenchScope.Url.Walk
import BenchScope.Viewer.Answers
import BenchScope.Viewer.Problem
import BenchScope.Viewer.Routes
import BenchScope.Viewer.Served
import BenchScope.Viewer.Site
import BenchScope.Viewer.StaticFiles
import BenchScope.Proofs.Entries
import BenchScope.Proofs.Lifecycle
import BenchScope.Proofs.Delivery
import BenchScope.Proofs.Accounting
import BenchScope.Proofs.Markup
import BenchScope.Proofs.CharacterReferences
import BenchScope.Proofs.PageSafety
import BenchScope.Proofs.PageAssembly
import BenchScope.Proofs.ElementIds
import BenchScope.Proofs.Encodings
import BenchScope.Proofs.QueryStrings
import BenchScope.Proofs.QueryHistories
import BenchScope.Proofs.ServedFolders
import BenchScope.Proofs.Routing
import BenchScope.Proofs.RouteConflicts
import BenchScope.Proofs.Agreement
import BenchScope.Proofs.Selection
import BenchScope.Proofs.Reports
import BenchScope.Proofs.JsonGrammar
import BenchScope.Proofs.JsonReading
import BenchScope.Proofs.JsonWriting
import BenchScope.Proofs.SuiteDocuments
import BenchScope.Proofs.ResultsDocuments
import BenchScope.Proofs.DoubleOrder
import BenchScope.Proofs.DoubleQuotients
import BenchScope.Proofs.Normalization
import BenchScope.Proofs.PanelContents
import BenchScope.Proofs.Summaries
import BenchScope.Proofs.DoubleRounding
import BenchScope.Proofs.Numerals
import BenchScope.Proofs.UnitPrefixes
import BenchScope.Proofs.Tooltips
import BenchScope.Proofs.ScriptData
import BenchScope.Proofs.ScriptReading
import BenchScope.Proofs.InterchangeNumbers
import BenchScope.Proofs.CompactValues
import BenchScope.Proofs.ChartElements
import BenchScope.Proofs.AllBenchmarks
import BenchScope.Proofs.DebugLog
import BenchScope.Proofs.LetterCase
import BenchScope.Proofs.WholeNumbers
import BenchScope.Proofs.SettingsLayers
import BenchScope.Proofs.Containment
