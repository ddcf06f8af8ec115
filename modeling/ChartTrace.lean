import ChartTrace.Annotation
import ChartTrace.Annotation.Offsets
import ChartTrace.Chart
import ChartTrace.CommandLine.Arguments
import ChartTrace.CommandLine.Exit
import ChartTrace.CommandLine.Help
import ChartTrace.CommandLine.TaskRun
import ChartTrace.Decimal.Double
import ChartTrace.Decimal.Numeral
import ChartTrace.Decimal.Shortest
import ChartTrace.Detection
import ChartTrace.Diagnostic
import ChartTrace.Evaluator.Evaluation
import ChartTrace.Evaluator.Launch
import ChartTrace.Evaluator.Platform
import ChartTrace.Evaluator.Pool
import ChartTrace.Evaluator.Program
import ChartTrace.Evaluator.Request
import ChartTrace.Evaluator.Supervision
import ChartTrace.FileTree
import ChartTrace.Location
import ChartTrace.Main
import ChartTrace.Marker
import ChartTrace.Path
import ChartTrace.Processing
import ChartTrace.Rendered
import ChartTrace.Report.Evaluation
import ChartTrace.Report.Json
import ChartTrace.Report.Template
import ChartTrace.Settings
import ChartTrace.ShiftTable
import ChartTrace.SortedList
import ChartTrace.Template.Node
import ChartTrace.Template.Unpack
import ChartTrace.Template.Walk
import ChartTrace.Text.CharSet
import ChartTrace.Text.Line
import ChartTrace.Text.Numeral
import ChartTrace.Text.Quoted
import ChartTrace.Text.Utf8
import ChartTrace.Toml.Document
import ChartTrace.Toml.Scalar
import ChartTrace.Toml.Text
import ChartTrace.Toml.Value
import ChartTrace.Wire.Layout
import ChartTrace.Wire.Message
import ChartTrace.Wire.Varint
import ChartTrace.Yaml.Document
import ChartTrace.Yaml.Event
import ChartTrace.Yaml.Fault
import ChartTrace.Yaml.Node
import ChartTrace.Yaml.Position
import ChartTrace.Yaml.Scalar
import ChartTrace.Yaml.Token
import ChartTrace.Yaml.Token.Property
import ChartTrace.Yaml.Token.Scalar
import ChartTrace.Yaml.Token.Scan
import ChartTrace.Yaml.Value
import ChartTrace.Proofs.Lines
import ChartTrace.Proofs.MarkerGroups
import ChartTrace.Proofs.StrippedLines
import ChartTrace.Proofs.ShiftEntries
import ChartTrace.Proofs.RenderedLines
import ChartTrace.Proofs.AnnotatedLines
import ChartTrace.Proofs.RoundTrip
import ChartTrace.Proofs.Utf8Codec
import ChartTrace.Proofs.AnnotatedBytes
import ChartTrace.Proofs.ProcessedTrees
import ChartTrace.Proofs.CleanedLines
import ChartTrace.Proofs.MarkerRanges
import ChartTrace.Proofs.TrailingMarkers
import ChartTrace.Proofs.RequestFormat
import ChartTrace.Proofs.WireFields
import ChartTrace.Proofs.WireMessages
import ChartTrace.Proofs.PackedTrees
import ChartTrace.Proofs.TextRanges
import ChartTrace.Proofs.WireGrowth
import ChartTrace.Proofs.CanonicalBytes
import ChartTrace.Proofs.ActionMarkers
import ChartTrace.Proofs.PoolDelivery
import ChartTrace.Proofs.WatchdogStarvation
import ChartTrace.Proofs.ErrorLines
import ChartTrace.Proofs.YamlLines
import ChartTrace.Proofs.RecoveredTemplates
import ChartTrace.Proofs.PlainDelimiters
import ChartTrace.Proofs.OffsetWords
import ChartTrace.Proofs.ErrorWording
import ChartTrace.Proofs.PointErrors
import ChartTrace.Proofs.LineOrigins
import ChartTrace.Proofs.TemplateParts
import ChartTrace.Proofs.TreeWalks
import ChartTrace.Proofs.PayloadSizes
import ChartTrace.Proofs.NestedPayloads
import ChartTrace.Proofs.PrunedPayloads
import ChartTrace.Proofs.PartAddresses
import ChartTrace.Proofs.MappedLocations
import ChartTrace.Proofs.DirectiveLines
import ChartTrace.Proofs.PlainOpenings
import ChartTrace.Proofs.ShiftedRanges
import ChartTrace.Proofs.FailureBoundary
import ChartTrace.Proofs.LineDecompositions
import ChartTrace.Proofs.TableHistories
import ChartTrace.Proofs.BraceRuns
import ChartTrace.Proofs.AlignedLines
import ChartTrace.Proofs.MarkerPattern
