import TestHistory.CommandLine.Program
import TestHistory.Main
import TestHistory.Proofs.ScannedRuns
import TestHistory.Proofs.RunIds
import TestHistory.Proofs.Keyed
import TestHistory.Proofs.Pivot
import TestHistory.Proofs.RowFigures
import TestHistory.Proofs.Comparison
import TestHistory.Proofs.Paths
import TestHistory.Proofs.Confinement
import TestHistory.Proofs.JsonText
import TestHistory.Proofs.ScriptJson
import TestHistory.Proofs.MachineOutput
import TestHistory.Page.Figure
import TestHistory.Proofs.Markup
import TestHistory.Proofs.Escaping
import TestHistory.Proofs.ReportMarkup
import TestHistory.Proofs.PageMarkup
import TestHistory.Proofs.ByteOrder
import TestHistory.Proofs.SortedTrees
import TestHistory.Proofs.Sorting
import TestHistory.Proofs.RunOrder
import TestHistory.Proofs.WrittenTimes
import TestHistory.Proofs.ScanOrder
import TestHistory.Proofs.RowOrder
import TestHistory.Proofs.RowIndependence
import TestHistory.Proofs.ChartOrder
import TestHistory.Proofs.Addresses
import TestHistory.Proofs.RunReading
import TestHistory.Proofs.RunTotals
import TestHistory.Proofs.RunConfinement
import TestHistory.Proofs.Writing
import TestHistory.Proofs.RegularTrees
import TestHistory.Proofs.BrokenRuns
import TestHistory.Proofs.ReadableRuns
import TestHistory.Proofs.CommandFrame
import TestHistory.Proofs.Layers
import TestHistory.Proofs.Precedence
import TestHistory.Proofs.SettingsOrder
import TestHistory.Proofs.WholeValues
import TestHistory.Proofs.Records
import TestHistory.Proofs.ArtifactReading
import TestHistory.Proofs.PageNodes
import TestHistory.Proofs.Alignment
import TestHistory.Proofs.WrittenTags
import TestHistory.Proofs.Calendar
import TestHistory.Proofs.FileTimes
import TestHistory.Proofs.ExtractedTests
import TestHistory.Proofs.DeclaredNames
import TestHistory.Proofs.TextLimits
import TestHistory.Proofs.ByteLimits
import TestHistory.Proofs.EmbeddedFiles
import TestHistory.Proofs.EditDistance
import TestHistory.Proofs.PairChoice
import TestHistory.Proofs.Suggestions
import TestHistory.Proofs.ChartSeries
import TestHistory.Proofs.LastLines
import TestHistory.Proofs.Doubles
import TestHistory.Proofs.RuntimeBounds
import TestHistory.Proofs.ColumnLimits
import TestHistory.Proofs.Listings
import TestHistory.Proofs.Labels
import TestHistory.Proofs.Flattening
import TestHistory.Proofs.GroupedDigits
