import RequestRunner.Files.FileTree
import RequestRunner.Main
import RequestRunner.Program.Batch
import RequestRunner.Proofs.Data.SortedMaps
import RequestRunner.Proofs.Document.Concatenation
import RequestRunner.Proofs.Document.Contents
import RequestRunner.Proofs.Document.HeaderMaps
import RequestRunner.Proofs.Document.Indentation
import RequestRunner.Proofs.Document.LineEndings
import RequestRunner.Proofs.Document.LineForms
import RequestRunner.Proofs.Document.LineSearch
import RequestRunner.Proofs.Document.Lookup
import RequestRunner.Proofs.Document.Notes
import RequestRunner.Proofs.Document.Numbering
import RequestRunner.Proofs.Document.Regions
import RequestRunner.Proofs.Document.Rendering
import RequestRunner.Proofs.Document.Seams
import RequestRunner.Proofs.Execution.Completion
import RequestRunner.Proofs.Execution.ContentTypes
import RequestRunner.Proofs.Execution.Requests
import RequestRunner.Proofs.Execution.ResultTexts
import RequestRunner.Proofs.Execution.Schedules
import RequestRunner.Proofs.Files.DataDirectory
import RequestRunner.Proofs.Files.FreeWays
import RequestRunner.Proofs.Files.Growth
import RequestRunner.Proofs.Files.StorageHistory
import RequestRunner.Proofs.Files.StoredDocument
import RequestRunner.Proofs.Http.FieldTexts
import RequestRunner.Proofs.Http.Refusals
import RequestRunner.Proofs.Json.Accepted
import RequestRunner.Proofs.Json.CompactLine
import RequestRunner.Proofs.Json.Depth
import RequestRunner.Proofs.Json.Grammar
import RequestRunner.Proofs.Json.Reading
import RequestRunner.Proofs.Json.SameValue
import RequestRunner.Proofs.Json.Skipping
import RequestRunner.Proofs.Json.Tokens
import RequestRunner.Proofs.Json.WellFormed
import RequestRunner.Proofs.Program.Agreement
import RequestRunner.Proofs.Program.BatchCompletion
import RequestRunner.Proofs.Program.BatchOrders
import RequestRunner.Proofs.Program.BatchReports
import RequestRunner.Proofs.Program.ErrandEndings
import RequestRunner.Proofs.Program.Errands
import RequestRunner.Proofs.Program.Lifting
import RequestRunner.Proofs.Program.Preparation
import RequestRunner.Proofs.Program.Sessions
import RequestRunner.Proofs.Program.SingleRuns
import RequestRunner.Proofs.Program.Visits
import RequestRunner.Proofs.Report.JsonLines
import RequestRunner.Proofs.Report.LineNumbers
import RequestRunner.Proofs.Report.PrettyBodies
import RequestRunner.Proofs.Text.Digits
import RequestRunner.Proofs.Text.Replacement
import RequestRunner.Proofs.Text.Utf8
import RequestRunner.Proofs.Update.ReleaseFeed
import RequestRunner.Proofs.Update.VersionOrder
import RequestRunner.Proofs.Url.Hosts
