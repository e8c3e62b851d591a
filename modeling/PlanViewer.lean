import PlanViewer.Catalog
import PlanViewer.CommandLine.Argument
import PlanViewer.CommandLine.Environment
import PlanViewer.CommandLine.Invocation
import PlanViewer.CommandLine.Paint
import PlanViewer.CommandLine.Reader
import PlanViewer.CommandLine.Run
import PlanViewer.CommandLine.Screen
import PlanViewer.CommandLine.Usage
import PlanViewer.Controls
import PlanViewer.Disk
import PlanViewer.DisplayPrefs
import PlanViewer.Error
import PlanViewer.Json.Lexeme
import PlanViewer.Json.Magnitude
import PlanViewer.Json.Problem
import PlanViewer.Json.Record
import PlanViewer.Json.Value
import PlanViewer.Json.Writer
import PlanViewer.Main
import PlanViewer.Matching.Candidates
import PlanViewer.Matching.CustomNodes
import PlanViewer.Matching.Mode
import PlanViewer.Matching.Pattern
import PlanViewer.Path
import PlanViewer.PrefKey
import PlanViewer.Preference
import PlanViewer.Preference.Json
import PlanViewer.Proofs.AccumulatedPatterns
import PlanViewer.Proofs.Calendar
import PlanViewer.Proofs.CandidateArguments
import PlanViewer.Proofs.CandidateOrder
import PlanViewer.Proofs.CookieHeader
import PlanViewer.Proofs.Digits
import PlanViewer.Proofs.DiskFiles
import PlanViewer.Proofs.DisplayReading
import PlanViewer.Proofs.EscapeTokens
import PlanViewer.Proofs.Expiries
import PlanViewer.Proofs.ExpiringMap
import PlanViewer.Proofs.FailedCalls
import PlanViewer.Proofs.FileChanges
import PlanViewer.Proofs.FirstReading
import PlanViewer.Proofs.FragmentMatching
import PlanViewer.Proofs.HeaderLookup
import PlanViewer.Proofs.HeldSettings
import PlanViewer.Proofs.JsonIntegers
import PlanViewer.Proofs.JsonText
import PlanViewer.Proofs.KeptValues
import PlanViewer.Proofs.LeadingIntegers
import PlanViewer.Proofs.MakingFolders
import PlanViewer.Proofs.MatchCommands
import PlanViewer.Proofs.MissingNames
import PlanViewer.Proofs.ModeComparison
import PlanViewer.Proofs.OutgoingLines
import PlanViewer.Proofs.PatternLists
import PlanViewer.Proofs.PatternTexts
import PlanViewer.Proofs.PercentCoding
import PlanViewer.Proofs.PreferenceLists
import PlanViewer.Proofs.PreparedFolders
import PlanViewer.Proofs.SavedCatalog
import PlanViewer.Proofs.SavedPreferences
import PlanViewer.Proofs.SavedSettings
import PlanViewer.Proofs.SessionRuns
import PlanViewer.Proofs.SetThenGet
import PlanViewer.Proofs.SettingChanges
import PlanViewer.Proofs.SettingValues
import PlanViewer.Proofs.Steps
import PlanViewer.Proofs.StoreRuns
import PlanViewer.Proofs.TextFiles
import PlanViewer.Proofs.TextParts
import PlanViewer.Proofs.Timestamps
import PlanViewer.Report
import PlanViewer.Session
import PlanViewer.Settings
import PlanViewer.Settings.File
import PlanViewer.Settings.Json
import PlanViewer.Store
import PlanViewer.Store.CookieJar
import PlanViewer.Store.Memory
import PlanViewer.Store.PrefsFile
import PlanViewer.Text.Blank
import PlanViewer.Text.Columns
import PlanViewer.Text.ControlSequences
import PlanViewer.Text.Decimal
import PlanViewer.Text.Extending
import PlanViewer.Text.Hex
import PlanViewer.Text.Ligature
import PlanViewer.Text.Occurs
import PlanViewer.Text.Percent
import PlanViewer.Text.Pictures
import PlanViewer.Text.Quoted
import PlanViewer.Text.Ranges
import PlanViewer.Text.Units16
import PlanViewer.Text.Unprintable
import PlanViewer.Text.Wide
import PlanViewer.TextFile
import PlanViewer.Time.Calendar
import PlanViewer.Time.CookieDate
import PlanViewer.Time.Instant
import PlanViewer.Time.Moment
import PlanViewer.Time.Remaining
import PlanViewer.Time.Timestamp
