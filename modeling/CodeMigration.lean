import CodeMigration.Command.Execute
import CodeMigration.Command.Manual
import CodeMigration.Command.Plan
import CodeMigration.Command.Reply
import CodeMigration.CommandLine
import CodeMigration.CommandLine.Reader
import CodeMigration.Diff.Compaction
import CodeMigration.Diff.Lines
import CodeMigration.Diff.Script
import CodeMigration.Diff.Unified
import CodeMigration.Disk
import CodeMigration.Failure
import CodeMigration.Glob
import CodeMigration.Ignore
import CodeMigration.JsonValue
import CodeMigration.Main
import CodeMigration.Migration
import CodeMigration.Migration.Catalog
import CodeMigration.Migration.NamedExports
import CodeMigration.Migration.PrefetchLink
import CodeMigration.Migration.TypedClient
import CodeMigration.Path
import CodeMigration.Pattern.Basic
import CodeMigration.Pattern.CharSet
import CodeMigration.Pattern.Cursor
import CodeMigration.Pattern.Form
import CodeMigration.Pattern.Lexeme
import CodeMigration.Pattern.Match
import CodeMigration.Pattern.Parser
import CodeMigration.Proofs.AddedLines
import CodeMigration.Proofs.AppliedIds
import CodeMigration.Proofs.CallLines
import CodeMigration.Proofs.CallSites
import CodeMigration.Proofs.Catalogs
import CodeMigration.Proofs.ChainedCalls
import CodeMigration.Proofs.ChangedTexts
import CodeMigration.Proofs.CharClasses
import CodeMigration.Proofs.CommentedLists
import CodeMigration.Proofs.DefaultExports
import CodeMigration.Proofs.DefaultImports
import CodeMigration.Proofs.Disks
import CodeMigration.Proofs.ExportPasses
import CodeMigration.Proofs.ExportScan
import CodeMigration.Proofs.ExportedNames
import CodeMigration.Proofs.ExtendedImports
import CodeMigration.Proofs.FailedCommands
import CodeMigration.Proofs.FailedSaves
import CodeMigration.Proofs.FileOrder
import CodeMigration.Proofs.FileRuns
import CodeMigration.Proofs.FileSteps
import CodeMigration.Proofs.FoundDeclarations
import CodeMigration.Proofs.ImportLists
import CodeMigration.Proofs.ImportedWrappers
import CodeMigration.Proofs.ImporterPasses
import CodeMigration.Proofs.Imports
import CodeMigration.Proofs.KeptCopies
import CodeMigration.Proofs.Layouts
import CodeMigration.Proofs.Lexemes
import CodeMigration.Proofs.LinkValues
import CodeMigration.Proofs.Links
import CodeMigration.Proofs.MatcherRoom
import CodeMigration.Proofs.ModuleAliases
import CodeMigration.Proofs.MovedLines
import CodeMigration.Proofs.NestedLinks
import CodeMigration.Proofs.OpenTables
import CodeMigration.Proofs.Passes
import CodeMigration.Proofs.PathOrder
import CodeMigration.Proofs.PathParts
import CodeMigration.Proofs.Pieces
import CodeMigration.Proofs.PlainPaths
import CodeMigration.Proofs.Preference
import CodeMigration.Proofs.ProjectPlaces
import CodeMigration.Proofs.QuotedTexts
import CodeMigration.Proofs.Reading
import CodeMigration.Proofs.References
import CodeMigration.Proofs.RepairedReferences
import CodeMigration.Proofs.RepeatedRuns
import CodeMigration.Proofs.ReportCounts
import CodeMigration.Proofs.RuleSequences
import CodeMigration.Proofs.SavedFiles
import CodeMigration.Proofs.Scanning
import CodeMigration.Proofs.Selections
import CodeMigration.Proofs.SettingsDocuments
import CodeMigration.Proofs.SettingsTables
import CodeMigration.Proofs.StayingWords
import CodeMigration.Proofs.SwappedLinks
import CodeMigration.Proofs.TrailingExports
import CodeMigration.Proofs.Trees
import CodeMigration.Proofs.Triggers
import CodeMigration.Proofs.TwoPasses
import CodeMigration.Proofs.UnusedImports
import CodeMigration.Proofs.UnwrappedCalls
import CodeMigration.Proofs.WalkOrders
import CodeMigration.Proofs.Weight
import CodeMigration.Proofs.WovenTexts
import CodeMigration.Proofs.WrappedClients
import CodeMigration.Proofs.WrapperCounts
import CodeMigration.Proofs.WrittenDocuments
import CodeMigration.Report
import CodeMigration.Report.Structured
import CodeMigration.Report.Terminal
import CodeMigration.Rule
import CodeMigration.Rule.Import
import CodeMigration.Rule.Reference
import CodeMigration.Run
import CodeMigration.Selection
import CodeMigration.Settings
import CodeMigration.Settings.Document
import CodeMigration.Settings.Load
import CodeMigration.Style
import CodeMigration.Template
import CodeMigration.Text
import CodeMigration.Text.Quoted
import CodeMigration.Time.Span
import CodeMigration.Time.Stamp
import CodeMigration.Toml
import CodeMigration.Toml.Document
import CodeMigration.Toml.Quoted
import CodeMigration.Toml.Reader
import CodeMigration.Toml.Scalar
import CodeMigration.Toml.Writer
import CodeMigration.Trigger
import CodeMigration.Unicode.Basic
import CodeMigration.Unicode.Binary
import CodeMigration.Unicode.CaseFold
import CodeMigration.Unicode.Category
import CodeMigration.Unicode.Property
import CodeMigration.Unicode.Runs
import CodeMigration.Unicode.Script
import CodeMigration.Unicode.ScriptExtension
import CodeMigration.Writer
