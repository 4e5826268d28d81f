import LiveBuild.Build.Asset
import LiveBuild.Build.Error
import LiveBuild.Build.Event
import LiveBuild.Build.Graph
import LiveBuild.Build.Imports
import LiveBuild.Build.Lookup
import LiveBuild.Build.Options
import LiveBuild.Build.Record
import LiveBuild.Build.Register
import LiveBuild.Build.Scripted
import LiveBuild.Build.Session
import LiveBuild.Build.SourceTransform
import LiveBuild.Build.Task
import LiveBuild.Build.Walk
import LiveBuild.CommandLine
import LiveBuild.Digest
import LiveBuild.Digest.Blake3
import LiveBuild.Failure
import LiveBuild.Files.Basic
import LiveBuild.Files.Disk
import LiveBuild.Files.Edit
import LiveBuild.Files.Tree
import LiveBuild.Glob
import LiveBuild.Json.Basic
import LiveBuild.Json.Decode
import LiveBuild.Json.Parser
import LiveBuild.Json.Printer
import LiveBuild.Log
import LiveBuild.Main
import LiveBuild.Pages.Changes
import LiveBuild.Pages.History
import LiveBuild.Pages.Route
import LiveBuild.Pages.State
import LiveBuild.Pages.Update
import LiveBuild.Path.Basic
import LiveBuild.Path.Map
import LiveBuild.Pattern.Basic
import LiveBuild.Pattern.CodeSet
import LiveBuild.Pattern.Parser
import LiveBuild.Pattern.Property
import LiveBuild.Program.Basic
import LiveBuild.Program.Run
import LiveBuild.Program.Watch
import LiveBuild.Proofs.Bystanders
import LiveBuild.Proofs.Claims
import LiveBuild.Proofs.Closure
import LiveBuild.Proofs.Comparison
import LiveBuild.Proofs.Confinement
import LiveBuild.Proofs.Coverage
import LiveBuild.Proofs.Custody
import LiveBuild.Proofs.Delivery
import LiveBuild.Proofs.Descent
import LiveBuild.Proofs.Desertion
import LiveBuild.Proofs.Exchange
import LiveBuild.Proofs.Exclusion
import LiveBuild.Proofs.FailedBuilds
import LiveBuild.Proofs.Formats
import LiveBuild.Proofs.Histories
import LiveBuild.Proofs.ImportGraph
import LiveBuild.Proofs.Importers
import LiveBuild.Proofs.JsonText
import LiveBuild.Proofs.Links
import LiveBuild.Proofs.LiveWatch
import LiveBuild.Proofs.ModuleHost
import LiveBuild.Proofs.Namesakes
import LiveBuild.Proofs.Outputs
import LiveBuild.Proofs.Ownership
import LiveBuild.Proofs.Passes
import LiveBuild.Proofs.PathParts
import LiveBuild.Proofs.PathTables
import LiveBuild.Proofs.Places
import LiveBuild.Proofs.Pursuit
import LiveBuild.Proofs.ReadBack
import LiveBuild.Proofs.RebuildGuard
import LiveBuild.Proofs.Rebuilds
import LiveBuild.Proofs.RecordKeys
import LiveBuild.Proofs.Refusals
import LiveBuild.Proofs.RegisterCalls
import LiveBuild.Proofs.RegisterTables
import LiveBuild.Proofs.Releases
import LiveBuild.Proofs.Reports
import LiveBuild.Proofs.Requesters
import LiveBuild.Proofs.Requests
import LiveBuild.Proofs.Rest
import LiveBuild.Proofs.Routing
import LiveBuild.Proofs.Saves
import LiveBuild.Proofs.Settlement
import LiveBuild.Proofs.SharedBuild
import LiveBuild.Proofs.Shortfall
import LiveBuild.Proofs.Skips
import LiveBuild.Proofs.Staleness
import LiveBuild.Proofs.Subscribers
import LiveBuild.Proofs.Tally
import LiveBuild.Proofs.TaskTree
import LiveBuild.Proofs.Telling
import LiveBuild.Proofs.Termination
import LiveBuild.Proofs.TextTables
import LiveBuild.Proofs.Totals
import LiveBuild.Proofs.Trees
import LiveBuild.Proofs.Turns
import LiveBuild.Proofs.Waiting
import LiveBuild.Proofs.Walks
import LiveBuild.Proofs.WatchTurns
import LiveBuild.Proofs.WatchedSet
import LiveBuild.Service.Action
import LiveBuild.Service.Basic
import LiveBuild.Service.Turn
import LiveBuild.Settings.Basic
import LiveBuild.Settings.Checks
import LiveBuild.Settings.Grammars
import LiveBuild.Settings.Reader
import LiveBuild.Text.Quoted
import LiveBuild.Text.Table
import LiveBuild.Text.Unicode.CaseFold
import LiveBuild.Text.Unicode.Category
import LiveBuild.Text.Unicode.Extender
import LiveBuild.Text.Unicode.Property
import LiveBuild.Text.Unicode.Ranges
import LiveBuild.Text.Unicode.Script
import LiveBuild.Text.Unicode.Word
import LiveBuild.Text.Utf8
import LiveBuild.Toml.Basic
import LiveBuild.Toml.Document
import LiveBuild.Toml.Parser
import LiveBuild.Watch.Change
import LiveBuild.Watch.Directory
import LiveBuild.Watch.Modules
import LiveBuild.Watch.Pending
import LiveBuild.Watch.Session
import LiveBuild.Watch.Sources
import LiveBuild.Worker.Message
import LiveBuild.Worker.Requester
import LiveBuild.Proofs.LiveUpdates
import LiveBuild.Proofs.NormalPaths
import LiveBuild.Proofs.WordCharacters
import LiveBuild.Proofs.ImportReaders
import LiveBuild.Proofs.ImportStatements
import LiveBuild.Proofs.ImportScan
import LiveBuild.Proofs.ImportLookup
import LiveBuild.Proofs.GrownTrees
import LiveBuild.Proofs.VisibleFiles
import LiveBuild.Proofs.Aggregates
import LiveBuild.Proofs.HashedAssets
import LiveBuild.Proofs.Routes
import LiveBuild.Proofs.Deadlines
import LiveBuild.Proofs.TreeListings
import LiveBuild.Proofs.BuildRecords
import LiveBuild.Proofs.UpdateLines
import LiveBuild.Proofs.UsableSettings
