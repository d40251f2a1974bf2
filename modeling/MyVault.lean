import MyVault.Library.EditScript
import MyVault.Library.SequenceDiff
import MyVault.Library.SelfDelimiting
import MyVault.Library.Program
import MyVault.Library.Table
import MyVault.Library.SortedMap
import MyVault.Library.InsertionMap
import MyVault.Library.Runs
import MyVault.Library.Process
import MyVault.Core.Text
import MyVault.Core.Digest
import MyVault.Core.Identifiers
import MyVault.Core.Path
import MyVault.Core.Watcher
import MyVault.Markdown.Model
import MyVault.Markdown.Scripts
import MyVault.Markdown.Grammar
import MyVault.Markdown.Merge
import MyVault.Markdown.Document
import MyVault.Conflict.Cells
import MyVault.Conflict.Identity
import MyVault.Conflict.IdentityStream
import MyVault.Conflict.CopyNames
import MyVault.Store.Records
import MyVault.Store.Validation
import MyVault.Store.Database
import MyVault.Store.Footprint
import MyVault.Store.Mutation
import MyVault.Store.Scan
import MyVault.Store.Jobs
import MyVault.Store.Transfer
import MyVault.Store.Batch
import MyVault.Store.Operation
import MyVault.Store.Moves
import MyVault.Store.Completion
import MyVault.Store.Blocked
import MyVault.Conflict.Evidence
import MyVault.Conflict.Classifier
import MyVault.Conflict.LocalWork
import MyVault.Store.Batches
import MyVault.Store.Cursor
import MyVault.Store.TransferMoves
import MyVault.Conflict.Materialization
import MyVault.Conflict.Drafts
import MyVault.Conflict.Accepted
import MyVault.Conflict.Completable
import MyVault.Store.ValidIntents
import MyVault.Conflict.Registrable
import MyVault.Conflict.Sealing
import MyVault.Conflict.Replay
import MyVault.Conflict.DeadEnds
import MyVault.Conflict.SealedBytes
import MyVault.Library.Dispatch
import MyVault.Library.Log
import MyVault.Store.BatchCursor
import MyVault.Store.JobMoves
import MyVault.Store.Dispatch
import MyVault.Store.EventLog
import MyVault.Store.TransferTimes
import MyVault.Store.RemoteBase
import MyVault.Store.Preview
import MyVault.Store.ResolvedBatch
import MyVault.Store.ScanTree
import MyVault.Transfer.Worker
import MyVault.Transfer.Disposition
import MyVault.Core.Json
import MyVault.Core.Directory
import MyVault.Snapshots.Manifest
import MyVault.Snapshots.Retention
import MyVault.Snapshots.GcPlan
import MyVault.Snapshots.Supported
import MyVault.Snapshots.PlanBound
import MyVault.Snapshots.Selection
import MyVault.Snapshots.Rounds
import MyVault.Snapshots.Publication
import MyVault.Snapshots.Opening
import MyVault.Snapshots.Publishing
import MyVault.Snapshots.CrashSafety
import MyVault.Vault.FileTree
import MyVault.Vault.Inventory
import MyVault.Vault.Addressable
import MyVault.Vault.Errors
import MyVault.Vault.Disk
import MyVault.Vault.Content
import MyVault.Vault.DerivedIndex
import MyVault.Vault.Moves
import MyVault.Vault.Looks
import MyVault.Vault.Publish
import MyVault.Vault.Outcomes
import MyVault.Vault.Writes
import MyVault.Vault.Relocations
import MyVault.Vault.Truthful
import MyVault.Drive.Files
import MyVault.Drive.Client
import MyVault.Drive.Ancestry
import MyVault.Library.Invariant
import MyVault.Transfer.PathSets
import MyVault.Vault.Creation
import MyVault.Vault.FaultFree
import MyVault.Vault.Collisions
import MyVault.Vault.Aliases
import MyVault.Saf.Documents
import MyVault.Saf.Walk
import MyVault.Saf.Addressing
import MyVault.Saf.Base64
import MyVault.Saf.CanonicalBase64
import MyVault.Saf.Sessions
import MyVault.Saf.Bridge
import MyVault.Saf.Ownership
import MyVault.Saf.Exchanges
import MyVault.Saf.LettingGo
import MyVault.Saf.Transcripts
import MyVault.Saf.Undisturbed
import MyVault.Saf.Exactness
import MyVault.Drive.Provider
import MyVault.Drive.Transfer
import MyVault.Drive.Requests
import MyVault.Transfer.Upload
import MyVault.Transfer.OneFile
import MyVault.Transfer.RetryPath
import MyVault.Conflict.CreatedNames
import MyVault.Conflict.Envelopes
import MyVault.Conflict.PlannedEvidence
import MyVault.Runtime.Commands
import MyVault.Runtime.Marker
import MyVault.Editor.Workspace
import MyVault.Editor.Edits
import MyVault.Service.SaveNote
import MyVault.Service.SavedVersions
import MyVault.Core.Utf8
import MyVault.Auth.Request
import MyVault.Auth.Reading
import MyVault.Auth.Callback
import MyVault.Drive.Resumable
import MyVault.PrivateRoot.BaseObjects
import MyVault.Recovery.Bindings
import MyVault.Transfer.ChunkLoop
import MyVault.Saf.ChangeHint
import MyVault.Runtime.PreviewTrip
import MyVault.Runtime.SyncPanel
import MyVault.Recovery.Journal
import MyVault.Transfer.PrivateStore
import MyVault.Transfer.RobustCalls
import MyVault.Transfer.StoreAlone
