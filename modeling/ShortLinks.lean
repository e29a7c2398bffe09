import ShortLinks.Database.Address
import ShortLinks.Database.Failure
import ShortLinks.Database.Retry
import ShortLinks.Database.Tables
import ShortLinks.Database.Transient
import ShortLinks.Deletion.Pending
import ShortLinks.Deletion.Request
import ShortLinks.Deletion.Sink
import ShortLinks.Deletion.Timeline
import ShortLinks.Deletion.Tombstone
import ShortLinks.Deletion.Worker
import ShortLinks.Disk.Basic
import ShortLinks.Disk.Errno
import ShortLinks.Fault.Basic
import ShortLinks.Fault.Paint
import ShortLinks.Insertion
import ShortLinks.Json.Basic
import ShortLinks.Json.Reader
import ShortLinks.Json.Writer
import ShortLinks.Keeper.Basic
import ShortLinks.Keeper.Choice
import ShortLinks.Keeper.Database
import ShortLinks.Keeper.File
import ShortLinks.Keeper.LinkIndex
import ShortLinks.Keeper.Memory
import ShortLinks.Keeper.Unreliable
import ShortLinks.Keeper.UserIndex
import ShortLinks.Launch
import ShortLinks.Link.Basic
import ShortLinks.Link.Json
import ShortLinks.Link.Key
import ShortLinks.Logging.Date
import ShortLinks.Logging.Filter
import ShortLinks.Logging.Output
import ShortLinks.Main
import ShortLinks.Number.Binary64
import ShortLinks.Number.DecimalText
import ShortLinks.Proofs.Database.Addresses
import ShortLinks.Proofs.Database.Copies
import ShortLinks.Proofs.Database.Counts
import ShortLinks.Proofs.Database.Interruption
import ShortLinks.Proofs.Database.LockConflicts
import ShortLinks.Proofs.Database.Pauses
import ShortLinks.Proofs.Database.Retries
import ShortLinks.Proofs.Database.Rows
import ShortLinks.Proofs.Deletion.BackOff
import ShortLinks.Proofs.Deletion.Coalescing
import ShortLinks.Proofs.Deletion.Conservation
import ShortLinks.Proofs.Deletion.Durability
import ShortLinks.Proofs.Deletion.Gathering
import ShortLinks.Proofs.Deletion.Marking
import ShortLinks.Proofs.Deletion.Merging
import ShortLinks.Proofs.Deletion.Moves
import ShortLinks.Proofs.Deletion.Pending
import ShortLinks.Proofs.Deletion.Timeline
import ShortLinks.Proofs.Disk.Changes
import ShortLinks.Proofs.Disk.Drafts
import ShortLinks.Proofs.Disk.Files
import ShortLinks.Proofs.Json.Fused
import ShortLinks.Proofs.Json.RoundTrip
import ShortLinks.Proofs.Keeper.Appending
import ShortLinks.Proofs.Keeper.BatchReport
import ShortLinks.Proofs.Keeper.Faltering
import ShortLinks.Proofs.Keeper.Greedy
import ShortLinks.Proofs.Keeper.Indexed
import ShortLinks.Proofs.Keeper.Interchange
import ShortLinks.Proofs.Keeper.LinkIndex
import ShortLinks.Proofs.Keeper.Lossless
import ShortLinks.Proofs.Keeper.Matched
import ShortLinks.Proofs.Keeper.Narrowed
import ShortLinks.Proofs.Keeper.Records
import ShortLinks.Proofs.Keeper.Registering
import ShortLinks.Proofs.Keeper.Repetition
import ShortLinks.Proofs.Keeper.Restarts
import ShortLinks.Proofs.Keeper.Undoing
import ShortLinks.Proofs.Keeper.Untouched
import ShortLinks.Proofs.Link.Key
import ShortLinks.Proofs.Link.Spellings
import ShortLinks.Proofs.Link.Table
import ShortLinks.Proofs.Run
import ShortLinks.Proofs.Store.Accounting
import ShortLinks.Proofs.Store.Agreement
import ShortLinks.Proofs.Store.Authority
import ShortLinks.Proofs.Store.Batch
import ShortLinks.Proofs.Store.InMemory
import ShortLinks.Proofs.Store.Listing
import ShortLinks.Proofs.Store.OlderLinks
import ShortLinks.Proofs.Store.OwnKey
import ShortLinks.Proofs.Store.PlainTexts
import ShortLinks.Proofs.Store.Reading
import ShortLinks.Proofs.Store.Reconcile
import ShortLinks.Proofs.Store.Registration
import ShortLinks.Proofs.Store.Reopening
import ShortLinks.Proofs.Store.Stability
import ShortLinks.Proofs.Store.Tombstones
import ShortLinks.Proofs.Store.UniqueUrls
import ShortLinks.Proofs.Store.Write
import ShortLinks.Proofs.Text.ByteOrder
import ShortLinks.Proofs.Text.Lines
import ShortLinks.Proofs.Url.Colons
import ShortLinks.Proofs.Url.Plain
import ShortLinks.Service
import ShortLinks.Settings.Basic
import ShortLinks.Settings.Load
import ShortLinks.Settings.Reading
import ShortLinks.Settings.Record
import ShortLinks.Settings.Sample
import ShortLinks.Settings.Scalar
import ShortLinks.Settings.Tree
import ShortLinks.Settings.VariablesFile
import ShortLinks.Store
import ShortLinks.Text.Cut
import ShortLinks.Text.Digits
import ShortLinks.Text.Letter
import ShortLinks.Text.Lower
import ShortLinks.Text.Quoted
import ShortLinks.Text.Utf8
import ShortLinks.Toml.Basic
import ShortLinks.Toml.Document
import ShortLinks.Toml.Moment
import ShortLinks.Toml.Number
import ShortLinks.Toml.Text
import ShortLinks.Url.Address
import ShortLinks.Url.Domain
import ShortLinks.Url.Domain.Composition
import ShortLinks.Url.Domain.Direction
import ShortLinks.Url.Domain.Joining
import ShortLinks.Url.Domain.Mapping
import ShortLinks.Url.Domain.Mark
import ShortLinks.Url.Domain.Punycode
import ShortLinks.Url.Host
import ShortLinks.Url.Path
import ShortLinks.Url.Percent
import ShortLinks.User.Basic
