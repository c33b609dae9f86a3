import SelfUpdate.Calendar
import SelfUpdate.Checker
import SelfUpdate.Checksum
import SelfUpdate.CommandLine.Arguments
import SelfUpdate.CommandLine.Run
import SelfUpdate.Decimal.Binary64
import SelfUpdate.Decimal.Shortest
import SelfUpdate.Digest
import SelfUpdate.Directories
import SelfUpdate.Disk.Action
import SelfUpdate.Disk.Basic
import SelfUpdate.Disk.Error
import SelfUpdate.Disk.Operation
import SelfUpdate.Disk.Resolve
import SelfUpdate.Download.Cleanup
import SelfUpdate.Download.Error
import SelfUpdate.Download.Slot
import SelfUpdate.Download.Transfer
import SelfUpdate.Downloader
import SelfUpdate.Failure
import SelfUpdate.Installer
import SelfUpdate.Json.Error
import SelfUpdate.Json.Printer
import SelfUpdate.Json.Reader
import SelfUpdate.Json.Record
import SelfUpdate.Json.Token
import SelfUpdate.Json.Value
import SelfUpdate.Log.Record
import SelfUpdate.Log.Start
import SelfUpdate.Main
import SelfUpdate.Manager.Basic
import SelfUpdate.Manager.Error
import SelfUpdate.Manager.Install
import SelfUpdate.Manager.Session
import SelfUpdate.Network.Address
import SelfUpdate.Network.Basic
import SelfUpdate.Network.Client
import SelfUpdate.Network.Error
import SelfUpdate.Path
import SelfUpdate.Policy
import SelfUpdate.Proofs.Check.Comparison
import SelfUpdate.Proofs.Check.Determinacy
import SelfUpdate.Proofs.Check.Gates
import SelfUpdate.Proofs.Check.Outcomes
import SelfUpdate.Proofs.Check.Provenance
import SelfUpdate.Proofs.Checker
import SelfUpdate.Proofs.Checksum.Entries
import SelfUpdate.Proofs.Checksum.Listings
import SelfUpdate.Proofs.CommandLine.Commands
import SelfUpdate.Proofs.CommandLine.Histories
import SelfUpdate.Proofs.Computation
import SelfUpdate.Proofs.Digest
import SelfUpdate.Proofs.Digest.Streaming
import SelfUpdate.Proofs.Directories
import SelfUpdate.Proofs.Disk.Ancestors
import SelfUpdate.Proofs.Disk.Atomicity
import SelfUpdate.Proofs.Disk.Canonical
import SelfUpdate.Proofs.Disk.Changes
import SelfUpdate.Proofs.Disk.Confinement
import SelfUpdate.Proofs.Disk.DeadEnds
import SelfUpdate.Proofs.Disk.Directories
import SelfUpdate.Proofs.Disk.Entries
import SelfUpdate.Proofs.Disk.Exchanges
import SelfUpdate.Proofs.Disk.Lengths
import SelfUpdate.Proofs.Disk.Lexical
import SelfUpdate.Proofs.Disk.Locations
import SelfUpdate.Proofs.Disk.Operations
import SelfUpdate.Proofs.Disk.Parents
import SelfUpdate.Proofs.Disk.Removals
import SelfUpdate.Proofs.Disk.Replacement
import SelfUpdate.Proofs.Disk.Rereading
import SelfUpdate.Proofs.Disk.Sides
import SelfUpdate.Proofs.Disk.Sizes
import SelfUpdate.Proofs.Disk.Texts
import SelfUpdate.Proofs.Disk.Vacancies
import SelfUpdate.Proofs.Disk.Veils
import SelfUpdate.Proofs.Disk.Walks
import SelfUpdate.Proofs.Disk.Ways
import SelfUpdate.Proofs.Download.Abreast
import SelfUpdate.Proofs.Download.Commitment
import SelfUpdate.Proofs.Download.Concurrency
import SelfUpdate.Proofs.Download.Confinement
import SelfUpdate.Proofs.Download.Courses
import SelfUpdate.Proofs.Download.Crashes
import SelfUpdate.Proofs.Download.Custody
import SelfUpdate.Proofs.Download.Endings
import SelfUpdate.Proofs.Download.Frames
import SelfUpdate.Proofs.Download.Integrity
import SelfUpdate.Proofs.Download.Limits
import SelfUpdate.Proofs.Download.Moves
import SelfUpdate.Proofs.Download.Names
import SelfUpdate.Proofs.Download.Parallels
import SelfUpdate.Proofs.Download.Percentages
import SelfUpdate.Proofs.Download.Progress
import SelfUpdate.Proofs.Download.Promotion
import SelfUpdate.Proofs.Download.Refusals
import SelfUpdate.Proofs.Download.Remains
import SelfUpdate.Proofs.Download.Requests
import SelfUpdate.Proofs.Download.Scenes
import SelfUpdate.Proofs.Download.Serial
import SelfUpdate.Proofs.Download.Slots
import SelfUpdate.Proofs.Download.Specification
import SelfUpdate.Proofs.Download.Stages
import SelfUpdate.Proofs.Download.Sweeps
import SelfUpdate.Proofs.Download.Thoroughness
import SelfUpdate.Proofs.Frame
import SelfUpdate.Proofs.Json.Decoding
import SelfUpdate.Proofs.Json.Fields
import SelfUpdate.Proofs.Json.Grammar
import SelfUpdate.Proofs.Json.Layouts
import SelfUpdate.Proofs.Json.Numerals
import SelfUpdate.Proofs.Json.Objects
import SelfUpdate.Proofs.Json.Records
import SelfUpdate.Proofs.Json.Scalars
import SelfUpdate.Proofs.Json.Skipping
import SelfUpdate.Proofs.Json.Sorted
import SelfUpdate.Proofs.Json.Texts
import SelfUpdate.Proofs.Json.Tokens
import SelfUpdate.Proofs.Log
import SelfUpdate.Proofs.Log.Trimming
import SelfUpdate.Proofs.Manager.Calls
import SelfUpdate.Proofs.Manager.Confinement
import SelfUpdate.Proofs.Manager.Counterparts
import SelfUpdate.Proofs.Manager.Dismissal
import SelfUpdate.Proofs.Manager.Gate
import SelfUpdate.Proofs.Manager.Handoff
import SelfUpdate.Proofs.Manager.Inquiries
import SelfUpdate.Proofs.Manager.Installs
import SelfUpdate.Proofs.Manager.Ledgers
import SelfUpdate.Proofs.Manager.Overrides
import SelfUpdate.Proofs.Manager.Persistence
import SelfUpdate.Proofs.Manager.Privacy
import SelfUpdate.Proofs.Manager.Rejections
import SelfUpdate.Proofs.Manager.Remembering
import SelfUpdate.Proofs.Manager.Requests
import SelfUpdate.Proofs.Manager.Scenes
import SelfUpdate.Proofs.Manager.Spacing
import SelfUpdate.Proofs.Manager.Trees
import SelfUpdate.Proofs.Policy
import SelfUpdate.Proofs.Policy.Content
import SelfUpdate.Proofs.Release.Codes
import SelfUpdate.Proofs.Release.Documents
import SelfUpdate.Proofs.Release.Hosted
import SelfUpdate.Proofs.Release.Records
import SelfUpdate.Proofs.Release.RoundTrip
import SelfUpdate.Proofs.Requests
import SelfUpdate.Proofs.SafeName
import SelfUpdate.Proofs.Settings
import SelfUpdate.Proofs.Text.Trim
import SelfUpdate.Proofs.Text.Words
import SelfUpdate.Proofs.Worker
import SelfUpdate.Proofs.Worker.Calls
import SelfUpdate.Proofs.Worker.Progress
import SelfUpdate.Proofs.Worker.Protocol
import SelfUpdate.Proofs.Worker.Service
import SelfUpdate.Proofs.World
import SelfUpdate.Release.Document
import SelfUpdate.Release.Error
import SelfUpdate.Release.Hosted
import SelfUpdate.Release.Metadata
import SelfUpdate.Release.Update
import SelfUpdate.Release.Version
import SelfUpdate.SafeName
import SelfUpdate.Settings
import SelfUpdate.Sha256
import SelfUpdate.Text.Blank
import SelfUpdate.Text.Case
import SelfUpdate.Text.Glyphless
import SelfUpdate.Text.Lines
import SelfUpdate.Text.Quoted
import SelfUpdate.Text.Utf8
import SelfUpdate.Throttle
import SelfUpdate.Url
import SelfUpdate.Worker
import SelfUpdate.World
