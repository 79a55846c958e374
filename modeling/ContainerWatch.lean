import ContainerWatch.Broadcast
import ContainerWatch.CommandLine.Arguments
import ContainerWatch.CommandLine.Connection
import ContainerWatch.CommandLine.Label
import ContainerWatch.CommandLine.OptionParser
import ContainerWatch.CommandLine.Run
import ContainerWatch.CommandLine.SearchOptions
import ContainerWatch.Container.Basic
import ContainerWatch.Container.Event
import ContainerWatch.Container.History
import ContainerWatch.Container.LabelFilter
import ContainerWatch.Container.State
import ContainerWatch.Container.Usage
import ContainerWatch.Decimal.Digits
import ContainerWatch.Decimal.Shortest
import ContainerWatch.Docker.Daemon
import ContainerWatch.Docker.Description
import ContainerWatch.Docker.Field
import ContainerWatch.Docker.LogBody
import ContainerWatch.Docker.Message
import ContainerWatch.Docker.Reading
import ContainerWatch.Docker.Recording
import ContainerWatch.Entries
import ContainerWatch.Host.Fault
import ContainerWatch.Host.Scripted
import ContainerWatch.Json.Basic
import ContainerWatch.Json.Printer
import ContainerWatch.Json.Reader
import ContainerWatch.Log.Detect
import ContainerWatch.Log.Entry
import ContainerWatch.Log.Fingerprint
import ContainerWatch.Log.Frame
import ContainerWatch.Log.Group
import ContainerWatch.Log.Line
import ContainerWatch.Log.Logfmt
import ContainerWatch.Log.Pipeline
import ContainerWatch.Log.Search
import ContainerWatch.Log.Severity
import ContainerWatch.Log.Stream
import ContainerWatch.Log.Tail
import ContainerWatch.Main
import ContainerWatch.Notice
import ContainerWatch.Pattern.Basic
import ContainerWatch.Pattern.CharSet
import ContainerWatch.Pattern.Named
import ContainerWatch.Pattern.Program
import ContainerWatch.Pattern.Reader
import ContainerWatch.Pattern.Search
import ContainerWatch.Sampling.Basic
import ContainerWatch.Sampling.Task
import ContainerWatch.Settings
import ContainerWatch.Steps
import ContainerWatch.Store.Basic
import ContainerWatch.Store.Handling
import ContainerWatch.Store.Lookup
import ContainerWatch.Store.Sync
import ContainerWatch.Store.World
import ContainerWatch.Text.Blank
import ContainerWatch.Text.Cut
import ContainerWatch.Text.Utf8
import ContainerWatch.Time.Calendar
import ContainerWatch.Time.Instant
import ContainerWatch.Time.Rfc3339
import ContainerWatch.Toml.Basic
import ContainerWatch.Toml.Reader
import ContainerWatch.Toml.Scalar
import ContainerWatch.Unicode.Category
import ContainerWatch.Unicode.Digit
import ContainerWatch.Unicode.Fold
import ContainerWatch.Unicode.Property
import ContainerWatch.Unicode.Ranges
import ContainerWatch.Unicode.Script
import ContainerWatch.Unicode.Word
import ContainerWatch.Proofs.Entries
import ContainerWatch.Proofs.Rounds
import ContainerWatch.Proofs.Log.Readings
import ContainerWatch.Proofs.Log.Grouping
import ContainerWatch.Proofs.Log.Runs
import ContainerWatch.Proofs.Log.Progress
import ContainerWatch.Proofs.Log.Refinement
import ContainerWatch.Proofs.Log.Standing
import ContainerWatch.Proofs.Store.Table
import ContainerWatch.Proofs.Store.Steps
import ContainerWatch.Proofs.Store.Runs
import ContainerWatch.Proofs.Store.Death
import ContainerWatch.Proofs.Store.Replay
import ContainerWatch.Proofs.Store.Changes
import ContainerWatch.Proofs.Store.Syncing
import ContainerWatch.Proofs.Store.Following
import ContainerWatch.Proofs.Log.Grammar
import ContainerWatch.Proofs.Log.Multiplexed
import ContainerWatch.Proofs.Sampling.Engaged
import ContainerWatch.Proofs.Sampling.Lease
import ContainerWatch.Proofs.Sampling.Lifetime
import ContainerWatch.Proofs.Store.Containment
import ContainerWatch.Proofs.Store.Samplers
import ContainerWatch.Proofs.Json.RoundTrip
import ContainerWatch.Proofs.Log.Rereading
import ContainerWatch.Proofs.Log.Backpressure
import ContainerWatch.Proofs.Log.Breaking
import ContainerWatch.Proofs.Text.Utf8
import ContainerWatch.Proofs.Log.Framing
import ContainerWatch.Proofs.Broadcast.Mailboxes
import ContainerWatch.Proofs.Broadcast.Audience
import ContainerWatch.Proofs.Store.Beside
import ContainerWatch.Proofs.Store.Resync
import ContainerWatch.Proofs.Store.Feeds
import ContainerWatch.Proofs.Store.Connection
import ContainerWatch.Proofs.Store.Service
import ContainerWatch.Proofs.Sampling.Upkeep
import ContainerWatch.Proofs.Container.History
import ContainerWatch.Proofs.Store.Histories
import ContainerWatch.Proofs.Store.Telling
import ContainerWatch.Proofs.Store.Listening
import ContainerWatch.Proofs.Log.Sources
import ContainerWatch.Proofs.Log.Followers
import ContainerWatch.Proofs.Log.Projection
import ContainerWatch.Proofs.Log.Manager
import ContainerWatch.Proofs.Log.Membership
import ContainerWatch.Proofs.Text.Newlines
import ContainerWatch.Proofs.Log.Terminal
import ContainerWatch.Proofs.Log.Holding
import ContainerWatch.Proofs.Store.Failing
import ContainerWatch.Proofs.Log.Scanning
import ContainerWatch.Proofs.Log.Dates
import ContainerWatch.Proofs.Log.Decorations
import ContainerWatch.Proofs.Log.Tags
import ContainerWatch.Proofs.Log.KeyPaths
import ContainerWatch.Proofs.Container.Filtering
import ContainerWatch.Proofs.Settings
import ContainerWatch.Proofs.Log.Fingerprint
import ContainerWatch.Proofs.Log.Building
import ContainerWatch.Proofs.Text.ByteOrder
import ContainerWatch.Proofs.Store.Ordering
import ContainerWatch.Proofs.Store.Resolving
import ContainerWatch.Proofs.Word
import ContainerWatch.Proofs.Decimal
import ContainerWatch.Proofs.Time.Stamp
import ContainerWatch.Proofs.Toml.Integers
import ContainerWatch.Proofs.Windows
import ContainerWatch.Proofs.Log.Closeness
