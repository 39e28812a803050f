import ActivityFeed.Main
import ActivityFeed.Proofs.Record.Wire
import ActivityFeed.Proofs.Store.Kept
import ActivityFeed.Proofs.Sync.CatchUp
import ActivityFeed.Proofs.Sync.Recut
import ActivityFeed.Proofs.Sync.Unread
import ActivityFeed.Proofs.Frame.Written
import ActivityFeed.Proofs.Store.Arrival
import ActivityFeed.Proofs.Retry.Delay
import ActivityFeed.Proofs.Sync.Attempts
import ActivityFeed.Proofs.Sync.Retries
import ActivityFeed.Proofs.Record.Routes
import ActivityFeed.Proofs.Sync.Phases
import ActivityFeed.Proofs.Record.Again
import ActivityFeed.Proofs.Frame.BlankLine
import ActivityFeed.Proofs.Store.Admission
import ActivityFeed.Proofs.Sync.Account
import ActivityFeed.Proofs.Sync.Cursors
import ActivityFeed.Proofs.Sync.Counters
import ActivityFeed.Proofs.Sync.Streamward
import ActivityFeed.Proofs.Sync.Loaderward
import ActivityFeed.Proofs.Sync.Apart
import ActivityFeed.Proofs.Store.Insertion
import ActivityFeed.Proofs.Instant.DateOrder
import ActivityFeed.Proofs.Instant.FieldOrder
import ActivityFeed.Proofs.Http.Query
import ActivityFeed.Proofs.Store.Resent
import ActivityFeed.Proofs.Record.Validation
import ActivityFeed.Proofs.Json.Grammar
import ActivityFeed.Proofs.Json.Accepted
import ActivityFeed.Proofs.Record.PageBody
import ActivityFeed.Proofs.Instant.Stamp
import ActivityFeed.Proofs.Command.FrameLimit
import ActivityFeed.Proofs.Command.LinePerRecord
import ActivityFeed.Proofs.Command.Stays
import ActivityFeed.Proofs.Visibility.Flips
import ActivityFeed.Proofs.Retry.Schedule
import ActivityFeed.Proofs.Http.Excerpt
