import WatchParty.Binary64
import WatchParty.Binary64.Decimal
import WatchParty.Gateway
import WatchParty.Gateway.Message
import WatchParty.Http.Answer
import WatchParty.Http.Document
import WatchParty.Http.Handshake
import WatchParty.Http.MediaType
import WatchParty.Http.NewRoom
import WatchParty.Http.Query
import WatchParty.Http.Refusal
import WatchParty.Http.Route
import WatchParty.Http.Session
import WatchParty.IdMap
import WatchParty.Identifier
import WatchParty.Instant
import WatchParty.Journal
import WatchParty.Journal.Line
import WatchParty.Json
import WatchParty.Json.Number
import WatchParty.Json.Reader
import WatchParty.Lobby
import WatchParty.Main
import WatchParty.Playback.Clock
import WatchParty.Playback.Command
import WatchParty.Presence
import WatchParty.Room
import WatchParty.Room.Operation
import WatchParty.Room.Refusal
import WatchParty.Rules
import WatchParty.Server
import WatchParty.Startup
import WatchParty.Store
import WatchParty.Store.Fault
import WatchParty.Store.Row
import WatchParty.Text.Blank
import WatchParty.Text.CaseTable
import WatchParty.Text.Form
import WatchParty.Text.Integer
import WatchParty.Text.Lowercase
import WatchParty.Text.Utf8
import WatchParty.Topics
import WatchParty.Venue
import WatchParty.Venue.Connections
import WatchParty.Venue.Identity
import WatchParty.Venue.Listing
import WatchParty.Venue.Restore
import WatchParty.Venue.Rooms
import WatchParty.Wire
import WatchParty.Proofs.Binary64
import WatchParty.Proofs.Clock
import WatchParty.Proofs.Clock.Bounds
import WatchParty.Proofs.Clock.Continuity
import WatchParty.Proofs.Clock.History
import WatchParty.Proofs.IdMap
import WatchParty.Proofs.Operation
import WatchParty.Proofs.Presence
import WatchParty.Proofs.Room
import WatchParty.Proofs.Store
import WatchParty.Proofs.Venue
import WatchParty.Proofs.Verdict
import WatchParty.Proofs.Room.Operation
import WatchParty.Proofs.Call
import WatchParty.Proofs.Restore
import WatchParty.Proofs.Run
import WatchParty.Proofs.Invariant
import WatchParty.Proofs.Refusal
import WatchParty.Proofs.Restart
import WatchParty.Proofs.Topics
import WatchParty.Proofs.Broadcast
import WatchParty.Proofs.Change
import WatchParty.Proofs.Connections
import WatchParty.Proofs.Course
import WatchParty.Proofs.Cursor
import WatchParty.Proofs.Cursor.Codec
import WatchParty.Proofs.Leafing
import WatchParty.Proofs.Lineage
import WatchParty.Proofs.Paging
import WatchParty.Proofs.Publishing
import WatchParty.Proofs.Stream
import WatchParty.Proofs.Walk
import WatchParty.Proofs.Ownership
import WatchParty.Proofs.RoomTime
import WatchParty.Proofs.Authority
import WatchParty.Proofs.Credentials
import WatchParty.Proofs.Repetition
import WatchParty.Proofs.Waiting
import WatchParty.Proofs.Farewell
import WatchParty.Proofs.Genuine
import WatchParty.Proofs.Locality
import WatchParty.Proofs.Isolation
import WatchParty.Proofs.Presence.Succession
import WatchParty.Proofs.Presence.History
import WatchParty.Proofs.Store.Integrity
import WatchParty.Proofs.Store.Mending
import WatchParty.Proofs.Repair
import WatchParty.Proofs.Text.Integer
import WatchParty.Proofs.Text.Lowercase
import WatchParty.Proofs.Search
import WatchParty.Proofs.Arrangement
import WatchParty.Proofs.Conversation
import WatchParty.Proofs.Gateway
import WatchParty.Proofs.Accounts
import WatchParty.Proofs.Answering
import WatchParty.Proofs.Creation
import WatchParty.Proofs.Route
import WatchParty.Proofs.Clock.Saving
import WatchParty.Proofs.Store.Ledger
import WatchParty.Proofs.Text.Blank
import WatchParty.Proofs.Identity
