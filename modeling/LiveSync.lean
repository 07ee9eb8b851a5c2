import LiveSync.Cache.Bridge
import LiveSync.Cache.Key
import LiveSync.Cache.Rule
import LiveSync.Cache.Station
import LiveSync.Cache.Sync
import LiveSync.Client
import LiveSync.Clock
import LiveSync.Connection.Basic
import LiveSync.Connection.State
import LiveSync.Connection.Step
import LiveSync.Connection.Turn
import LiveSync.Credential
import LiveSync.Decimal.Double
import LiveSync.Decimal.Shortest
import LiveSync.Dedup
import LiveSync.Endpoint
import LiveSync.EventName
import LiveSync.Fault
import LiveSync.Frame
import LiveSync.Heartbeat
import LiveSync.Idna
import LiveSync.Idna.Label
import LiveSync.Idna.Mapping
import LiveSync.Idna.MappingTable
import LiveSync.Idna.Punycode
import LiveSync.Json.Parser
import LiveSync.Json.Printer
import LiveSync.Json.Record
import LiveSync.Json.Value
import LiveSync.Notice
import LiveSync.Options
import LiveSync.Payload.KeyCase
import LiveSync.Payload.Normalizer
import LiveSync.Payload.Subject
import LiveSync.Proofs.Cache.Bursts
import LiveSync.Proofs.Cache.Coalescing
import LiveSync.Proofs.Cache.Leftovers
import LiveSync.Proofs.Cache.Redelivery
import LiveSync.Proofs.Cache.Stations
import LiveSync.Proofs.Cache.Store
import LiveSync.Proofs.Cache.Threads
import LiveSync.Proofs.Cache.Upkeep
import LiveSync.Proofs.Cache.Windows
import LiveSync.Proofs.Connection.Answers
import LiveSync.Proofs.Connection.Coherence
import LiveSync.Proofs.Connection.Deeds
import LiveSync.Proofs.Connection.Dialling
import LiveSync.Proofs.Connection.Filtering
import LiveSync.Proofs.Connection.Grants
import LiveSync.Proofs.Connection.Handshake
import LiveSync.Proofs.Connection.Interest
import LiveSync.Proofs.Connection.Marks
import LiveSync.Proofs.Connection.Publications
import LiveSync.Proofs.Connection.Reaction
import LiveSync.Proofs.Connection.Relay
import LiveSync.Proofs.Connection.Requests
import LiveSync.Proofs.Connection.Rest
import LiveSync.Proofs.Connection.Retries
import LiveSync.Proofs.Connection.Signals
import LiveSync.Proofs.Connection.States
import LiveSync.Proofs.Connection.Steps
import LiveSync.Proofs.Connection.Strides
import LiveSync.Proofs.Connection.Timers
import LiveSync.Proofs.Connection.Views
import LiveSync.Proofs.Counters
import LiveSync.Proofs.Credential
import LiveSync.Proofs.Credential.Claims
import LiveSync.Proofs.Decimal.Shortest
import LiveSync.Proofs.Dedup.Eviction
import LiveSync.Proofs.Dedup.Fingerprint
import LiveSync.Proofs.Dedup.Log
import LiveSync.Proofs.Dedup.Provenance
import LiveSync.Proofs.Dedup.Window
import LiveSync.Proofs.Endpoint
import LiveSync.Proofs.Exchange.Basic
import LiveSync.Proofs.Exchange.Held
import LiveSync.Proofs.Exchange.KeyCase
import LiveSync.Proofs.Exchange.Salvage
import LiveSync.Proofs.Exchange.ServerPings
import LiveSync.Proofs.Exchange.Turns
import LiveSync.Proofs.Frame
import LiveSync.Proofs.Frame.Nameless
import LiveSync.Proofs.Heartbeat.Calls
import LiveSync.Proofs.Heartbeat.Pings
import LiveSync.Proofs.Heartbeat.Silence
import LiveSync.Proofs.Json.Fields
import LiveSync.Proofs.Json.Lookup
import LiveSync.Proofs.Json.Numerals
import LiveSync.Proofs.Json.Reading
import LiveSync.Proofs.Json.Rendering
import LiveSync.Proofs.Json.Values
import LiveSync.Proofs.Payload.Canonical
import LiveSync.Proofs.Payload.Exclusion
import LiveSync.Proofs.Payload.KeyCase
import LiveSync.Proofs.Payload.Recasing
import LiveSync.Proofs.Payload.Returning
import LiveSync.Proofs.Payload.Spellings
import LiveSync.Proofs.Registry.Access
import LiveSync.Proofs.Registry.Active
import LiveSync.Proofs.Registry.Callers
import LiveSync.Proofs.Registry.Changes
import LiveSync.Proofs.Registry.Deadlines
import LiveSync.Proofs.Registry.Entries
import LiveSync.Proofs.Registry.Expiry
import LiveSync.Proofs.Registry.Phases
import LiveSync.Proofs.Registry.Replies
import LiveSync.Proofs.Registry.Separation
import LiveSync.Proofs.Registry.Statuses
import LiveSync.Proofs.Router.Emissions
import LiveSync.Proofs.Router.Histories
import LiveSync.Proofs.Router.Shares
import LiveSync.Proofs.Session.Calls
import LiveSync.Proofs.Session.Handshake
import LiveSync.Proofs.Session.Hearing
import LiveSync.Proofs.Session.Monitor
import LiveSync.Proofs.Session.Reactions
import LiveSync.Proofs.Session.Standing
import LiveSync.Proofs.Session.Timers
import LiveSync.Proofs.Text.Base64
import LiveSync.Proofs.Text.Order
import LiveSync.Proofs.Text.Split
import LiveSync.Proofs.Text.Utf8
import LiveSync.Proofs.Timeouts
import LiveSync.Proofs.TokenMonitor.Commands
import LiveSync.Proofs.TokenMonitor.Convergence
import LiveSync.Proofs.TokenMonitor.Rotation
import LiveSync.Proofs.TokenMonitor.Turns
import LiveSync.Proofs.Url.Host
import LiveSync.Proofs.Url.Path
import LiveSync.Proofs.Url.Reading
import LiveSync.Registry
import LiveSync.Router
import LiveSync.Router.Script
import LiveSync.Session.Basic
import LiveSync.Session.Client
import LiveSync.Session.Run
import LiveSync.Session.Server
import LiveSync.SipHash
import LiveSync.Subscription
import LiveSync.Text.Base64
import LiveSync.Text.Blank
import LiveSync.Text.Split
import LiveSync.Text.Utf8
import LiveSync.Timeouts
import LiveSync.TokenMonitor
import LiveSync.Transport.Memory
import LiveSync.Transport.Rejection
import LiveSync.Unicode.Composition
import LiveSync.Unicode.Property
import LiveSync.Unicode.PropertyTable
import LiveSync.Unicode.Runs
import LiveSync.Url
import LiveSync.Url.Host
import LiveSync.Url.Path
