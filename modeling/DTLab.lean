import DTLab.Library.Json
import DTLab.Library.JsonReader
import DTLab.Library.JsonRoundTrip
import DTLab.Library.JsonLoads
import DTLab.Library.Machine
import DTLab.Library.Dict
import DTLab.Contract.Event
import DTLab.Sensor.Observation
import DTLab.Sensor.Episode
import DTLab.Sensor.Aggregator
import DTLab.Library.Tally
import DTLab.Sensor.Ledger
import DTLab.Sensor.Accounting
import DTLab.Library.Latest
import DTLab.Sensor.Refinement
import DTLab.Sensor.Reports
import DTLab.Receiver.Semantics
import DTLab.Sensor.Document
import DTLab.Verif.Agreement
import DTLab.Verif.Accounting
import DTLab.Sensor.Runtime
import DTLab.Verif.Spooling
import DTLab.Library.System
import DTLab.Sensor.StateStore
import DTLab.Verif.EpisodeIdentity
import DTLab.Library.HashChain
import DTLab.Spool.Envelope
import DTLab.Spool.Chain
import DTLab.Library.Lines
import DTLab.Spool.Reader
import DTLab.Spool.Event
import DTLab.Verif.Tamper
import DTLab.Spool.Append
import DTLab.Verif.SpoolReading
import DTLab.Library.JsonSize
import DTLab.Library.JsonScan
import DTLab.Spool.Torn
import DTLab.Spool.Sender
import DTLab.Verif.Delivery
import DTLab.Library.Calendar
import DTLab.Library.JsonSchema
import DTLab.Receiver.Schema
import DTLab.Receiver.Shape
import DTLab.Sensor.Pymodbus
import DTLab.Receiver.Limits
import DTLab.Verif.EventShape
import DTLab.Library.Table
import DTLab.Library.Attempt
import DTLab.Tickets.Text
import DTLab.Tickets.Rows
import DTLab.Tickets.Signals
import DTLab.Tickets.Operations
import DTLab.Tickets.Trail
import DTLab.Tickets.Commits
import DTLab.Tickets.Checklists
import DTLab.Tickets.Calls
import DTLab.Library.Log
import DTLab.Verif.TicketHistory
import DTLab.Tickets.Ledger
import DTLab.Verif.SignalLedger
import DTLab.Verif.IngestOrder
import DTLab.Verif.AuditOrder
import DTLab.Tickets.BusinessHours
import DTLab.Tickets.Policy
import DTLab.Verif.PolicyPriority
import DTLab.Verif.SlaCalendar
import DTLab.Snapshots.Manifest
import DTLab.Snapshots.Store
import DTLab.Verif.Publication
import DTLab.Verif.PointerHistory
import DTLab.Library.Program
import DTLab.Remote.Commands
import DTLab.Remote.Publisher
import DTLab.Remote.Frames
import DTLab.Verif.CommitReports
import DTLab.Library.Ranking
import DTLab.Remote.References
import DTLab.Remote.Placement
import DTLab.Remote.Prepared
import DTLab.Remote.Inventory
import DTLab.Remote.Uploads
import DTLab.Verif.Retention
import DTLab.Verif.Activation
import DTLab.Verif.ShutdownVerdict
import DTLab.Verif.WriteBuckets
import DTLab.Verif.ChecklistIntegrity
import DTLab.Snapshots.Prune
import DTLab.Verif.PruneReferences
import DTLab.Library.Timestamp
import DTLab.Tickets.Sightings
import DTLab.Verif.ObservedExtremes
import DTLab.Tickets.Service
import DTLab.Tickets.Links
import DTLab.Verif.ServiceJoin
import DTLab.Verif.Resurfacing
import DTLab.Tickets.Prune
import DTLab.Verif.TicketPrune
import DTLab.Library.Elapsed
import DTLab.Verif.WorkingTime
import DTLab.Library.JsonFields
import DTLab.Contract.Snapshot
import DTLab.Adapters.Slug
import DTLab.Adapters.CyberVision
import DTLab.Verif.ClosedCollections
import DTLab.Verif.TextOrder
import DTLab.Library.Buckets
import DTLab.History.Points
import DTLab.Verif.StreamingPrune
import DTLab.Library.Escape
import DTLab.Siem.Cef
import DTLab.Verif.CefRoundTrip
import DTLab.Collector.Client
import DTLab.Verif.Paging
import DTLab.Library.Champions
import DTLab.Services.Identity
import DTLab.Verif.IdentityLinks
import DTLab.Verif.LockRelease
import DTLab.Library.Attains
import DTLab.Remote.Tidy
import DTLab.Remote.Evaluation
import DTLab.Verif.Aftermath
import DTLab.Verif.SteadyState
import DTLab.Remote.Completion
import DTLab.Verif.Totality
import DTLab.Verif.Backlog
import DTLab.Library.Regex
import DTLab.Contract.Secrets
import DTLab.Receiver.Document
import DTLab.Receiver.Ingest
import DTLab.Receiver.Ingress
import DTLab.Verif.DocumentMeaning
import DTLab.Verif.SensorIsolation
import DTLab.Verif.EpisodeRevisions
import DTLab.Verif.Redelivery
import DTLab.Library.JsonNewlines
import DTLab.Verif.ManifestReading
import DTLab.Verif.KeptReferences
