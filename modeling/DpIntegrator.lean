import DpIntegrator.Effects.Program
import DpIntegrator.Effects.Throwing
import DpIntegrator.Effects.World
import DpIntegrator.Effects.Interleaving
import DpIntegrator.Effects.Environment
import DpIntegrator.Effects.Loops
import DpIntegrator.Paging.Page
import DpIntegrator.Paging.Walk
import DpIntegrator.Js.Number
import DpIntegrator.Js.Value
import DpIntegrator.Js.Text
import DpIntegrator.Core.Errors
import DpIntegrator.Core.Types
import DpIntegrator.Js.Date
import DpIntegrator.Core.Xref
import DpIntegrator.Core.Stores
import DpIntegrator.Shopify.Order
import DpIntegrator.Calls
import DpIntegrator.World
import DpIntegrator.Mapping.Eligibility
import DpIntegrator.Mapping.Evaluator
import DpIntegrator.NetSuite.DeriveFns
import DpIntegrator.NetSuite.PayloadBuilder
import DpIntegrator.NetSuite.Balancing
import DpIntegrator.NetSuite.ItemResolver
import DpIntegrator.NetSuite.SdkGateway
import DpIntegrator.Functions.ErrorClassification
import DpIntegrator.Functions.CustomerResolver
import DpIntegrator.Functions.OrderImport
import DpIntegrator.Core.Replay
import DpIntegrator.Functions.CatchupPoller
import DpIntegrator.Functions.Webhook
import DpIntegrator.Functions.Reconciliation
import DpIntegrator.Delivery.Trace
import DpIntegrator.Delivery.Exits
import DpIntegrator.Delivery.MainCalls
import DpIntegrator.Delivery.Records
import DpIntegrator.Delivery.Histories
import DpIntegrator.Delivery.Responses
import DpIntegrator.Delivery.StateMachine
import DpIntegrator.Delivery.Import
import DpIntegrator.Delivery.Redelivery
import DpIntegrator.Delivery.Catchup
import DpIntegrator.Delivery.Ineligible
import DpIntegrator.Delivery.AfterImport
import DpIntegrator.Delivery.Threads
import DpIntegrator.Delivery.AtMostOnce
import DpIntegrator.Delivery.ReplayRace
import DpIntegrator.Js.Cents
import DpIntegrator.Mapping.Targets
import DpIntegrator.NetSuite.Draft
import DpIntegrator.NetSuite.Resolution
import DpIntegrator.NetSuite.Money
import DpIntegrator.Functions.Decoration
import DpIntegrator.NetSuite.Discounts
import DpIntegrator.NetSuite.ItemOrigins
import DpIntegrator.Delivery.Replays
import DpIntegrator.Delivery.Polls
import DpIntegrator.Delivery.Producers
import DpIntegrator.Delivery.QueuedAhead
import DpIntegrator.Delivery.Watermarks
import DpIntegrator.Delivery.CursorSafety
import DpIntegrator.Delivery.CursorProgress
import DpIntegrator.Delivery.Rescue
import DpIntegrator.Delivery.Sweeps
import DpIntegrator.Shopify.GraphQL
import DpIntegrator.Delivery.Currencies
import DpIntegrator.Delivery.Attempts
import DpIntegrator.Core.Keys
import DpIntegrator.Sql.Table
import DpIntegrator.Postgres.XrefStore
import DpIntegrator.Postgres.XrefRefinement
import DpIntegrator.Postgres.OrderSyncLogStore
import DpIntegrator.Postgres.LedgerAgreement
import DpIntegrator.Functions.DeadLetter
import DpIntegrator.Delivery.CallsMade
import DpIntegrator.Postgres.LedgerShape
import DpIntegrator.Effects.Slots
import DpIntegrator.Governor.HolderId
import DpIntegrator.Governor.Store
import DpIntegrator.Governor.Requests
import DpIntegrator.Governor.Ceiling
import DpIntegrator.NetSuite.ExternalIds
import DpIntegrator.Delivery.RecordIdentity
import DpIntegrator.Delivery.GateRace
import DpIntegrator.Delivery.OtherOrders
import DpIntegrator.Delivery.Ledgers
import DpIntegrator.Delivery.TwoRuns
import DpIntegrator.Delivery.Isolation
import DpIntegrator.Mapping.Paths
import DpIntegrator.Mapping.Semantics
import DpIntegrator.NetSuite.ExactItems
import DpIntegrator.Functions.Addressbook
import DpIntegrator.Functions.Reimports
import DpIntegrator.Delivery.Reports
import DpIntegrator.Delivery.ReportedOnce
import DpIntegrator.Delivery.CreationTopics
import DpIntegrator.Js.Patterns
import DpIntegrator.Functions.GovernorTimeout
import DpIntegrator.NetSuite.SuiteQl
import DpIntegrator.Delivery.Backpressure
import DpIntegrator.Effects.Memo
import DpIntegrator.NetSuite.ItemCache
import DpIntegrator.Delivery.MissingItems
import DpIntegrator.Credentials.Caches
import DpIntegrator.Credentials.Process
import DpIntegrator.Credentials.Rotation
import DpIntegrator.Credentials.Recovery
import DpIntegrator.Postgres.DeadLetterBump
import DpIntegrator.Paging.Cursors
import DpIntegrator.Shopify.DailyAggregate
import DpIntegrator.Shopify.WholeDay
import DpIntegrator.Delivery.FalseAlarms
import DpIntegrator.Js.Calendar
import DpIntegrator.Delivery.LedgerSide
import DpIntegrator.Effects.Executions
import DpIntegrator.Delivery.Quarantine
import DpIntegrator.Postgres.AttemptTimeline
import DpIntegrator.NetSuite.PaymentMethods
import DpIntegrator.NetSuite.AddingUp
import DpIntegrator.Functions.Receiver
import DpIntegrator.Delivery.Acknowledgements
import DpIntegrator.Shopify.HttpGateway
import DpIntegrator.Functions.HttpFailures
import DpIntegrator.Governor.Clients
import DpIntegrator.Governor.AccountSpellings
import DpIntegrator.Js.Uri
import DpIntegrator.Js.Url
import DpIntegrator.Functions.BlobUris
import DpIntegrator.Credentials.SingleFlight
import DpIntegrator.Js.EscapedSlashes
import DpIntegrator.Core.KeyIsolation
import DpIntegrator.Functions.Traversal
import DpIntegrator.Mapping.LensLaws
import DpIntegrator.NetSuite.Gids
import DpIntegrator.NetSuite.References
import DpIntegrator.Admin.ReplayEndpoint
import DpIntegrator.Effects.FirstError
import DpIntegrator.Core.ConnectionsConfig
import DpIntegrator.Delivery.ConnectionTable
import DpIntegrator.Admin.Arguments
import DpIntegrator.Effects.Simulation
import DpIntegrator.Admin.ReplayCommand
import DpIntegrator.Delivery.Archives
import DpIntegrator.Paging.Offsets
import DpIntegrator.Admin.OrdersListing
import DpIntegrator.Effects.Handlers
import DpIntegrator.Postgres.LookupResolver
import DpIntegrator.Periodic.Lookback
import DpIntegrator.Postgres.SnapshotStores
import DpIntegrator.Delivery.ReconciledDays
