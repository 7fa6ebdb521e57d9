import DpIntegrator.Js.Date
import DpIntegrator.Calls

/-!
# The catch-up poller

Asks Shopify for the orders updated since the cursor of a connection and enqueues those
whose row is not terminal, so that orders whose webhook was lost are imported.
-/

namespace DpIntegrator

open Effects

structure CatchupDeps where
  environment : Environment
  /-- Whether the stores are ready. -/
  xrefStore : Bool
  watermarkStore : Bool
  telemetry : Bool

structure CatchupConfig where
  bootstrapLookbackHours : ℕ := 24
  overlapSecondsOnEmpty : ℕ := 60
  pageSize : ℕ := 50

def catchupFlow : String := "order-catchup"

inductive ConnectionCatchupOutcome
  | polled (connectionId : String) (observed enqueued : ℕ) (fromCursor newCursor : String)
  | skipped (connectionId : String)
  deriving DecidableEq, Repr

/-- Rows that need no rescue. -/
def XrefStatus.isTerminal : XrefStatus → Bool
  | .synced | .ignored => true
  | .pending | .error => false

/-- The dedup key of an order of a connection. -/
def orderParts (environment : Environment) (connectionId orderGid : String) : DedupKeyParts where
  environment
  connectionId
  entityType := .order
  sourceSystem := .shopify
  sourceId := orderGid

/-- The message that rescues an order. -/
def catchupMessage (deps : CatchupDeps) (connectionId : String) (connection : Connection)
    (now : ℤ) (orderGid : String) : OrderWebhookMessage where
  environment := deps.environment
  connectionId
  shopDomain := connection.shopifyStore
  topic := "orders/updated"
  orderGid
  envelopeBlobUri := "catchup://dpi/" ++ deps.environment.text ++ "/" ++ connectionId ++ "/" ++
    Js.encodeURIComponent orderGid ++ "/" ++ Js.toISOString now
  receivedAt := Js.toISOString now
  source := some .catchup

/-- Enqueue the orders whose row is absent or not terminal; returns how many. -/
def enqueueMissing (deps : CatchupDeps) (connectionId : String) (connection : Connection)
    (now : ℤ) : List OrderSummary → ℕ → Async ℕ
  | [], enqueued => return enqueued
  | summary :: rest, enqueued => do
    let existing ← Async.io
      (.lookupXref (orderParts deps.environment connectionId summary.id))
    if existing.any fun row => row.status.isTerminal then
      enqueueMissing deps connectionId connection now rest enqueued
    else
      Async.io (.enqueue (connectionId ++ ":" ++ summary.id)
        (catchupMessage deps connectionId connection now summary.id))
      enqueueMissing deps connectionId connection now rest (enqueued + 1)

def pollOneConnection (deps : CatchupDeps) (config : CatchupConfig) (connectionId : String) :
    Async ConnectionCatchupOutcome := do
  let now ← Async.now
  match ← Async.io (.findConnection deps.environment connectionId) with
  | none => return .skipped connectionId
  | some connection =>
    let parts : WatermarkKey :=
      { environment := deps.environment, connectionId, flow := catchupFlow }
    let existing ← Async.io (.getWatermark parts)
    let fromCursor := (existing.bind SyncWatermarkRow.lastCursor).getD
      (Js.toISOString (now - config.bootstrapLookbackHours * 3600000))
    let orders ← Async.io (.listOrdersUpdatedSince connection fromCursor config.pageSize)
    let enqueued ← enqueueMissing deps connectionId connection now orders 0
    let newCursor :=
      match orders.getLast? with
      | some last => last.updatedAt
      | none => Js.toISOString (now - config.overlapSecondsOnEmpty * 1000)
    Async.io (.setWatermark parts newCursor)
    if deps.telemetry then
      Async.track (.catchupPoll deps.environment connectionId orders.length enqueued)
    return .polled connectionId orders.length enqueued fromCursor newCursor

/-- Poll the connections of a list in order. -/
def pollConnections (deps : CatchupDeps) (config : CatchupConfig) :
    List Connection → Async (List ConnectionCatchupOutcome)
  | [] => return []
  | connection :: rest => do
    let outcome ←
      if deps.xrefStore && deps.watermarkStore then
        pollOneConnection deps config connection.connectionId
      else pure (.skipped connection.connectionId)
    return outcome :: (← pollConnections deps config rest)

/-- Poll every enabled connection of the environment. -/
def pollCatchup (deps : CatchupDeps) (config : CatchupConfig) :
    Async (List ConnectionCatchupOutcome) := do
  let connections ← Async.io (.listEnabled deps.environment)
  pollConnections deps config connections

end DpIntegrator
