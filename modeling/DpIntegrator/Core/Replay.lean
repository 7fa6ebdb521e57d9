import DpIntegrator.Js.Date
import DpIntegrator.Calls

/-!
# Replay

Un-claims a row and publishes the order again, on request of an operator.
-/

namespace DpIntegrator

open Effects

structure ReplayRequest where
  environment : Environment
  connectionId : String
  orderGid : String
  topic : Option String := none
  force : Bool := false
  deriving DecidableEq, Repr

inductive ReplayOutcome
  | replayed (previousStatus : Option XrefStatus) (sessionId : String)
  | refusedAlreadySynced (targetId : Option String)
  | unknownConnection (connectionId : String)
  deriving DecidableEq, Repr

namespace ReplayRequest

/-- The dedup key of the order. -/
def parts (req : ReplayRequest) : DedupKeyParts where
  environment := req.environment
  connectionId := req.connectionId
  entityType := .order
  sourceSystem := .shopify
  sourceId := req.orderGid

/-- The message that is published. -/
def body (req : ReplayRequest) (connection : Connection) (now : ℤ) : OrderWebhookMessage where
  environment := req.environment
  connectionId := req.connectionId
  shopDomain := connection.shopifyStore
  topic := req.topic.getD "orders/updated"
  orderGid := req.orderGid
  envelopeBlobUri := "replay://dpi/" ++ req.environment.text ++ "/" ++ req.connectionId ++ "/" ++
    Js.encodeURIComponent req.orderGid ++ "/" ++ Js.toISOString now
  receivedAt := Js.toISOString now
  source := some .replay

end ReplayRequest

/-- Publish the order again. -/
def republish (req : ReplayRequest) (connection : Connection) (existing : Option XrefRow) :
    Async ReplayOutcome := do
  let sessionId := req.connectionId ++ ":" ++ req.orderGid
  let now ← Async.now
  Async.io (.enqueue sessionId (req.body connection now))
  return .replayed (existing.map XrefRow.status) sessionId

/-- Drop the row, unless it is synced and the request does not force, and publish the
order again. -/
def requestReplay (req : ReplayRequest) : Async ReplayOutcome := do
  match ← Async.io (.findConnection req.environment req.connectionId) with
  | none => return .unknownConnection req.connectionId
  | some connection =>
    match ← Async.io (.lookupXref req.parts) with
    | none => republish req connection none
    | some existing =>
      if existing.status = .synced ∧ req.force = false then
        return .refusedAlreadySynced existing.targetId
      else
        let _ ← Async.io (.deleteXref req.parts)
        republish req connection (some existing)

end DpIntegrator
