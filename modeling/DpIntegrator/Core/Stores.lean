import DpIntegrator.Core.Types
import Mathlib.Logic.Function.Basic

/-!
# The other stores

Error records, the per-order ledger, the attempt rows of deliveries, the queue of
order messages and the cursors of the catch-up poller. Records are appended or
written under a key; each operation is a function on the rows.
-/

namespace DpIntegrator

/-! ## Error records -/

inductive ErrorStatus
  | open_
  | retrying
  | resolved
  | ignored
  | quarantined
  deriving DecidableEq, Repr

structure NewErrorInput where
  environment : Environment
  connectionId : String
  flow : String
  dedupKey : String
  errorClass : ErrorClass
  message : String
  stack : Option String
  envelope : Js.Value

structure ErrorRecord extends NewErrorInput where
  id : String
  retryCount : ℕ
  status : ErrorStatus
  createdAt : ℤ
  updatedAt : ℤ

/-- The error records, oldest first. -/
abbrev ErrorRows := List ErrorRecord

/-- `record`: append an open record. -/
def ErrorRows.record (rows : ErrorRows) (input : NewErrorInput) (now : ℤ) : ErrorRows :=
  rows ++ [{ input with
    id := "err_" ++ Js.padNumber 8 (rows.length + 1)
    retryCount := 0
    status := .open_
    createdAt := now
    updatedAt := now }]

/-! ## The per-order ledger -/

inductive OrderSyncLogStatus
  | imported
  | parked
  | ignored
  deriving DecidableEq, Repr

structure OrderSyncLogInput where
  environment : Environment
  connectionId : String
  shopifyOrderGid : String
  shopifyOrderId : String
  shopifyOrderName : Option String
  shopifyCreatedAt : Option (Option ℤ)
  shopifyProcessedAt : Option (Option ℤ)
  shopifyUpdatedAt : Option (Option ℤ)
  customerEmail : Option String
  currencyCode : Option String
  totalPrice : Option String
  subtotalPrice : Option String
  totalTax : Option String
  totalDiscounts : Option String
  totalShipping : Option String
  status : OrderSyncLogStatus
  nsAccountId : Option String
  nsRecordType : Option String
  nsInternalId : Option String
  nsTranId : Option String
  parkStage : Option String
  parkDetail : Option String
  parkErrorClass : Option String
  ignoredReason : Option String
  syncedAt : Option ℤ
  attemptCount : Option ℕ
  lastDeliveryCount : Option ℕ
  lastOutboundPayloadUri : Option String
  lastInboundEnvelopeUri : Option String
  deriving DecidableEq, Repr

structure OrderSyncLog extends OrderSyncLogInput where
  id : String
  createdAt : ℤ
  updatedAt : ℤ
  deriving DecidableEq, Repr

/-- The key of a ledger row. -/
def OrderSyncLogInput.key (input : OrderSyncLogInput) : String :=
  String.intercalate "|" [input.environment.text, input.connectionId, input.shopifyOrderGid]

/-- The ledger rows by key, and the number of rows ever created. -/
structure SyncLogRows where
  rows : String → Option OrderSyncLog
  seq : ℕ

/-- `upsert`: write the row of the order anew; its id and creation time are kept. -/
def SyncLogRows.upsert (log : SyncLogRows) (input : OrderSyncLogInput) (now : ℤ) : SyncLogRows :=
  match log.rows input.key with
  | some existing =>
    { log with
      rows := Function.update log.rows input.key
        (some { input with id := existing.id, createdAt := existing.createdAt, updatedAt := now }) }
  | none =>
    { rows := Function.update log.rows input.key
        (some { input with
          id := "log_" ++ Js.padNumber 8 (log.seq + 1), createdAt := now, updatedAt := now })
      seq := log.seq + 1 }

/-! ## Attempts -/

inductive OrderAttemptOutcome
  | imported
  | parked
  | ignoredByEligibility
  | alreadySynced
  | alreadyClaimed
  | ignored
  | rejected
  | transientThrow
  | authThrow
  | quarantined
  deriving DecidableEq, Repr

structure OrderAttemptInput where
  environment : Environment
  connectionId : String
  shopifyOrderGid : String
  deliveryCount : ℕ
  sbMessageId : Option String
  sbSessionId : Option String
  outcome : OrderAttemptOutcome
  stage : Option String
  errorClass : Option String
  detail : Option String
  inboundEnvelopeUri : Option String
  outboundPayloadUri : Option String
  nsResponseUri : Option String
  nsResponseStatus : Option ℕ
  shopifyPayloadUri : Option String
  payloadDigest : Option Js.Fields
  startedAt : ℤ
  finishedAt : ℤ
  durationMs : ℤ

structure OrderAttempt extends OrderAttemptInput where
  id : String
  createdAt : ℤ

/-- `record`: append one attempt row. -/
def recordAttemptRow (rows : List OrderAttempt) (input : OrderAttemptInput) (now : ℤ) :
    List OrderAttempt :=
  rows ++ [{ input with id := "attempt_" ++ Js.padNumber 8 (rows.length + 1), createdAt := now }]

/-! ## The queue -/

structure QueueMessage where
  id : String
  sessionId : Option String
  body : OrderWebhookMessage
  deliveryCount : ℕ
  enqueuedAt : ℤ
  deriving DecidableEq, Repr

/-- The queued messages, first in first out, and the number of messages ever enqueued. -/
structure Queue where
  buffer : List QueueMessage
  seq : ℕ
  deriving DecidableEq, Repr

def Queue.enqueue (queue : Queue) (sessionId : Option String) (body : OrderWebhookMessage)
    (now : ℤ) : Queue where
  buffer := queue.buffer ++ [{
    id := "msg_" ++ Js.padNumber 8 (queue.seq + 1)
    sessionId
    body
    deliveryCount := 0
    enqueuedAt := now }]
  seq := queue.seq + 1

/-! ## Watermarks -/

structure WatermarkKey where
  environment : Environment
  connectionId : String
  flow : String
  deriving DecidableEq, Repr

structure SyncWatermarkRow extends WatermarkKey where
  lastCursor : Option String
  updatedAt : ℤ
  deriving DecidableEq, Repr

def WatermarkKey.text (parts : WatermarkKey) : String :=
  String.intercalate "|" [parts.environment.text, parts.connectionId, parts.flow]

/-- The cursors, by key. -/
abbrev WatermarkRows := String → Option SyncWatermarkRow

/-- `set`: write the cursor. -/
def WatermarkRows.set (rows : WatermarkRows) (parts : WatermarkKey) (cursor : String) (now : ℤ) :
    WatermarkRows :=
  Function.update rows parts.text
    (some { parts with lastCursor := some cursor, updatedAt := now })

/-! ## Archived payloads -/

inductive PayloadKind
  | outbound
  | nsResponse
  | shopifyOrder
  deriving DecidableEq, Repr

/-- The context of an archived payload; it decides where the store puts it. -/
structure PayloadStoreContext where
  environment : Environment
  connectionId : String
  shopifyOrderGid : String
  deliveryCount : ℕ
  nsAccountId : Option String := none
  nsRecordType : Option String := none
  attemptStartedAt : ℤ
  kind : PayloadKind := .outbound
  deriving DecidableEq, Repr

end DpIntegrator
