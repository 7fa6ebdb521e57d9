import DpIntegrator.Effects.Executions
import DpIntegrator.Functions.OrderImport

/-!
# The dead-letter handler

Records a message that ran out of redeliveries as a quarantined error, with a final attempt
row, and bumps the attempt count of its ledger row. The environment of such a message is any
text: its store calls take it as it stands.
-/

namespace DpIntegrator

open Effects

/-! ## Calls -/

/-- The error record of a dead letter. -/
structure DlqErrorInput where
  environment : String
  connectionId : String
  flow : String
  dedupKey : String
  errorClass : ErrorClass
  message : String
  envelope : Js.Value

/-- The attempt row of a dead letter. -/
structure DlqAttemptInput where
  environment : String
  connectionId : String
  shopifyOrderGid : String
  deliveryCount : ℕ
  outcome : OrderAttemptOutcome
  errorClass : ErrorClass
  detail : String
  inboundEnvelopeUri : Option Js.Value
  startedAt : ℤ
  finishedAt : ℤ
  durationMs : ℤ

/-- The ledger row of a dead letter: all other fields of the input are absent. -/
structure LedgerBump where
  environment : String
  connectionId : String
  shopifyOrderGid : String
  shopifyOrderId : String
  status : OrderSyncLogStatus
  attemptCount : ℕ
  lastDeliveryCount : ℕ
  deriving DecidableEq, Repr

inductive DlqCall
  | findConnection (environment connectionId : String)
  | recordError (input : DlqErrorInput)
  | updateStatus (id : String) (status : ErrorStatus)
  | recordAttempt (input : DlqAttemptInput)
  | findByOrderGid (environment connectionId shopifyOrderGid : String)
  | upsertSyncLog (bump : LedgerBump)

/-- What a call returns; `recordError` returns the id of the record. -/
@[reducible] def DlqCall.Ret : DlqCall → Type
  | findConnection .. => Option Connection
  | recordError .. => String
  | updateStatus .. => Unit
  | recordAttempt .. => Unit
  | findByOrderGid .. => Option OrderSyncLog
  | upsertSyncLog .. => Unit

inductive DlqOp
  | io (c : DlqCall)
  | clock

@[reducible] def DlqOp.Resp : DlqOp → Type
  | .io c => Except Thrown c.Ret
  | .clock => ℤ

abbrev DlqEv := Event DlqOp DlqOp.Resp

abbrev DlqAsync := Throwing Thrown DlqOp DlqOp.Resp

namespace DlqAsync

def io (c : DlqCall) : DlqAsync c.Ret := ExceptT.mk (Prog.perform (DlqOp.io c))

def now : DlqAsync ℤ := Throwing.observe DlqOp.clock

def ofExcept {α : Type} (x : Except Thrown α) : DlqAsync α := ExceptT.mk (.ret x)

/-- Ignore what is thrown. -/
def swallow (x : DlqAsync Unit) : DlqAsync Unit := tryCatch x fun _ => return ()

end DlqAsync

section

variable {W : Type} {step : (o : DlqOp) → W → o.Resp → W → Prop} {w w' : W} {tr : List DlqEv}

/-- A call is answered. -/
theorem exec_dlqIo {c : DlqCall} {res : Except Thrown c.Ret}
    (h : Exec step (DlqAsync.io c).run w tr res w') : step (.io c) w res w' := exec_perform h

theorem exec_dlqOfExcept {α : Type} {x res : Except Thrown α}
    (h : Exec step (DlqAsync.ofExcept x).run w tr res w') : res = x ∧ w' = w := exec_ret h

/-- What is swallowed returned, or failed after the same calls. -/
theorem exec_swallow {x : DlqAsync Unit} {res : Except Thrown Unit}
    (h : Exec step (DlqAsync.swallow x).run w tr res w') :
    res = .ok () ∧ ∃ tr' res', Exec step x.run w tr' res' w' := by
  obtain ⟨a, rfl, hx⟩ | ⟨e, w₁, t₁, t₂, hx, hret⟩ := exec_tryCatch h
  · exact ⟨rfl, _, _, hx⟩
  · obtain ⟨rfl, rfl⟩ := exec_pure hret
    exact ⟨rfl, _, _, hx⟩

end

/-! ## Envelopes -/

structure DlqHandlerDeps where
  environment : Environment
  /-- Whether each optional collaborator is wired. -/
  errorStore : Bool
  orderAttemptStore : Bool
  orderSyncLog : Bool

/-- What the host supplies beside a dead letter. -/
structure DlqContext where
  deadLetterReason : Option String
  deadLetterErrorDescription : Option String
  deliveryCount : Option ℕ

/-- A message with the fields that the handler checks, and the whole object. -/
structure DlqEnvelope where
  environment : String
  connectionId : String
  shopDomain : String
  topic : String
  orderGid : String
  raw : Js.Value

/-- A text field that is there and not empty. -/
def dlqField (m : Js.Value) (key : String) : Except String String :=
  match m.prop key with
  | .str s => if s = "" then .error ("missing/empty field '" ++ key ++ "'") else .ok s
  | _ => .error ("missing/empty field '" ++ key ++ "'")

def parseEnvelope (raw : Js.Value) : Except String DlqEnvelope :=
  let schemaVersion := raw.prop "schemaVersion"
  if !raw.isObject then .error ("expected object, got " ++ raw.typeOf)
  else if !strictEqual schemaVersion (.num 1) then
    .error ("unsupported schemaVersion: " ++ schemaVersion.toText)
  else do
    let environment ← dlqField raw "environment"
    let connectionId ← dlqField raw "connectionId"
    let shopDomain ← dlqField raw "shopDomain"
    let topic ← dlqField raw "topic"
    let orderGid ← dlqField raw "orderGid"
    return { environment, connectionId, shopDomain, topic, orderGid, raw }

namespace DlqEnvelope

/-- `dedupKey` of the order, whose environment is any text. -/
def dedupKey (env : DlqEnvelope) : Except Thrown String :=
  let values := [env.environment, env.connectionId, EntityType.order.text, System.shopify.text,
    env.orderGid]
  let parts : Js.Fields :=
    [("environment", .str env.environment), ("connectionId", .str env.connectionId),
      ("entityType", .str EntityType.order.text), ("sourceSystem", .str System.shopify.text),
      ("sourceId", .str env.orderGid)]
  match dedupKeyProblem ((Js.stringify (.obj parts)).getD "") values with
  | some message => .error (newError message)
  | none => .ok (String.intercalate "|" values)

/-- `envelopeBlobUri`, if it is there and has a positive length. -/
def inboundEnvelopeUri (env : DlqEnvelope) : Option Js.Value :=
  match env.raw.prop "envelopeBlobUri" with
  | .str s => if s = "" then none else some (.str s)
  | .arr items => if items.isEmpty then none else some (.arr items)
  | .obj fields =>
    match Js.Value.prop (.obj fields) "length" with
    | .num length => if Js.Number.lt 0 length then some (.obj fields) else none
    | _ => none
  | _ => none

/-- The ledger row of the envelope. -/
def bump (env : DlqEnvelope) (status : OrderSyncLogStatus) (deliveryCount : ℕ) : LedgerBump where
  environment := env.environment
  connectionId := env.connectionId
  shopifyOrderGid := env.orderGid
  shopifyOrderId := (Js.trailingNumber env.orderGid).getD env.orderGid
  status
  attemptCount := deliveryCount
  lastDeliveryCount := deliveryCount

/-- An error record about the envelope. -/
def errorInput (env : DlqEnvelope) (dedupKey message : String) : DlqErrorInput where
  environment := env.environment
  connectionId := env.connectionId
  flow := "order-import"
  dedupKey
  errorClass := .unknown
  message
  envelope := env.raw

end DlqEnvelope

/-! ## The handler -/

inductive DlqReason
  | badEnvelope
  | unknownConnection
  | noErrorStore
  deriving DecidableEq, Repr

inductive DlqOutcome
  | recorded (errorId dedup : String)
  | unrecorded (reason : DlqReason) (detail : String)
  deriving DecidableEq, Repr

/-- The message of the error record. -/
def dlqSummary (context : DlqContext) : String :=
  let dlqReason := context.deadLetterReason.getD ""
  let dlqDetail := context.deadLetterErrorDescription.getD ""
  let deliveryCount := context.deliveryCount.getD 0
  if dlqReason ≠ "" ∨ dlqDetail ≠ "" then
    "DLQ: " ++ (if dlqReason = "" then "unknown reason" else dlqReason) ++
      (if dlqDetail = "" then "" else " — " ++ dlqDetail)
  else
    "DLQ: message exhausted SB redeliveries (deliveryCount=" ++ toString deliveryCount ++
      "); cause not propagated by binding"

/-- The final attempt row. -/
def recordQuarantine (deps : DlqHandlerDeps) (env : DlqEnvelope) (summary : String)
    (deliveryCount : ℕ) : DlqAsync Unit :=
  if deps.orderAttemptStore && 0 < deliveryCount then do
    let now ← DlqAsync.now
    DlqAsync.swallow (DlqAsync.io (.recordAttempt
      { environment := env.environment
        connectionId := env.connectionId
        shopifyOrderGid := env.orderGid
        deliveryCount
        outcome := .quarantined
        errorClass := .unknown
        detail := summary
        inboundEnvelopeUri := env.inboundEnvelopeUri
        startedAt := now
        finishedAt := now
        durationMs := 0 }))
  else return ()

/-- Bump the attempt count of the ledger row, if there is one. -/
def bumpLedger (deps : DlqHandlerDeps) (env : DlqEnvelope) (deliveryCount : ℕ) : DlqAsync Unit :=
  if deps.orderSyncLog && 0 < deliveryCount then
    DlqAsync.swallow do
      match ← DlqAsync.io (.findByOrderGid env.environment env.connectionId env.orderGid) with
      | some existing =>
        DlqAsync.io (.upsertSyncLog (env.bump existing.status deliveryCount))
      | none => return ()
  else return ()

/-- Record the dead letter of a known connection. -/
def quarantine (deps : DlqHandlerDeps) (env : DlqEnvelope) (context : DlqContext) :
    DlqAsync DlqOutcome := do
  let dedup ← DlqAsync.ofExcept env.dedupKey
  let summary := dlqSummary context
  let id ← DlqAsync.io (.recordError (env.errorInput dedup summary))
  DlqAsync.io (.updateStatus id .quarantined)
  recordQuarantine deps env summary (context.deliveryCount.getD 0)
  bumpLedger deps env (context.deliveryCount.getD 0)
  return .recorded id dedup

def handleDeadLetteredOrder (deps : DlqHandlerDeps) (message : Js.Value) (context : DlqContext) :
    DlqAsync DlqOutcome :=
  if !deps.errorStore then return .unrecorded .noErrorStore "bootstrap missing PG / errorStore"
  else match parseEnvelope message with
    | .error error => do
      let _ ← DlqAsync.io (.recordError
        { environment := deps.environment.text
          connectionId := "unknown"
          flow := "order-import"
          dedupKey := "unparseable"
          errorClass := .unknown
          message := "DLQ envelope unparseable: " ++ error
          envelope := message })
      return .unrecorded .badEnvelope error
    | .ok env => do
      match ← DlqAsync.io (.findConnection env.environment env.connectionId) with
      | none =>
        let dedup ← DlqAsync.ofExcept env.dedupKey
        let _ ← DlqAsync.io (.recordError (env.errorInput dedup
          ("DLQ: connection '" ++ env.connectionId ++ "' not found for env '" ++ env.environment ++
            "'")))
        return .unrecorded .unknownConnection ("connectionId=" ++ env.connectionId)
      | some _ => quarantine deps env context

/-- The key of a dead letter is that of its order, where its environment is one. -/
theorem DlqEnvelope.dedupKey_eq {env : DlqEnvelope} {e : Environment}
    (h : env.environment = e.text) : env.dedupKey = DpIntegrator.dedupKey
      { environment := e, connectionId := env.connectionId, entityType := .order
        sourceSystem := .shopify, sourceId := env.orderGid } := by
  unfold DlqEnvelope.dedupKey
  rw [h]
  rfl

end DpIntegrator
