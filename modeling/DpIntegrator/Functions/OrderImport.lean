import DpIntegrator.Mapping.Eligibility
import DpIntegrator.NetSuite.ItemResolver
import DpIntegrator.Functions.CustomerResolver
import DpIntegrator.Functions.ErrorClassification

/-!
# The order-import handler

One delivery of an order message: the checks on the message and its connection, the
gate for updates of unknown orders, the claim of the xref row, and then the pipeline
from the fetch of the order to the write to NetSuite, with the routing of everything
that is thrown on the way.
-/

namespace DpIntegrator

open Effects

/-! ## Data -/

structure OrderHandlerDeps where
  environment : Environment
  guestCustomerInternalId : String
  derives : Option (DeriveRegistry ShopifyOrder) := none
  /-- Whether each optional collaborator is wired. -/
  errorStore : Bool
  orderSyncLog : Bool
  orderAttemptStore : Bool
  outboundPayloadStore : Bool
  telemetry : Bool
  sdk : NetSuiteSdk
  dates : Dates

/-- The lookup tables of a connection. -/
def OrderHandlerDeps.lookupsFor (_ : OrderHandlerDeps) (connection : Connection) :
    LookupResolver :=
  fun table key => Async.io (.resolveLookup connection table key)

inductive Stage
  | fetch
  | mapping
  | balancing
  | itemResolution
  | externalCall
  deriving DecidableEq, Repr

def Stage.text : Stage → String
  | .fetch => "fetch"
  | .mapping => "mapping"
  | .balancing => "balancing"
  | .itemResolution => "item_resolution"
  | .externalCall => "external_call"

inductive RejectReason
  | badMessageShape
  | unknownConnection
  | envMismatch
  deriving DecidableEq, Repr

def RejectReason.text : RejectReason → String
  | .badMessageShape => "bad_message_shape"
  | .unknownConnection => "unknown_connection"
  | .envMismatch => "env_mismatch"

inductive OrderHandlerOutcome
  | imported (connectionId orderGid targetId : String) (created : Bool)
      (customer : CustomerResolution)
  | parked (connectionId orderGid : String) (stage : Stage) (detail : String)
      (errorClass : ErrorClass)
  | ignoredByEligibility (connectionId orderGid : String) (reason : EligibilityReason)
      (detail : Option String)
  | alreadySynced (connectionId orderGid : String)
  | alreadyClaimed (connectionId orderGid : String)
  | ignored (connectionId orderGid : String)
  | rejected (reason : RejectReason) (detail : String)
  deriving DecidableEq, Repr

/-! ## Messages -/

/-- A message as received: its fields, with the environment still a text, and the whole
object. -/
structure ReceivedMessage where
  environment : String
  connectionId : String
  shopDomain : String
  topic : String
  orderGid : String
  envelopeBlobUri : String
  receivedAt : String
  source : Option Source
  raw : Js.Value

/-- A required text field of a message. -/
def requiredString (m : Js.Value) (key : String) : Except String String :=
  match m.prop key with
  | .str s => if s = "" then .error ("missing/empty string field '" ++ key ++ "'") else .ok s
  | _ => .error ("missing/empty string field '" ++ key ++ "'")

/-- The origin of a message, if it states one. -/
def readSource : Js.Value → Except String (Option Source)
  | .undefined => .ok none
  | .str "webhook" => .ok (some .webhook)
  | .str "catchup" => .ok (some .catchup)
  | .str "replay" => .ok (some .replay)
  | v => .error ("invalid source: " ++ v.toText)

/-- The fields of a message of the right version. -/
def readMessage (raw : Js.Value) : Except String ReceivedMessage := do
  let environment ← requiredString raw "environment"
  let connectionId ← requiredString raw "connectionId"
  let shopDomain ← requiredString raw "shopDomain"
  let topic ← requiredString raw "topic"
  let orderGid ← requiredString raw "orderGid"
  let envelopeBlobUri ← requiredString raw "envelopeBlobUri"
  let receivedAt ← requiredString raw "receivedAt"
  let source ← readSource (raw.prop "source")
  return { environment, connectionId, shopDomain, topic, orderGid, envelopeBlobUri, receivedAt,
           source, raw }

def parseOrderWebhookMessage (raw : Js.Value) : Except String ReceivedMessage :=
  let schemaVersion := raw.prop "schemaVersion"
  if !raw.isObject then .error ("expected object, got " ++ raw.typeOf)
  else if !strictEqual schemaVersion (.num 1) then
    .error ("unsupported schemaVersion: " ++ schemaVersion.toText)
  else readMessage raw

/-- A message as it is received. -/
def OrderWebhookMessage.received (msg : OrderWebhookMessage) : ReceivedMessage where
  environment := msg.environment.text
  connectionId := msg.connectionId
  shopDomain := msg.shopDomain
  topic := msg.topic
  orderGid := msg.orderGid
  envelopeBlobUri := msg.envelopeBlobUri
  receivedAt := msg.receivedAt
  source := msg.source
  raw := msg.toJs

/-- The required text fields are there. -/
structure OrderWebhookMessage.WellFormed (msg : OrderWebhookMessage) : Prop where
  connectionId : msg.connectionId ≠ ""
  shopDomain : msg.shopDomain ≠ ""
  topic : msg.topic ≠ ""
  orderGid : msg.orderGid ≠ ""
  envelopeBlobUri : msg.envelopeBlobUri ≠ ""
  receivedAt : msg.receivedAt ≠ ""

theorem requiredString_eq_ok {m : Js.Value} {key s : String} (h : m.prop key = .str s)
    (hs : s ≠ "") : requiredString m key = .ok s := by
  simp [requiredString, h, hs]

/-- A well-formed message that is put on the wire is read back. -/
theorem parseOrderWebhookMessage_toJs {msg : OrderWebhookMessage} (h : msg.WellFormed) :
    parseOrderWebhookMessage msg.toJs = .ok msg.received := by
  have henv : msg.environment.text ≠ "" := by cases msg.environment <;> decide
  have hsource : readSource (msg.toJs.prop "source") = .ok msg.source := by
    obtain ⟨_, _, _, _, _, _, _, source⟩ := msg
    cases source with
    | none => rfl
    | some source => cases source <;> rfl
  have hread : readMessage msg.toJs = .ok msg.received := by
    unfold readMessage
    rw [requiredString_eq_ok (s := msg.environment.text) rfl henv,
      requiredString_eq_ok (s := msg.connectionId) rfl h.connectionId,
      requiredString_eq_ok (s := msg.shopDomain) rfl h.shopDomain,
      requiredString_eq_ok (s := msg.topic) rfl h.topic,
      requiredString_eq_ok (s := msg.orderGid) rfl h.orderGid,
      requiredString_eq_ok (s := msg.envelopeBlobUri) rfl h.envelopeBlobUri,
      requiredString_eq_ok (s := msg.receivedAt) rfl h.receivedAt, hsource]
    rfl
  have hobject : msg.toJs.isObject = true := rfl
  have hversion : strictEqual (msg.toJs.prop "schemaVersion") (.num 1) = true := rfl
  unfold parseOrderWebhookMessage
  simp [hobject, hversion, hread]

theorem requiredString_inv {m : Js.Value} {key s : String} (h : requiredString m key = .ok s) :
    m.prop key = .str s ∧ s ≠ "" := by
  unfold requiredString at h
  split at h
  · next s' hprop =>
    split at h
    · cases h
    · next hne =>
      cases h
      exact ⟨hprop, hne⟩
  · cases h

/-- A message on the wire that is read is well formed. -/
theorem wellFormed_of_parse {msg : OrderWebhookMessage} {m : ReceivedMessage}
    (h : parseOrderWebhookMessage msg.toJs = .ok m) : msg.WellFormed := by
  have hread : readMessage msg.toJs = .ok m := h
  obtain ⟨_, _, hread₁⟩ := bind_eq_ok.mp hread
  obtain ⟨connectionId, hconnection, hread₂⟩ := bind_eq_ok.mp hread₁
  obtain ⟨shopDomain, hshop, hread₃⟩ := bind_eq_ok.mp hread₂
  obtain ⟨topic, htopic, hread₄⟩ := bind_eq_ok.mp hread₃
  obtain ⟨orderGid, horder, hread₅⟩ := bind_eq_ok.mp hread₄
  obtain ⟨envelope, henvelope, hread₆⟩ := bind_eq_ok.mp hread₅
  obtain ⟨receivedAt, hreceived, _⟩ := bind_eq_ok.mp hread₆
  have hne {key s s' : String} (hprop : msg.toJs.prop key = .str s)
      (h : requiredString msg.toJs key = .ok s') : s ≠ "" := by
    obtain ⟨hprop', hs'⟩ := requiredString_inv h
    obtain rfl : s = s' := Js.Value.str.inj (hprop.symm.trans hprop')
    exact hs'
  exact ⟨hne rfl hconnection, hne rfl hshop, hne rfl htopic, hne rfl horder, hne rfl henvelope,
    hne rfl hreceived⟩

/-- A message on the wire is read as itself or not at all. -/
theorem received_of_parse {msg : OrderWebhookMessage} {m : ReceivedMessage}
    (h : parseOrderWebhookMessage msg.toJs = .ok m) : m = msg.received :=
  Except.ok.inj (h.symm.trans (parseOrderWebhookMessage_toJs (wellFormed_of_parse h)))

/-! ## Ledger rows -/

/-- What a ledger row says besides the order and the message. -/
structure SyncLogShape where
  status : OrderSyncLogStatus
  order : Option ShopifyOrder := none
  nsAccountId : Option String := none
  nsRecordType : Option String := none
  nsInternalId : Option String := none
  nsTranId : Option String := none
  syncedAt : Option ℤ := none
  parkStage : Option String := none
  parkDetail : Option String := none
  parkErrorClass : Option String := none
  ignoredReason : Option String := none
  attemptCtx : Option AttemptContext := none
  lastOutboundPayloadUri : Option String := none

/-- A delivery on its way: the collaborators, the connection, the message and the Service
Bus context. -/
structure Delivery where
  deps : OrderHandlerDeps
  connection : Connection
  msg : ReceivedMessage
  attemptCtx : Option AttemptContext

namespace Delivery

/-- The dedup key of the order. -/
def parts (d : Delivery) : DedupKeyParts where
  environment := d.deps.environment
  connectionId := d.connection.connectionId
  entityType := .order
  sourceSystem := .shopify
  sourceId := d.msg.orderGid

/-- The argument of the claim. -/
def claimInput (d : Delivery) : ClaimInput where
  parts := d.parts
  targetSystem := .netsuite
  targetExternal := d.msg.orderGid

/-- Track a metric, if telemetry is wired. -/
def track (d : Delivery) (metric : Metric) : Async Unit :=
  if d.deps.telemetry then Async.track metric else return ()

/-- The ledger row of this delivery. -/
def syncLogInput (d : Delivery) (shape : SyncLogShape) : OrderSyncLogInput :=
  let o := shape.order
  { environment := d.deps.environment
    connectionId := d.connection.connectionId
    shopifyOrderGid := d.msg.orderGid
    shopifyOrderId := (Js.trailingNumber d.msg.orderGid).getD d.msg.orderGid
    shopifyOrderName := o.map ShopifyOrder.name
    shopifyCreatedAt := o.map fun o => d.deps.dates.parse o.createdAt
    shopifyProcessedAt := o.map fun o => d.deps.dates.parse o.processedAt
    shopifyUpdatedAt := o.map fun o => d.deps.dates.parse o.updatedAt
    customerEmail := (o.bind ShopifyOrder.customer).bind ShopifyCustomer.email
    currencyCode := o.map ShopifyOrder.currencyCode
    totalPrice := o.map fun o => o.totalPrice.amount
    subtotalPrice := o.map fun o => o.subtotalPrice.amount
    totalTax := o.map fun o => o.totalTax.amount
    totalDiscounts := o.map fun o => o.totalDiscounts.amount
    totalShipping := o.map fun o => o.totalShippingPrice.amount
    status := shape.status
    nsAccountId := shape.nsAccountId
    nsRecordType := shape.nsRecordType
    nsInternalId := shape.nsInternalId
    nsTranId := shape.nsTranId
    parkStage := shape.parkStage
    parkDetail := shape.parkDetail
    parkErrorClass := shape.parkErrorClass
    ignoredReason := shape.ignoredReason
    syncedAt := shape.syncedAt
    attemptCount := shape.attemptCtx.map AttemptContext.deliveryCount
    lastDeliveryCount := shape.attemptCtx.map AttemptContext.deliveryCount
    lastOutboundPayloadUri := shape.lastOutboundPayloadUri
    lastInboundEnvelopeUri := truthy (some d.msg.envelopeBlobUri) }

/-- Write the ledger row, if the ledger is wired. -/
def writeSyncLog (d : Delivery) (shape : SyncLogShape) : Async Unit :=
  if d.deps.orderSyncLog then Async.io (.upsertSyncLog (d.syncLogInput shape)) else return ()

end Delivery

/-! ## Attempt rows -/

/-- The mutable variables of the pipeline. -/
structure Locals where
  order : Option ShopifyOrder := none
  outcome : Option OrderHandlerOutcome := none
  throwErr : Option Thrown := none
  outboundPayloadUri : Option String := none
  nsResponseUri : Option String := none
  nsResponseStatus : Option ℕ := none
  shopifyPayloadUri : Option String := none
  payloadDigest : Option Js.Fields := none

/-- What an attempt row says about how the delivery ended. -/
structure ResolvedAttempt where
  outcome : OrderAttemptOutcome
  stage : Option String := none
  errorClass : Option String := none
  detail : Option String := none

/-- The ending of a delivery that returned. -/
def OrderHandlerOutcome.resolved : OrderHandlerOutcome → ResolvedAttempt
  | .imported .. => { outcome := .imported }
  | .parked _ _ stage detail errorClass =>
    { outcome := .parked, stage := stage.text, errorClass := errorClass.text, detail := detail }
  | .ignoredByEligibility _ _ reason detail =>
    { outcome := .ignoredByEligibility
      detail := match truthy detail with
        | some detail => reason.text ++ ": " ++ detail
        | none => reason.text }
  | .alreadySynced .. => { outcome := .alreadySynced }
  | .alreadyClaimed .. => { outcome := .alreadyClaimed }
  | .ignored .. => { outcome := .ignored }
  | .rejected reason detail =>
    { outcome := .rejected, errorClass := reason.text, detail := detail }

def resolveAttemptOutcome (sdk : NetSuiteSdk) (outcome : Option OrderHandlerOutcome)
    (throwErr : Option Thrown) : ResolvedAttempt :=
  match throwErr with
  | none | some .undefined =>
    match outcome with
    | none => { outcome := .transientThrow, detail := "no outcome captured" }
    | some o => o.resolved
  | some err =>
    let errorClass := classifyHandlerError sdk err
    { outcome := if errorClass = .auth then .authThrow else .transientThrow
      errorClass := errorClass.text
      detail := err.detail }

/-- Write the attempt row of a delivery, if attempts are recorded. Failures to write it
are swallowed. -/
def Delivery.recordAttempt (d : Delivery) (l : Locals) : Async Unit :=
  match d.deps.orderAttemptStore, d.attemptCtx with
  | true, some ctx => do
    let finishedAt ← Async.now
    let resolved := resolveAttemptOutcome d.deps.sdk l.outcome l.throwErr
    let _ ← Async.quietly (.recordAttempt
      { environment := d.deps.environment
        connectionId := d.connection.connectionId
        shopifyOrderGid := d.msg.orderGid
        deliveryCount := ctx.deliveryCount
        sbMessageId := truthy ctx.sbMessageId
        sbSessionId := truthy ctx.sbSessionId
        outcome := resolved.outcome
        stage := truthy resolved.stage
        errorClass := truthy resolved.errorClass
        detail := truthy resolved.detail
        inboundEnvelopeUri := truthy (some d.msg.envelopeBlobUri)
        outboundPayloadUri := truthy l.outboundPayloadUri
        nsResponseUri := truthy l.nsResponseUri
        nsResponseStatus := l.nsResponseStatus
        shopifyPayloadUri := truthy l.shopifyPayloadUri
        payloadDigest := l.payloadDigest
        startedAt := ctx.startedAt
        finishedAt
        durationMs := max 0 (finishedAt - ctx.startedAt) })
    return ()
  | _, _ => return ()

/-! ## Parks and errors -/

structure ParkInput where
  stage : Stage
  detail : String
  errorClass : ErrorClass
  stack : Option String := none
  order : Option ShopifyOrder := none

/-- The error record of a delivery. -/
def Delivery.errorInput (d : Delivery) (key : String) (errorClass : ErrorClass) (message : String)
    (stack : Option String) : NewErrorInput where
  environment := d.deps.environment
  connectionId := d.connection.connectionId
  flow := "order-import"
  dedupKey := key
  errorClass
  message
  stack
  envelope := d.msg.raw

/-- Write an error record, if the error store is wired. -/
def Delivery.recordError (d : Delivery) (input : String → NewErrorInput) : Async Unit :=
  if d.deps.errorStore then do
    let key ← Async.ofExcept (dedupKey d.parts)
    Async.io (.recordError (input key))
  else return ()

/-- Mark the row as failed, record the error, and return a parked outcome. -/
def parkOutcome (d : Delivery) (park : ParkInput) : Async OrderHandlerOutcome := do
  let _ ← Async.io (.recordFailure d.parts)
  d.recordError fun key =>
    d.errorInput key park.errorClass ("[" ++ park.stage.text ++ "] " ++ park.detail) park.stack
  d.track (.park d.deps.environment d.connection.connectionId park.stage.text park.errorClass)
  d.writeSyncLog
    { status := .parked
      order := park.order
      parkStage := park.stage.text
      parkDetail := park.detail
      parkErrorClass := park.errorClass.text
      attemptCtx := d.attemptCtx }
  return .parked d.connection.connectionId d.msg.orderGid park.stage park.detail park.errorClass

/-- Throw a transient or auth error again, the latter after recording it; park all else. -/
def classifyAndRoute (d : Delivery) (err : Thrown) (order : Option ShopifyOrder) :
    Async OrderHandlerOutcome := do
  let errorClass := classifyHandlerError d.deps.sdk err
  if shouldRetry errorClass then
    if errorClass = .auth then
      d.recordError fun key => d.errorInput key errorClass err.detail err.stack
      d.track (.authError d.deps.environment d.connection.connectionId "order-import" err.detail)
    throw err
  else
    parkOutcome d
      { stage := if err.isOrderNotFound then .fetch else .externalCall
        detail := err.detail
        errorClass
        stack := err.stack
        order }

/-! ## From the order to the payload -/

/-- An order on its way to NetSuite: parked at a stage, or with its customer and payload. -/
inductive PreparedOrder
  | parked (stage : Stage) (detail : String) (errorClass : ErrorClass)
  | ready (customer : CustomerResolution) (payload : NsOrderPayload)

/-- Steps 6 to 9: mapping, tax fields, balancing and item references. -/
def mapOrder (d : Delivery) (order : ShopifyOrder) (customer : CustomerResolution) :
    Async PreparedOrder := do
  -- 6. Build NS payload
  match ← buildOrderPayload d.deps.dates
      { connection := d.connection
        order
        customerInternalId := customer.internalId
        lookups := d.deps.lookupsFor d.connection
        derives := some (d.deps.derives.getD (defaultDeriveRegistry d.deps.dates)) } with
  | .parked reason => return .parked .mapping reason.detail .unmappedConstruct
  | .ok draft =>
    -- 7. Tax strategy
    let taxApplied := applyTaxPayloadHeader draft (buildOrderTax d.connection order)
    -- 8. Balancing line
    match ← Async.ofExcept (applyBalancing taxApplied order defaultBalancing) with
    | .parked reason => return .parked .balancing reason.detail .data
    | .ok balanced =>
      -- 9. Item-id resolution
      match ← resolveItemReferences balanced.payload d.connection.nsAccountId
          d.connection.defaultItemId with
      | .parked reason => return .parked .itemResolution reason.detail .unmappedConstruct
      | .ok finalPayload => return .ready customer finalPayload

/-- Steps 5 to 9: the customer, and the payload. -/
def prepareOrder (d : Delivery) (order : ShopifyOrder) : Async PreparedOrder := do
  -- 5. Customer match/create
  let customer ← resolveCustomer d.connection order.customer d.deps.guestCustomerInternalId
    { billing := order.billingAddress, shipping := order.shippingAddress }
  mapOrder d order customer

/-- `v.id` of a reference, and other values as they are. -/
def refId (v : Js.Value) : Js.Value :=
  match v with
  | .obj fields => (Js.Fields.get? fields "id").getD v
  | v => v

/-- A small preview of the payload. -/
def buildPayloadDigest (p : Js.Fields) : Js.Fields :=
  let lineCount : ℕ :=
    match ((p.get? "item").getD .undefined).prop "items" with
    | .arr items => items.length
    | _ => 0
  let entry (name key : String) (f : Js.Value → Js.Value) : Js.Fields :=
    match p.get? key with
    | none | some .undefined => []
    | some v => [(name, f v)]
  [("lineCount", .num (.fin lineCount))] ++ entry "tranId" "tranId" id ++
    entry "externalId" "externalId" id ++ entry "subsidiaryId" "subsidiary" refId ++
    entry "entityId" "entity" refId ++ entry "currencyId" "currency" refId ++
    entry "orderStatus" "orderStatus" refId ++ entry "tranDate" "tranDate" id

/-! ## The pipeline -/

/-- Programs with the pipeline's variables. -/
abbrev Handler := Scoped Thrown Locals Op Op.Resp

/-- Set the outcome of the delivery and return it. -/
def finish (o : OrderHandlerOutcome) : Handler OrderHandlerOutcome := do
  modify fun l => { l with outcome := some o }
  return o

/-- Archive a payload, if the archive is wired and the delivery has a context. Failures are
swallowed; `set` stores the address of the archived payload. -/
def Delivery.archive (d : Delivery) (payload : Js.Fields) (kind : PayloadKind)
    (nsAccountId nsRecordType : Option String) (set : Option String → Locals → Locals) :
    Handler Unit :=
  match d.deps.outboundPayloadStore, d.attemptCtx with
  | true, some ctx => do
    let uri ← Scoped.await (Async.quietly (.putPayload payload
      { environment := d.deps.environment
        connectionId := d.connection.connectionId
        shopifyOrderGid := d.msg.orderGid
        deliveryCount := ctx.deliveryCount
        nsAccountId
        nsRecordType
        attemptStartedAt := ctx.startedAt
        kind }))
    modify (set uri)
  | _, _ => return ()

/-- The properties of a raw response. -/
def RawResponse.fields (r : RawResponse) : Js.Fields :=
  [("status", .num (.fin r.status))] ++ (r.headers.toList.map fun h => ("headers", .obj h)) ++
    optional "body" r.body

/-- The properties of the raw response on an error. -/
def RawNsResponse.fields (r : RawNsResponse) : Js.Fields :=
  (r.status.toList.map fun s => ("status", .num (.fin s))) ++ optional "body" r.body

/-- Tag the Shopify order with the internal id. A failure is recorded and swallowed. -/
def writeTag (d : Delivery) (internalId : String) : Async Unit :=
  if d.connection.writeTagsOnImport then
    let tag := "netsuite-" ++ internalId
    tryCatch (do
      let _ ← Async.io (.tagOrder d.connection d.msg.orderGid [tag])
      return ()) fun tagErr =>
      d.recordError fun key =>
        { environment := d.deps.environment
          connectionId := d.connection.connectionId
          flow := "order-tag-writeback"
          dedupKey := key
          errorClass := classifyHandlerError d.deps.sdk tagErr
          message := "tagOrder('" ++ tag ++ "') failed for " ++ d.msg.orderGid ++ ": " ++
            tagErr.detail
          stack := tagErr.stack
          envelope := .obj (field "orderGid" d.msg.orderGid ++ field "tag" tag ++
            field "targetId" internalId) }
  else return ()

/-- Steps 11a to 12, after the import was recorded: the metric, the ledger row, the tag. -/
def afterImport (d : Delivery) (order : ShopifyOrder) (internalId : String)
    (outboundPayloadUri : Option String) : Async Unit := do
  -- 11a. Telemetry
  let now ← Async.now
  let durationMs := (d.attemptCtx.map fun ctx => max 0 (now - ctx.startedAt)).getD 0
  d.track (.imported d.deps.environment d.connection.connectionId durationMs)
  -- 11b. Sync-log row
  d.writeSyncLog
    { status := .imported
      order := some order
      nsAccountId := d.connection.nsAccountId
      nsRecordType := (netsuiteOrderRecordType d.connection).text
      nsInternalId := internalId
      syncedAt := now
      attemptCtx := d.attemptCtx
      lastOutboundPayloadUri := outboundPayloadUri }
  -- 12. Tag write-back
  writeTag d internalId

/-- The order upsert. -/
def Delivery.orderUpsert (d : Delivery) (payload : NsOrderPayload) : UpsertArgs where
  nsAccountId := d.connection.nsAccountId
  recordType := netsuiteOrderRecordType d.connection
  externalId := d.msg.orderGid
  payload

/-- Steps 9b to 12: archive the payload, write it to NetSuite, record the import. -/
def writeOrder (d : Delivery) (order : ShopifyOrder) (customer : CustomerResolution)
    (payload : NsOrderPayload) : Handler OrderHandlerOutcome := do
  -- 9b. Archive the outbound payload
  let recordType := (netsuiteOrderRecordType d.connection).text
  d.archive payload .outbound d.connection.nsAccountId recordType
    fun uri l => { l with outboundPayloadUri := uri }
  modify fun l => { l with payloadDigest := some (buildPayloadDigest payload) }
  -- 10. NS upsert keyed on the order GID
  let upserted ← Scoped.await (Async.io (.upsertByExternalId (d.orderUpsert payload)))
  -- 10b. Archive the raw response
  match upserted.rawResponse with
  | some response =>
    modify fun l => { l with nsResponseStatus := some response.status }
    d.archive response.fields .nsResponse d.connection.nsAccountId recordType
      fun uri l => { l with nsResponseUri := uri }
  | none => pure ()
  -- 11. recordSuccess
  let _ ← Scoped.await (Async.io (.recordSuccess d.parts upserted.internalId d.msg.orderGid))
  let l ← get
  Scoped.await (afterImport d order upserted.internalId l.outboundPayloadUri)
  finish (.imported d.connection.connectionId d.msg.orderGid upserted.internalId upserted.created
    customer)

/-- Step 4 for an order that should not be imported. -/
def ignoreOrder (d : Delivery) (order : ShopifyOrder) (reason : EligibilityReason)
    (detail : Option String) : Handler OrderHandlerOutcome := do
  let _ ← Scoped.await (Async.io (.markIgnored d.parts))
  Scoped.await (d.writeSyncLog
    { status := .ignored, order := some order, ignoredReason := reason.text
      attemptCtx := d.attemptCtx })
  Scoped.await (d.track (.ignored d.deps.environment d.connection.connectionId reason.text))
  finish (.ignoredByEligibility d.connection.connectionId d.msg.orderGid reason (truthy detail))

/-- The body after the claim: steps 3 to 12. -/
def importOrder (d : Delivery) : Handler OrderHandlerOutcome := do
  -- 3. Re-fetch the authoritative order
  let order ← Scoped.await (Async.io (.getOrder d.connection d.msg.orderGid))
  modify fun l => { l with order := some order }
  -- 3b. Archive the order
  d.archive order.fields .shopifyOrder none none fun uri l => { l with shopifyPayloadUri := uri }
  -- 4. Eligibility predicate
  match checkEligibility order d.msg.topic {} with
  | .ineligible reason detail => ignoreOrder d order reason detail
  | .eligible =>
    match ← Scoped.await (prepareOrder d order) with
    | .parked stage detail errorClass =>
      finish (← Scoped.await (parkOutcome d { stage, detail, errorClass, order := some order }))
    | .ready customer payload => writeOrder d order customer payload

/-- Archive the NetSuite response that an error carries. -/
def archiveThrown (d : Delivery) (err : Thrown) : Handler Unit := do
  match err with
  | .null => throw (typeError "Cannot read properties of null (reading 'rawNsResponse')")
  | .undefined =>
    throw (typeError "Cannot read properties of undefined (reading 'rawNsResponse')")
  | .error { rawNsResponse := some raw, .. } =>
    modify fun l => { l with nsResponseStatus := raw.status.or l.nsResponseStatus }
    d.archive raw.fields .nsResponse d.connection.nsAccountId none
      fun uri l => { l with nsResponseUri := uri }
  | _ => pure ()

/-- The catch after the claim: archive the NetSuite response of the error, then route it. -/
def routeThrown (d : Delivery) (err : Thrown) : Handler OrderHandlerOutcome := do
  archiveThrown d err
  let l ← get
  tryCatch (do finish (← Scoped.await (classifyAndRoute d err l.order))) fun rethrown => do
    modify fun l => { l with throwErr := some rethrown }
    throw rethrown

/-- Everything after the claim, with exactly one attempt row at its end. -/
def importClaimedOrder (d : Delivery) : Async OrderHandlerOutcome :=
  Scoped.withFinally (tryCatch (importOrder d) (routeThrown d)) {} d.recordAttempt

/-! ## The handler -/

/-- End a delivery that has nothing to import, with an attempt row. -/
def shortCircuit (d : Delivery) (o : OrderHandlerOutcome) : Async OrderHandlerOutcome := do
  d.recordAttempt { outcome := some o }
  return o

/-- Steps 2 to 12: claim the row, and import the order if the claim is new. -/
def claimAndImport (d : Delivery) : Async OrderHandlerOutcome := do
  let claim ← Async.io (.claim d.claimInput)
  match claim.outcome with
  | .alreadySynced => shortCircuit d (.alreadySynced d.connection.connectionId d.msg.orderGid)
  | .alreadyClaimed => shortCircuit d (.alreadyClaimed d.connection.connectionId d.msg.orderGid)
  | .ignored => shortCircuit d (.ignored d.connection.connectionId d.msg.orderGid)
  | .claimed => importClaimedOrder d

/-- A live update, for which an order that was never recorded is not created. -/
def Delivery.isLiveUpdate (d : Delivery) : Bool :=
  d.msg.source.getD .webhook = .webhook && d.msg.topic = "orders/updated"

/-- Step 1b for an order without a row: ignore the update. -/
def ignoreUpdate (d : Delivery) : Async OrderHandlerOutcome := do
  let _ ← Async.io (.markIgnored d.parts)
  d.writeSyncLog
    { status := .ignored, ignoredReason := EligibilityReason.updateBeforeCreate.text
      attemptCtx := d.attemptCtx }
  d.track (.ignored d.deps.environment d.connection.connectionId
    EligibilityReason.updateBeforeCreate.text)
  shortCircuit d
    (.ignoredByEligibility d.connection.connectionId d.msg.orderGid .updateBeforeCreate none)

/-- Steps 1b to 12 of a delivery for an enabled connection. -/
def deliver (d : Delivery) : Async OrderHandlerOutcome := do
  if d.isLiveUpdate then
    match ← Async.io (.lookupXref d.parts) with
    | none => ignoreUpdate d
    | some _ => claimAndImport d
  else claimAndImport d

/-- Handle one delivery of a message. -/
def handleOrderMessage (deps : OrderHandlerDeps) (message : Js.Value)
    (attemptCtx : Option AttemptContext) : Async OrderHandlerOutcome := do
  -- 1. Parse and validate
  match parseOrderWebhookMessage message with
  | .error detail => return .rejected .badMessageShape detail
  | .ok msg =>
    if msg.environment ≠ deps.environment.text then
      return .rejected .envMismatch
        ("message env=" ++ msg.environment ++ ", handler env=" ++ deps.environment.text)
    else
      match ← Async.io (.findConnection deps.environment msg.connectionId) with
      | none => return .rejected .unknownConnection ("connectionId=" ++ msg.connectionId)
      | some connection =>
        if connection.enabled then deliver { deps, connection, msg, attemptCtx }
        else return .rejected .unknownConnection ("connectionId=" ++ msg.connectionId)

end DpIntegrator
