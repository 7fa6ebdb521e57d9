import DpIntegrator.Js.Date
import DpIntegrator.Calls

/-!
# The webhook receiver

Verifies a webhook of Shopify, archives its envelope and enqueues a message about the
order that it names.
-/

namespace DpIntegrator

open Effects

/-- The session of an order. -/
def sessionKeyFor (connectionId orderGid : String) : String := connectionId ++ ":" ++ orderGid

/-! ## The archive of envelopes -/

/-- `s.replace(/[^a-z0-9_-]/gi, '_')`. -/
def replaceUnsafe (s : String) : String :=
  String.ofList (s.toList.flatMap fun c =>
    if c.isAlphanum || c == '_' || c == '-' then [c]
    else if c.toNat < 0x10000 then ['_'] else ['_', '_'])

def blobNameFor (payload : WebhookEnvelopePayload) : String :=
  let id := replaceUnsafe ((Js.split payload.orderGid '/').getLast?.getD "unknown")
  let (year, month, day) := Js.civilOfDays (payload.receivedAt / 86400000)
  let ts := String.ofList ((Js.toISOString payload.receivedAt).toList.map fun c =>
    if c = ':' ∨ c = '.' then '-' else c)
  String.intercalate "/" [payload.environment.text, payload.connectionId, payload.topic,
    toString year, Js.padNumber 2 month, Js.padNumber 2 day, id ++ "-" ++ ts ++ ".json"]

def encodeBlobPath (path : String) : String :=
  String.intercalate "/" ((Js.split path '/').map Js.encodeURIComponent)

/-! ## The receiver -/

structure WebhookDeps where
  environment : Environment
  /-- The address of the container of the archive. -/
  containerUrl : String
  /-- `JSON.parse`; `none` where it throws. -/
  parseJson : String → Option Js.Value
  /-- Whether a text in base64 is the HMAC-SHA256 of a body under a secret. -/
  hmacMatches : (rawBody hmac secret : String) → Bool

structure NormalizedRequest where
  rawBody : String
  headers : List (String × String)

inductive WebhookReason
  | enqueued
  | missingShopifyHeaders
  | unknownOrDisabledShop
  | invalidHmac
  | bodyNotJson
  | bodyMissingId
  | secretLookupFailed
  | envelopePersistFailed
  | enqueueFailed
  deriving DecidableEq, Repr

structure WebhookOutcome where
  status : ℕ
  reason : WebhookReason
  connectionId : Option String := none
  orderGid : Option String := none
  envelopeUri : Option String := none
  deriving DecidableEq, Repr

/-- A header that is there and not empty. -/
def NormalizedRequest.header (req : NormalizedRequest) (name : String) : Option String :=
  (req.headers.lookup name).filter (· ≠ "")

def verifyShopifyHmac (deps : WebhookDeps) (rawBody hmac secret : String) : Bool :=
  hmac ≠ "" && secret ≠ "" && deps.hmacMatches rawBody hmac secret

/-- The GID of the order whose id the body carries, if it carries one. -/
def orderGidOf (body : Js.Value) : Option String :=
  let orderIdRaw := body.prop "id"
  if orderIdRaw.isNullish ∨ orderIdRaw.toText = "" then none
  else some ("gid://shopify/Order/" ++ orderIdRaw.toText)

/-- Archive the envelope of an order and enqueue a message about it. -/
def acceptWebhook (deps : WebhookDeps) (req : NormalizedRequest) (connection : Connection)
    (shopDomain hmac topic orderGid : String) : Async WebhookOutcome := do
  let receivedAt ← Async.now
  let payload : WebhookEnvelopePayload :=
    { environment := deps.environment, connectionId := connection.connectionId, shopDomain, topic,
      orderGid, hmac, headers := req.headers, rawBody := req.rawBody, receivedAt }
  let envelopeUri := deps.containerUrl ++ "/" ++ encodeBlobPath (blobNameFor payload)
  match ← Async.quietly (.putEnvelope (blobNameFor payload) payload) with
  | none =>
    return { status := 500, reason := .envelopePersistFailed
             connectionId := connection.connectionId, orderGid }
  | some () =>
    let message : OrderWebhookMessage :=
      { environment := deps.environment, connectionId := connection.connectionId, shopDomain, topic,
        orderGid, envelopeBlobUri := envelopeUri, receivedAt := Js.toISOString receivedAt
        source := some .webhook }
    match ← Async.quietly (.enqueue (sessionKeyFor connection.connectionId orderGid) message) with
    | none =>
      return { status := 500, reason := .enqueueFailed, connectionId := connection.connectionId
               orderGid, envelopeUri }
    | some () =>
      return { status := 200, reason := .enqueued, connectionId := connection.connectionId
               orderGid, envelopeUri }

def handleShopifyWebhook (deps : WebhookDeps) (req : NormalizedRequest) :
    Async WebhookOutcome := do
  match req.header "x-shopify-shop-domain", req.header "x-shopify-hmac-sha256",
    req.header "x-shopify-topic" with
  | some shopDomain, some hmac, some topic =>
    match ← Async.io (.findByShopDomain deps.environment shopDomain) with
    | none => return { status := 401, reason := .unknownOrDisabledShop }
    | some connection =>
      if connection.enabled then
        match ← Async.quietly (.getSecret connection.shopifyWebhookSecretRef) with
        | none =>
          return { status := 500, reason := .secretLookupFailed
                   connectionId := connection.connectionId }
        | some secret =>
          if verifyShopifyHmac deps req.rawBody hmac secret then
            match deps.parseJson req.rawBody with
            | none =>
              return { status := 400, reason := .bodyNotJson
                       connectionId := connection.connectionId }
            | some body =>
              match orderGidOf body with
              | none =>
                return { status := 400, reason := .bodyMissingId
                         connectionId := connection.connectionId }
              | some orderGid => acceptWebhook deps req connection shopDomain hmac topic orderGid
          else
            return { status := 401, reason := .invalidHmac
                     connectionId := connection.connectionId }
      else
        return { status := 401, reason := .unknownOrDisabledShop
                 connectionId := connection.connectionId }
  | _, _, _ => return { status := 401, reason := .missingShopifyHeaders }

end DpIntegrator
