import DpIntegrator.Functions.Webhook

/-!
# What the receiver acknowledges

The receiver verifies a request, archives its envelope and enqueues one message about it, in
this order, and says 200 if and only if all of it went well.
-/

namespace DpIntegrator

open Effects

/-- The message of a call that enqueued one. -/
def enqueuedBy : Ev → Option (String × OrderWebhookMessage)
  | ⟨.io (.enqueue sessionId msg), .ok _⟩ => some (sessionId, msg)
  | _ => none

theorem mem_of_enqueuedBy {tr : List Ev} {sessionId : String} {msg : OrderWebhookMessage}
    (h : (sessionId, msg) ∈ tr.filterMap enqueuedBy) :
    answered (.enqueue sessionId msg) (.ok ()) ∈ tr := by
  obtain ⟨ev, hev, hmsg⟩ := List.mem_filterMap.mp h
  unfold enqueuedBy at hmsg
  split at hmsg
  · cases hmsg
    exact hev
  · cases hmsg

theorem enqueuedBy_of_mem {tr : List Ev} {sessionId : String} {msg : OrderWebhookMessage} {u : Unit}
    (h : answered (.enqueue sessionId msg) (.ok u) ∈ tr) :
    (sessionId, msg) ∈ tr.filterMap enqueuedBy := List.mem_filterMap.mpr ⟨_, h, rfl⟩

/-! ## Exits -/

/-- The message of a webhook whose envelope was archived. -/
def webhookMessage (deps : WebhookDeps) (connection : Connection)
    (shopDomain topic orderGid envelopeBlobUri : String) (receivedAt : ℤ) :
    OrderWebhookMessage where
  environment := deps.environment
  connectionId := connection.connectionId
  shopDomain
  topic
  orderGid
  envelopeBlobUri
  receivedAt := Js.toISOString receivedAt
  source := some .webhook

/-- The request names its shop, its signature and its topic. -/
structure Signed (req : NormalizedRequest) (shopDomain hmac topic : String) : Prop where
  shop : req.header "x-shopify-shop-domain" = some shopDomain
  signature : req.header "x-shopify-hmac-sha256" = some hmac
  topic : req.header "x-shopify-topic" = some topic

/-- The lookup of the connection of a shop. -/
abbrev looked (deps : WebhookDeps) (shopDomain : String)
    (r : Except Thrown (Option Connection)) : Ev :=
  answered (.findByShopDomain deps.environment shopDomain) r

/-- The lookup of the secret that signs the webhooks of a connection. -/
abbrev unsealed (connection : Connection) (r : Except Thrown String) : Ev :=
  answered (.getSecret connection.shopifyWebhookSecretRef) r

/-- The envelope of a request. -/
def webhookEnvelope (deps : WebhookDeps) (req : NormalizedRequest) (connection : Connection)
    (shopDomain hmac topic orderGid : String) (receivedAt : ℤ) : WebhookEnvelopePayload where
  environment := deps.environment
  connectionId := connection.connectionId
  shopDomain
  topic
  orderGid
  hmac
  headers := req.headers
  rawBody := req.rawBody
  receivedAt

/-- The address under which an envelope is archived. -/
def envelopeUri (deps : WebhookDeps) (payload : WebhookEnvelopePayload) : String :=
  deps.containerUrl ++ "/" ++ encodeBlobPath (blobNameFor payload)

abbrev archived (payload : WebhookEnvelopePayload) (r : Except Thrown Unit) : Ev :=
  answered (.putEnvelope (blobNameFor payload) payload) r

/-- The message about an envelope, on its way to the queue. -/
abbrev sentMessage (deps : WebhookDeps) (connection : Connection)
    (payload : WebhookEnvelopePayload) (r : Except Thrown Unit) : Ev :=
  answered (.enqueue (sessionKeyFor connection.connectionId payload.orderGid)
    (webhookMessage deps connection payload.shopDomain payload.topic payload.orderGid
      (envelopeUri deps payload) payload.receivedAt)) r

/-- The request is from an enabled connection whose secret signs its body. -/
structure Verified (deps : WebhookDeps) (req : NormalizedRequest) (shopDomain : String)
    (connection : Connection) (secret : String) (hmac topic : String) : Prop where
  signed : Signed req shopDomain hmac topic
  enabled : connection.enabled = true
  verified : verifyShopifyHmac deps req.rawBody hmac secret = true

/-- The calls and the outcome of accepting the request about an order. -/
inductive AcceptRun (deps : WebhookDeps) (connection : Connection)
    (payload : WebhookEnvelopePayload) : List Ev → WebhookOutcome → Prop
  | notArchived (e : Thrown) : AcceptRun deps connection payload [archived payload (.error e)]
      { status := 500, reason := .envelopePersistFailed
        connectionId := connection.connectionId, orderGid := payload.orderGid }
  | notEnqueued (e : Thrown) : AcceptRun deps connection payload
      [archived payload (.ok ()), sentMessage deps connection payload (.error e)]
      { status := 500, reason := .enqueueFailed, connectionId := connection.connectionId
        orderGid := payload.orderGid, envelopeUri := envelopeUri deps payload }
  | enqueued : AcceptRun deps connection payload
      [archived payload (.ok ()), sentMessage deps connection payload (.ok ())]
      { status := 200, reason := .enqueued, connectionId := connection.connectionId
        orderGid := payload.orderGid, envelopeUri := envelopeUri deps payload }

/-- The exits of the receiver, with the calls that lead to them. -/
inductive WebhookRun (deps : WebhookDeps) (req : NormalizedRequest) :
    List Ev → Except Thrown WebhookOutcome → Prop
  | unsigned (h : ∀ shopDomain hmac topic, ¬Signed req shopDomain hmac topic) :
      WebhookRun deps req [] (.ok { status := 401, reason := .missingShopifyHeaders })
  | notLooked {shopDomain hmac topic : String} (hsigned : Signed req shopDomain hmac topic)
      (e : Thrown) : WebhookRun deps req [looked deps shopDomain (.error e)] (.error e)
  | unknown {shopDomain hmac topic : String} (hsigned : Signed req shopDomain hmac topic) :
      WebhookRun deps req [looked deps shopDomain (.ok none)]
        (.ok { status := 401, reason := .unknownOrDisabledShop })
  | disabled {shopDomain hmac topic : String} {connection : Connection}
      (hsigned : Signed req shopDomain hmac topic) (hdisabled : connection.enabled = false) :
      WebhookRun deps req [looked deps shopDomain (.ok (some connection))]
        (.ok { status := 401, reason := .unknownOrDisabledShop
               connectionId := connection.connectionId })
  | sealed {shopDomain hmac topic : String} {connection : Connection}
      (hsigned : Signed req shopDomain hmac topic) (henabled : connection.enabled = true)
      (e : Thrown) :
      WebhookRun deps req
        [looked deps shopDomain (.ok (some connection)), unsealed connection (.error e)]
        (.ok { status := 500, reason := .secretLookupFailed
               connectionId := connection.connectionId })
  | forged {shopDomain hmac topic secret : String} {connection : Connection}
      (hsigned : Signed req shopDomain hmac topic) (henabled : connection.enabled = true)
      (hforged : verifyShopifyHmac deps req.rawBody hmac secret = false) :
      WebhookRun deps req
        [looked deps shopDomain (.ok (some connection)), unsealed connection (.ok secret)]
        (.ok { status := 401, reason := .invalidHmac, connectionId := connection.connectionId })
  | unreadable {shopDomain hmac topic secret : String} {connection : Connection}
      (hverified : Verified deps req shopDomain connection secret hmac topic)
      (hbody : deps.parseJson req.rawBody = none) :
      WebhookRun deps req
        [looked deps shopDomain (.ok (some connection)), unsealed connection (.ok secret)]
        (.ok { status := 400, reason := .bodyNotJson, connectionId := connection.connectionId })
  | anonymous {shopDomain hmac topic secret : String} {connection : Connection} {body : Js.Value}
      (hverified : Verified deps req shopDomain connection secret hmac topic)
      (hbody : deps.parseJson req.rawBody = some body) (hgid : orderGidOf body = none) :
      WebhookRun deps req
        [looked deps shopDomain (.ok (some connection)), unsealed connection (.ok secret)]
        (.ok { status := 400, reason := .bodyMissingId, connectionId := connection.connectionId })
  | accepted {shopDomain hmac topic secret orderGid : String} {connection : Connection}
      {body : Js.Value} {receivedAt : ℤ} {t : List Ev} {out : WebhookOutcome}
      (hverified : Verified deps req shopDomain connection secret hmac topic)
      (hbody : deps.parseJson req.rawBody = some body) (hgid : orderGidOf body = some orderGid)
      (haccept : AcceptRun deps connection
        (webhookEnvelope deps req connection shopDomain hmac topic orderGid receivedAt) t out) :
      WebhookRun deps req
        (looked deps shopDomain (.ok (some connection)) :: unsealed connection (.ok secret) ::
          ⟨Op.clock, receivedAt⟩ :: t) (.ok out)

section Exits

variable {deps : WebhookDeps} {req : NormalizedRequest} {connection : Connection}
  {shopDomain hmac topic secret orderGid : String} {receivedAt : ℤ} {tr : List Ev}
  {res : Except Thrown WebhookOutcome}

theorem acceptRun_of_settles {out : Except Thrown WebhookOutcome}
    (h : Settles (acceptWebhook deps req connection shopDomain hmac topic orderGid) tr out) :
    ∃ (receivedAt : ℤ) (t : List Ev) (outcome : WebhookOutcome),
      tr = ⟨Op.clock, receivedAt⟩ :: t ∧ out = .ok outcome ∧ AcceptRun deps connection
        (webhookEnvelope deps req connection shopDomain hmac topic orderGid receivedAt) t
        outcome := by
  unfold acceptWebhook at h
  obtain ⟨receivedAt, t, rfl, hput⟩ := settles_now_bind.mp h
  refine ⟨receivedAt, t, ?_⟩
  obtain ⟨e | u, t₁, rfl, hsend⟩ := settles_quietly_bind.mp hput
  · obtain ⟨rfl, rfl⟩ := settles_pure.mp hsend
    exact ⟨_, rfl, rfl, .notArchived e⟩
  · obtain ⟨e | u', t₂, rfl, hret⟩ := settles_quietly_bind.mp hsend
    · obtain ⟨rfl, rfl⟩ := settles_pure.mp hret
      exact ⟨_, rfl, rfl, .notEnqueued e⟩
    · obtain ⟨rfl, rfl⟩ := settles_pure.mp hret
      exact ⟨_, rfl, rfl, .enqueued⟩

/-- Accepting sends nothing but the message about the envelope. -/
theorem AcceptRun.of_mem_enqueue {payload : WebhookEnvelopePayload} {out : WebhookOutcome}
    {sessionId : String} {msg : OrderWebhookMessage} {r : Except Thrown Unit}
    (h : AcceptRun deps connection payload tr out)
    (hmem : answered (.enqueue sessionId msg) r ∈ tr) :
    sessionId = sessionKeyFor connection.connectionId payload.orderGid ∧
      msg = webhookMessage deps connection payload.shopDomain payload.topic payload.orderGid
        (envelopeUri deps payload) payload.receivedAt := by
  have hsent : ∃ r', answered (.enqueue sessionId msg) r = sentMessage deps connection payload r' := by
    cases h with
    | notArchived => simp at hmem
    | notEnqueued e => exact ⟨.error e, by simpa using hmem⟩
    | enqueued => exact ⟨.ok (), by simpa using hmem⟩
  obtain ⟨r', heq⟩ := hsent
  cases heq
  exact ⟨rfl, rfl⟩

/-- The receiver has no other exits. -/
theorem webhookRun_of_settles (h : Settles (handleShopifyWebhook deps req) tr res) :
    WebhookRun deps req tr res := by
  unfold handleShopifyWebhook at h
  split at h
  case h_2 hunsigned =>
    obtain ⟨rfl, rfl⟩ := settles_pure.mp h
    exact .unsigned fun _ _ _ hs => hunsigned _ _ _ hs.shop hs.signature hs.topic
  next shopDomain hmac topic hshop hhmac htopic =>
  have hsigned : Signed req shopDomain hmac topic := ⟨hshop, hhmac, htopic⟩
  obtain ⟨e, rfl, rfl⟩ | ⟨found, t₁, rfl, hfound⟩ := settles_io_bind.mp h
  · exact .notLooked hsigned e
  cases found with
  | none =>
    obtain ⟨rfl, rfl⟩ := settles_pure.mp hfound
    exact .unknown hsigned
  | some connection =>
  dsimp only at hfound
  split at hfound
  case isFalse hdisabled =>
    obtain ⟨rfl, rfl⟩ := settles_pure.mp hfound
    exact .disabled hsigned (Bool.eq_false_of_not_eq_true hdisabled)
  next henabled =>
  obtain ⟨e | secret, t₂, rfl, hsecret⟩ := settles_quietly_bind.mp hfound
  · obtain ⟨rfl, rfl⟩ := settles_pure.mp hsecret
    exact .sealed hsigned henabled e
  dsimp only [Except.toOption] at hsecret
  split at hsecret
  case isFalse hforged =>
    obtain ⟨rfl, rfl⟩ := settles_pure.mp hsecret
    exact .forged hsigned henabled (Bool.eq_false_of_not_eq_true hforged)
  next hverified =>
  have hgenuine : Verified deps req shopDomain connection secret hmac topic :=
    ⟨hsigned, henabled, hverified⟩
  split at hsecret
  · next hbody =>
    obtain ⟨rfl, rfl⟩ := settles_pure.mp hsecret
    exact .unreadable hgenuine hbody
  next body hbody =>
  split at hsecret
  · next hgid =>
    obtain ⟨rfl, rfl⟩ := settles_pure.mp hsecret
    exact .anonymous hgenuine hbody hgid
  next orderGid hgid =>
  obtain ⟨receivedAt, t, out, rfl, rfl, haccept⟩ := acceptRun_of_settles hsecret
  exact .accepted hgenuine hbody hgid haccept

end Exits

end DpIntegrator
