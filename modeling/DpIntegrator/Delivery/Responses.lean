import DpIntegrator.Functions.Receiver
import DpIntegrator.Delivery.Histories

/-!
# Running activities

Stores that answer for themselves, next to services whose answers are given by a
function, make a world in which every activity can be run to its end. A small shop with
one connection and one order is the example that the other files run.
-/

namespace DpIntegrator

open Effects

/-- How the calls of an activity are answered: which fail, what the services outside
return, and what the clock shows. -/
structure Responder where
  fails : Call → Option Thrown := fun _ => none
  answers : (c : Call) → Except Thrown c.Ret
  now : ℤ := 0

namespace Responder

variable (s : Responder)

/-- The answer to an operation, and the stores after it. -/
def respond (o : Op) (w : World) : o.Resp × World :=
  match o with
  | .io c =>
    match s.fails c, w.serve s.now c with
    | some e, _ => (.error e, w)
    | none, some out => out
    | none, none => (s.answers c, w)
  | .clock => (s.now, w)
  | .track _ => ((), w)

/-- A responder answers as a world may. -/
theorem step_respond (o : Op) (w : World) : World.Step o w (s.respond o w).1 (s.respond o w).2 := by
  cases o with
  | clock => exact .clock _
  | track metric => exact .track metric
  | io c =>
    unfold respond
    dsimp only
    split
    · exact .failed _
    · next out hserve => exact World.Step.served hserve
    · next hserve => exact .outside (World.isStore_of_serve_none hserve) _

/-- Run an activity: its calls and result, and the stores after it. -/
def perform (a : Activity) (w : World) : a.Record × World :=
  let (tr, res, w') := a.program.run.execute s.respond w
  ((tr, res), w')

theorem performs (a : Activity) (w : World) :
    a.Performs w (s.perform a w).1 (s.perform a w).2 :=
  a.program.run.exec_execute s.step_respond w

/-- Every answer is the responder's, from stores at some time. -/
theorem mem_perform {a : Activity} {w : World} {ev : Ev} (h : ev ∈ (s.perform a w).1.1) :
    ∃ v, ev.2 = (s.respond ev.1 v).1 := Prog.mem_execute h

end Responder

/-! ## A small shop -/

namespace Shop

def order : ShopifyOrder where
  id := "gid://shopify/Order/1"
  name := "#1001"
  createdAt := "2026-01-05T10:00:00Z"
  updatedAt := "2026-01-05T10:00:00Z"
  processedAt := "2026-01-05T10:00:00Z"
  currencyCode := "USD"
  totalPrice := ⟨"10.00", "USD"⟩
  subtotalPrice := ⟨"10.00", "USD"⟩
  totalTax := ⟨"0.00", "USD"⟩
  totalShippingPrice := ⟨"0.00", "USD"⟩
  totalDiscounts := ⟨"0.00", "USD"⟩
  financialStatus := .paid
  lineItems := [{
    id := "gid://shopify/LineItem/1"
    title := "Mug"
    sku := some "MUG"
    quantity := 1
    originalUnitPrice := ⟨"10.00", "USD"⟩
    discountedTotal := ⟨"10.00", "USD"⟩ }]

def connection : Connection where
  connectionId := "conn-a"
  environment := .dev
  shopifyStore := "a.myshopify.com"
  shopifyWebhookSecretRef := "shop-secret"
  nsAccountId := "TSTDRV1"
  nsSubsidiary := "1"
  baseCurrency := "USD"
  taxEngine := .suitetax
  orderTarget := .salesOrder
  enabled := true

/-- Stores with the connection and nothing else. -/
def world : World where
  connections := [connection]
  xref := fun _ => none
  errors := []
  syncLog := ⟨fun _ => none, 0⟩
  attempts := []
  queue := ⟨[], 0⟩
  watermarks := fun _ => none

/-- Services that have the order, every lookup entry and every item. -/
def answers : (c : Call) → Except Thrown c.Ret
  | .putPayload .. => .ok "blob"
  | .resolveLookup .. => .ok (some "7")
  | .getOrder .. => .ok order
  | .tagOrder _ _ tags => .ok tags
  | .listOrdersUpdatedSince .. => .ok [⟨order.id, order.updatedAt⟩]
  | .upsertByExternalId args => .ok ⟨"42", args.externalId, true, none⟩
  | .findByExternalId .. => .ok none
  | .getCustomerAddressbook .. => .ok []
  | .resolveItemId .. => .ok (some "9")
  | _ => .error .undefined

/-- Services that are up. -/
def up : Responder := { answers }

/-- Services that are up, but whose calls of a kind fail with `e`. -/
def down (kind : Call → Bool) (e : Thrown) : Responder :=
  { fails := fun c => if kind c then some e else none, answers }

def deps : OrderHandlerDeps where
  environment := .dev
  guestCustomerInternalId := "5"
  errorStore := true
  orderSyncLog := true
  orderAttemptStore := true
  outboundPayloadStore := true
  telemetry := true
  sdk := ⟨fun status => status == 401 || status == 403,
    fun status => status == 429 || decide (500 ≤ status)⟩
  dates := ⟨fun _ => none⟩

/-- A message about the order. -/
def message (source : Option Source) (topic : String) : OrderWebhookMessage where
  environment := .dev
  connectionId := "conn-a"
  shopDomain := "a.myshopify.com"
  topic
  orderGid := order.id
  envelopeBlobUri := "webhooks/1.json"
  receivedAt := "2026-01-05T10:00:01Z"
  source

/-- The delivery of a message about the order. -/
def delivery (msg : OrderWebhookMessage) : Delivery where
  deps := deps
  connection := connection
  msg := msg.received
  attemptCtx := some { deliveryCount := 1, startedAt := 0 }

theorem message_wellFormed (source : Option Source) {topic : String} (h : topic ≠ "") :
    (message source topic).WellFormed :=
  ⟨by simp [message], by simp [message], h, by simp [message, order], by simp [message],
    by simp [message]⟩

/-- Messages to the connection of the shop are deliveries. -/
theorem delivers {msg : OrderWebhookMessage} {w : World} (hmsg : msg.WellFormed)
    (henv : msg.environment = .dev) (hid : msg.connectionId = "conn-a")
    (hconn : w.connections = world.connections) : (delivery msg).Delivers msg.toJs w where
  parsed := parseOrderWebhookMessage_toJs hmsg
  environment := by simp [delivery, OrderWebhookMessage.received, deps, henv]
  found := by
    rw [World.findById, hconn]
    simp [delivery, OrderWebhookMessage.received, deps, world, hid, connection]
  enabled := rfl

/-- The dedup key of the order. -/
def key : String := "dev|conn-a|order|shopify|gid://shopify/Order/1"

end Shop

end DpIntegrator
