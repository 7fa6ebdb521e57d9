import DpIntegrator.Effects.Throwing
import DpIntegrator.Core.Xref
import DpIntegrator.Core.OrderSyncLog
import DpIntegrator.Shopify.Order

/-!
# The calls of the integrator

Everything the order pipeline awaits is a call: to a store, to Shopify, to NetSuite
or to the queue. A call is answered with a result or with a thrown value. Reading
the clock and tracking a metric cannot fail. Programs over these operations are the
asynchronous functions of the source.
-/

namespace DpIntegrator

open Effects

/-! ## Arguments and results -/

/-- The NetSuite record types that the pipeline writes and reads. -/
inductive RecordType
  | salesorder
  | cashsale
  | customer
  deriving DecidableEq, Repr

def RecordType.text : RecordType → String
  | .salesorder => "salesorder"
  | .cashsale => "cashsale"
  | .customer => "customer"

/-- An order record, as opposed to a customer. -/
def RecordType.isOrder : RecordType → Bool
  | .salesorder | .cashsale => true
  | .customer => false

structure UpsertArgs where
  nsAccountId : String
  recordType : RecordType
  externalId : String
  payload : Js.Fields

/-- The raw transport response of an upsert. -/
structure RawResponse where
  status : ℕ
  headers : Option Js.Fields
  body : Option Js.Value

structure UpsertResult where
  internalId : String
  externalId : String
  created : Bool
  rawResponse : Option RawResponse

structure FindArgs where
  nsAccountId : String
  recordType : RecordType
  externalId : String
  fields : List String
  deriving DecidableEq, Repr

structure AddressbookArgs where
  nsAccountId : String
  customerInternalId : String
  shopifyIdField : String
  deriving DecidableEq, Repr

structure CustomerAddressbookEntry where
  internalId : String
  shopifyAddressId : Option String
  defaultBilling : Bool
  defaultShipping : Bool
  label : Option String
  deriving DecidableEq, Repr

/-- The payloads that are archived. -/
abbrev Payload := Js.Fields

/-- The envelope of a webhook, as it is archived. -/
structure WebhookEnvelopePayload where
  environment : Environment
  connectionId : String
  shopDomain : String
  topic : String
  orderGid : String
  hmac : String
  headers : List (String × String)
  rawBody : String
  receivedAt : ℤ
  deriving DecidableEq, Repr

/-- The orders of a day at Shopify: how many, and their totals by currency. -/
structure OrderDailyAggregate where
  count : ℕ
  totalsByCurrency : List (String × String)
  deriving DecidableEq, Repr

structure ReconciliationSnapshotInput where
  environment : Environment
  connectionId : String
  businessDate : String
  shopifyOrderCount : ℕ
  nsTxnCount : ℕ
  shopifyTotal : String
  nsTotal : String
  discrepancy : Option Js.Fields

structure ReconciliationSnapshot extends ReconciliationSnapshotInput where
  createdAt : ℤ

/-- A metric or event with its properties. -/
inductive Metric
  | imported (environment : Environment) (connectionId : String) (durationMs : ℤ)
  | park (environment : Environment) (connectionId stage : String) (errorClass : ErrorClass)
  | ignored (environment : Environment) (connectionId reason : String)
  | catchupPoll (environment : Environment) (connectionId : String) (observed enqueued : ℕ)
  | authError (environment : Environment) (connectionId flow message : String)
  | reconciliationDrift (environment : Environment) (connectionId businessDate : String)
      (countDiff : ℤ) (totalDiff : String)
  deriving DecidableEq, Repr

/-! ## Calls -/

inductive Call
  | findConnection (environment : Environment) (connectionId : String)
  | findByShopDomain (environment : Environment) (shopDomain : String)
  | listEnabled (environment : Environment)
  | lookupXref (parts : DedupKeyParts)
  | claim (input : ClaimInput)
  | recordSuccess (parts : DedupKeyParts) (targetId externalId : String)
  | recordFailure (parts : DedupKeyParts)
  | markIgnored (parts : DedupKeyParts)
  | deleteXref (parts : DedupKeyParts)
  | recordError (input : NewErrorInput)
  | upsertSyncLog (input : OrderSyncLogInput)
  | recordAttempt (input : OrderAttemptInput)
  | enqueue (sessionId : String) (body : OrderWebhookMessage)
  | getWatermark (parts : WatermarkKey)
  | setWatermark (parts : WatermarkKey) (cursor : String)
  | putPayload (payload : Payload) (ctx : PayloadStoreContext)
  | resolveLookup (connection : Connection) (table key : String)
  | getOrder (connection : Connection) (orderGid : String)
  | tagOrder (connection : Connection) (orderGid : String) (tags : List String)
  | listOrdersUpdatedSince (connection : Connection) (since : String) (limit : ℕ)
  | upsertByExternalId (args : UpsertArgs)
  | findByExternalId (args : FindArgs)
  | getCustomerAddressbook (args : AddressbookArgs)
  | resolveItemId (nsAccountId sku : String)
  | getSecret (ref : String)
  | putEnvelope (blobName : String) (payload : WebhookEnvelopePayload)
  | getDailyOrderAggregate (connection : Connection) (fromInclusive toExclusive : String)
  | listSyncLog (filter : OrderSyncLogListFilter)
  | upsertSnapshot (input : ReconciliationSnapshotInput)

namespace Call

/-- What a call returns when it succeeds; `Unit` where the caller ignores the result. -/
@[reducible] def Ret : Call → Type
  | findConnection .. => Option Connection
  | findByShopDomain .. => Option Connection
  | listEnabled .. => List Connection
  | lookupXref .. => Option XrefRow
  | claim .. => ClaimResult
  | recordSuccess .. => XrefRow
  | recordFailure .. => XrefRow
  | markIgnored .. => XrefRow
  | deleteXref .. => Option XrefRow
  | recordError .. => Unit
  | upsertSyncLog .. => Unit
  | recordAttempt .. => Unit
  | enqueue .. => Unit
  | getWatermark .. => Option SyncWatermarkRow
  | setWatermark .. => Unit
  | putPayload .. => String
  | resolveLookup .. => Option String
  | getOrder .. => ShopifyOrder
  | tagOrder .. => List String
  | listOrdersUpdatedSince .. => List OrderSummary
  | upsertByExternalId .. => UpsertResult
  | findByExternalId .. => Option Js.Fields
  | getCustomerAddressbook .. => List CustomerAddressbookEntry
  | resolveItemId .. => Option String
  | getSecret .. => String
  | putEnvelope .. => Unit
  | getDailyOrderAggregate .. => OrderDailyAggregate
  | listSyncLog .. => List OrderSyncLog
  | upsertSnapshot .. => ReconciliationSnapshot

/-- Calls to the stores that the deliveries of orders share, as opposed to Shopify, NetSuite,
the lookup tables, the archives, the secrets and what the reconciliation reads and writes. -/
def isStore : Call → Bool
  | findConnection .. | findByShopDomain .. | listEnabled .. | lookupXref .. | claim .. | recordSuccess ..
  | recordFailure .. | markIgnored .. | deleteXref .. | recordError .. | upsertSyncLog ..
  | recordAttempt .. | enqueue .. | getWatermark .. | setWatermark .. => true
  | putPayload .. | resolveLookup .. | getOrder .. | tagOrder .. | listOrdersUpdatedSince ..
  | upsertByExternalId .. | findByExternalId .. | getCustomerAddressbook ..
  | resolveItemId .. | getSecret .. | putEnvelope .. | getDailyOrderAggregate .. | listSyncLog ..
  | upsertSnapshot .. => false

end Call

/-- An operation: a call, a reading of the clock, or a metric. -/
inductive Op
  | io (c : Call)
  | clock
  | track (metric : Metric)

/-- The response to an operation. -/
@[reducible] def Op.Resp : Op → Type
  | .io c => Except Thrown c.Ret
  | .clock => ℤ
  | .track _ => Unit

instance (o : Op) : Nonempty o.Resp :=
  match o with
  | .io _ => ⟨.error .undefined⟩
  | .clock => ⟨(0 : ℤ)⟩
  | .track _ => ⟨()⟩

/-- An operation with its response. -/
abbrev Ev := Event Op Op.Resp

/-- Asynchronous functions. -/
abbrev Async := Throwing Thrown Op Op.Resp

namespace Async

/-- `await` a call: its result, or its thrown value. -/
def io (c : Call) : Async c.Ret := ExceptT.mk (Prog.perform (Op.io c))

/-- `new Date()`. -/
def now : Async ℤ := Throwing.observe Op.clock

/-- Track a metric. -/
def track (metric : Metric) : Async Unit := Throwing.observe (Op.track metric)

/-- The promise of a call, with every failure turned into `undefined`. -/
def quietly (c : Call) : Async (Option c.Ret) :=
  tryCatch (do return some (← io c)) fun _ => return none

/-- A computation that awaits nothing, but may throw. -/
def ofExcept {α : Type} (x : Except Thrown α) : Async α := ExceptT.mk (.ret x)

end Async

section

variable {α : Type} {tr : List Ev}

/-- A call that was answered. -/
abbrev answered (c : Call) (res : Except Thrown c.Ret) : Ev := ⟨Op.io c, res⟩

@[simp] theorem settles_io {c : Call} {res : Except Thrown c.Ret} :
    Settles (Async.io c) tr res ↔ tr = [answered c res] := by
  change Runs (Prog.perform (Op.io c)) tr res ↔ _
  exact runs_perform

@[simp] theorem settles_now {res : Except Thrown ℤ} :
    Settles Async.now tr res ↔ ∃ t : ℤ, tr = [⟨Op.clock, t⟩] ∧ res = .ok t :=
  settles_observe

@[simp] theorem settles_track {metric : Metric} {res : Except Thrown Unit} :
    Settles (Async.track metric) tr res ↔ tr = [⟨Op.track metric, ()⟩] ∧ res = .ok () := by
  refine settles_observe.trans ⟨?_, ?_⟩
  · intro h
    obtain ⟨_, htr, hres⟩ := h
    exact ⟨htr, hres⟩
  · intro h
    exact ⟨(), h⟩

@[simp] theorem settles_ofExcept {x res : Except Thrown α} :
    Settles (Async.ofExcept x) tr res ↔ tr = [] ∧ res = x := runs_ret

theorem issues_io {kind : Ev → Prop} {c : Call} (h : ∀ r, kind (answered c r)) :
    Issues kind (Async.io c) := by
  intro tr res hs ev hev
  obtain rfl := settles_io.mp hs
  obtain rfl := List.mem_singleton.mp hev
  exact h res

theorem issues_ofExcept {kind : Ev → Prop} (x : Except Thrown α) :
    Issues kind (Async.ofExcept x) := by
  intro tr res hs ev hev
  obtain ⟨rfl, _⟩ := settles_ofExcept.mp hs
  cases hev

theorem issues_quietly {kind : Ev → Prop} {c : Call} (h : ∀ r, kind (answered c r)) :
    Issues kind (Async.quietly c) :=
  .tryCatch (.bind (issues_io h) fun _ => .pure _) fun _ => .pure _

/-- A quiet call is answered and never throws. -/
theorem settles_quietly {c : Call} {res : Except Thrown (Option c.Ret)} :
    Settles (Async.quietly c) tr res ↔
      ∃ r, tr = [answered c r] ∧ res = .ok (r.toOption) := by
  unfold Async.quietly
  rw [settles_tryCatch]
  simp only [settles_bind, settles_io, settles_pure]
  constructor
  · rintro (⟨a, rfl, ⟨e, he, _⟩ | ⟨r, t₁, t₂, rfl, rfl, rfl, ha⟩⟩ |
      ⟨e, t₁, t₂, rfl, ⟨e', he', rfl⟩ | ⟨r, s₁, s₂, rfl, rfl, rfl, he⟩, rfl, rfl⟩)
    · cases he
    · cases ha
      exact ⟨.ok r, rfl, rfl⟩
    · cases he'
      exact ⟨.error e, rfl, rfl⟩
    · cases he
  · rintro ⟨e | r, rfl, rfl⟩
    · exact .inr ⟨e, _, [], rfl, .inl ⟨e, rfl, rfl⟩, rfl, rfl⟩
    · exact .inl ⟨some r, rfl, .inr ⟨r, _, [], rfl, rfl, rfl, rfl⟩⟩

end

section

variable {β : Type} {tr : List Ev} {res : Except Thrown β}

/-- What comes after a call: nothing if it failed. -/
theorem settles_io_bind {c : Call} {f : c.Ret → Async β} :
    Settles (Async.io c >>= f) tr res ↔
      (∃ e, tr = [answered c (.error e)] ∧ res = .error e) ∨
        ∃ v t, tr = answered c (.ok v) :: t ∧ Settles (f v) t res := by
  rw [settles_bind]
  refine or_congr ?_ ?_
  · simp only [settles_io, and_comm]
  · constructor
    · rintro ⟨v, t₁, t₂, rfl, hcall, hrest⟩
      obtain rfl := settles_io.mp hcall
      exact ⟨v, t₂, rfl, hrest⟩
    · rintro ⟨v, t, rfl, hrest⟩
      exact ⟨v, _, t, rfl, settles_io.mpr rfl, hrest⟩

/-- What comes after a quiet call knows whether it failed. -/
theorem settles_quietly_bind {c : Call} {f : Option c.Ret → Async β} :
    Settles (Async.quietly c >>= f) tr res ↔
      ∃ r t, tr = answered c r :: t ∧ Settles (f r.toOption) t res := by
  rw [settles_bind]
  constructor
  · rintro (⟨e, _, hcall⟩ | ⟨v, t₁, t₂, rfl, hcall, hrest⟩)
    · obtain ⟨_, _, herror⟩ := settles_quietly.mp hcall
      cases herror
    · obtain ⟨r, rfl, hv⟩ := settles_quietly.mp hcall
      cases hv
      exact ⟨r, t₂, rfl, hrest⟩
  · rintro ⟨r, t, rfl, hrest⟩
    exact .inr ⟨_, _, t, rfl, settles_quietly.mpr ⟨r, rfl, rfl⟩, hrest⟩

theorem settles_now_bind {f : ℤ → Async β} :
    Settles (Async.now >>= f) tr res ↔
      ∃ (now : ℤ) (t : List Ev), tr = ⟨Op.clock, now⟩ :: t ∧ Settles (f now) t res := by
  rw [settles_bind]
  constructor
  · rintro (⟨e, _, hclock⟩ | ⟨v, t₁, t₂, rfl, hclock, hrest⟩)
    · obtain ⟨_, _, herror⟩ := settles_now.mp hclock
      cases herror
    · obtain ⟨now, rfl, hv⟩ := settles_now.mp hclock
      cases hv
      exact ⟨_, t₂, rfl, hrest⟩
  · rintro ⟨now, t, rfl, hrest⟩
    exact .inr ⟨now, _, t, rfl, settles_now.mpr ⟨now, rfl, rfl⟩, hrest⟩

end

end DpIntegrator
