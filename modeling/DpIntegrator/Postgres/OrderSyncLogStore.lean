import DpIntegrator.Sql.Table
import DpIntegrator.Core.OrderSyncLog

/-!
# The Postgres ledger

The table `order_sync_log`, with one row for each order of a connection, and the
operations of the store on it. The conflict rule of every column is the one of the `SET`
clause: most columns are overwritten, some are kept where the new value is absent.
`decimal` is what a `DECIMAL(18,4)` column gives back for a text that is written to it.
-/

namespace DpIntegrator

open Effects Sql

/-- What the database supplies to a statement: the time, and the next serial number. -/
structure Moment where
  now : ℤ
  serial : ℕ

structure OrderSyncLogDb where
  id : ℕ
  environment : Environment
  connectionId : String
  shopifyOrderGid : String
  shopifyOrderId : String
  shopifyOrderName : Option String
  shopifyCreatedAt : Option ℤ
  shopifyProcessedAt : Option ℤ
  shopifyUpdatedAt : Option ℤ
  customerEmail : Option String
  currencyCode : Option String
  totalPrice : Option String
  subtotalPrice : Option String
  totalTax : Option String
  totalDiscounts : Option String
  totalShipping : Option String
  status : OrderSyncLogStatus
  nsAccountId : Option String
  nsRecordType : Option String
  nsInternalId : Option String
  nsTranId : Option String
  parkStage : Option String
  parkDetail : Option String
  parkErrorClass : Option String
  ignoredReason : Option String
  syncedAt : Option ℤ
  createdAt : ℤ
  updatedAt : ℤ
  attemptCount : ℕ
  lastDeliveryCount : Option ℕ
  lastOutboundPayloadUri : Option String
  lastInboundEnvelopeUri : Option String
  deriving DecidableEq, Repr

/-- The table `order_sync_log`. -/
abbrev LedgerTable := Table OrderKey OrderSyncLogDb

/-- Queries on `order_sync_log`. -/
abbrev LedgerQuery := Query Thrown Moment OrderKey OrderSyncLogDb

/-- `toRow`: columns that are null become absent. -/
def OrderSyncLogDb.toRow (row : OrderSyncLogDb) : OrderSyncLog where
  id := toString row.id
  environment := row.environment
  connectionId := row.connectionId
  shopifyOrderGid := row.shopifyOrderGid
  shopifyOrderId := row.shopifyOrderId
  shopifyOrderName := row.shopifyOrderName
  shopifyCreatedAt := row.shopifyCreatedAt.map some
  shopifyProcessedAt := row.shopifyProcessedAt.map some
  shopifyUpdatedAt := row.shopifyUpdatedAt.map some
  customerEmail := row.customerEmail
  currencyCode := row.currencyCode
  totalPrice := row.totalPrice
  subtotalPrice := row.subtotalPrice
  totalTax := row.totalTax
  totalDiscounts := row.totalDiscounts
  totalShipping := row.totalShipping
  status := row.status
  nsAccountId := row.nsAccountId
  nsRecordType := row.nsRecordType
  nsInternalId := row.nsInternalId
  nsTranId := row.nsTranId
  parkStage := row.parkStage
  parkDetail := row.parkDetail
  parkErrorClass := row.parkErrorClass
  ignoredReason := row.ignoredReason
  syncedAt := row.syncedAt
  attemptCount := some row.attemptCount
  lastDeliveryCount := row.lastDeliveryCount
  lastOutboundPayloadUri := row.lastOutboundPayloadUri
  lastInboundEnvelopeUri := row.lastInboundEnvelopeUri
  createdAt := row.createdAt
  updatedAt := row.updatedAt

namespace PostgresOrderSyncLogStore

/-- The row that `VALUES` proposes; on a conflict it is `EXCLUDED`. Dates that are no dates
do not fit their columns. -/
def insertedRow (decimal : String → String) (input : OrderSyncLogInput) (m : Moment) :
    OrderSyncLogDb where
  id := m.serial
  environment := input.environment
  connectionId := input.connectionId
  shopifyOrderGid := input.shopifyOrderGid
  shopifyOrderId := input.shopifyOrderId
  shopifyOrderName := input.shopifyOrderName
  shopifyCreatedAt := input.shopifyCreatedAt.join
  shopifyProcessedAt := input.shopifyProcessedAt.join
  shopifyUpdatedAt := input.shopifyUpdatedAt.join
  customerEmail := input.customerEmail
  currencyCode := input.currencyCode
  totalPrice := input.totalPrice.map decimal
  subtotalPrice := input.subtotalPrice.map decimal
  totalTax := input.totalTax.map decimal
  totalDiscounts := input.totalDiscounts.map decimal
  totalShipping := input.totalShipping.map decimal
  status := input.status
  nsAccountId := input.nsAccountId
  nsRecordType := input.nsRecordType
  nsInternalId := input.nsInternalId
  nsTranId := input.nsTranId
  parkStage := input.parkStage
  parkDetail := input.parkDetail
  parkErrorClass := input.parkErrorClass
  ignoredReason := input.ignoredReason
  syncedAt := input.syncedAt
  createdAt := m.now
  updatedAt := m.now
  attemptCount := input.attemptCount.getD 0
  lastDeliveryCount := input.lastDeliveryCount
  lastOutboundPayloadUri := input.lastOutboundPayloadUri
  lastInboundEnvelopeUri := input.lastInboundEnvelopeUri

/-- The `SET` clause: `row` is the row that is there. -/
def conflictRow (excluded row : OrderSyncLogDb) (m : Moment) : OrderSyncLogDb :=
  { row with
    shopifyOrderId := excluded.shopifyOrderId
    shopifyOrderName := excluded.shopifyOrderName
    shopifyCreatedAt := excluded.shopifyCreatedAt
    shopifyProcessedAt := excluded.shopifyProcessedAt
    shopifyUpdatedAt := excluded.shopifyUpdatedAt
    customerEmail := excluded.customerEmail
    currencyCode := excluded.currencyCode
    totalPrice := excluded.totalPrice
    subtotalPrice := excluded.subtotalPrice
    totalTax := excluded.totalTax
    totalDiscounts := excluded.totalDiscounts
    totalShipping := excluded.totalShipping
    status := excluded.status
    nsAccountId := excluded.nsAccountId
    nsRecordType := excluded.nsRecordType
    nsInternalId := excluded.nsInternalId
    nsTranId := excluded.nsTranId.or row.nsTranId
    parkStage := excluded.parkStage
    parkDetail := excluded.parkDetail
    parkErrorClass := excluded.parkErrorClass
    ignoredReason := excluded.ignoredReason
    syncedAt := excluded.syncedAt.or row.syncedAt
    attemptCount := max row.attemptCount excluded.attemptCount
    lastDeliveryCount := excluded.lastDeliveryCount.or row.lastDeliveryCount
    lastOutboundPayloadUri := excluded.lastOutboundPayloadUri.or row.lastOutboundPayloadUri
    lastInboundEnvelopeUri := excluded.lastInboundEnvelopeUri.or row.lastInboundEnvelopeUri
    updatedAt := m.now }

def upsert (decimal : String → String) (input : OrderSyncLogInput) : LedgerQuery OrderSyncLog := do
  let rows ← query input.orderKey (.upsert (insertedRow decimal input) fun m row =>
    conflictRow (insertedRow decimal input m) row m)
  match rows.head? with
  | none => throw (newError "PostgresOrderSyncLogStore.upsert: returned no row")
  | some row => return row.toRow

def findByOrderGid (key : OrderKey) : LedgerQuery (Option OrderSyncLog) := do
  let rows ← query key .select
  return rows.head?.map OrderSyncLogDb.toRow

/-- The time by which a listing is ordered: `COALESCE(synced_at, updated_at)`. -/
def listedAt (row : OrderSyncLogDb) : ℤ := row.syncedAt.getD row.updatedAt

/-- The `WHERE` clause of `list`. -/
def keeps (filter : OrderSyncLogListFilter) (row : OrderSyncLogDb) : Bool :=
  filter.selects row.environment row.connectionId row.status

/-- The rows that `list` may return. -/
def Lists (t : LedgerTable) (filter : OrderSyncLogListFilter) (rows : List OrderSyncLog) : Prop :=
  ∃ found, rows = found.map OrderSyncLogDb.toRow ∧
    Selects t (keeps filter) listedAt (filter.limit.getD 50) found

/-- The row of an order after an upsert, from the row before it. -/
def written (decimal : String → String) (input : OrderSyncLogInput) (m : Moment) :
    Option OrderSyncLogDb → OrderSyncLogDb
  | none => insertedRow decimal input m
  | some row => conflictRow (insertedRow decimal input m) row m

/-- The order that a row of the table is about. -/
def orderKey (row : OrderSyncLogDb) : OrderKey where
  environment := row.environment
  connectionId := row.connectionId
  shopifyOrderGid := row.shopifyOrderGid

/-! ## What an upsert leaves -/

section Written

variable {decimal : String → String} {input : OrderSyncLogInput} {m : Moment}
  {old : Option OrderSyncLogDb}

theorem written_nsTranId :
    (written decimal input m old).nsTranId = input.nsTranId.or (old.bind (·.nsTranId)) := by
  cases old with
  | none => exact (Option.or_none ..).symm
  | some row => rfl

theorem written_syncedAt :
    (written decimal input m old).syncedAt = input.syncedAt.or (old.bind (·.syncedAt)) := by
  cases old with
  | none => exact (Option.or_none ..).symm
  | some row => rfl

theorem written_attemptCount : (written decimal input m old).attemptCount =
    max (old.elim 0 (·.attemptCount)) (input.attemptCount.getD 0) := by
  cases old with
  | none => exact (Nat.zero_max _).symm
  | some row => rfl

theorem written_lastDeliveryCount : (written decimal input m old).lastDeliveryCount =
    input.lastDeliveryCount.or (old.bind (·.lastDeliveryCount)) := by
  cases old with
  | none => exact (Option.or_none ..).symm
  | some row => rfl

theorem written_lastOutboundPayloadUri : (written decimal input m old).lastOutboundPayloadUri =
    input.lastOutboundPayloadUri.or (old.bind (·.lastOutboundPayloadUri)) := by
  cases old with
  | none => exact (Option.or_none ..).symm
  | some row => rfl

theorem written_lastInboundEnvelopeUri : (written decimal input m old).lastInboundEnvelopeUri =
    input.lastInboundEnvelopeUri.or (old.bind (·.lastInboundEnvelopeUri)) := by
  cases old with
  | none => exact (Option.or_none ..).symm
  | some row => rfl

theorem orderKey_written (h : ∀ row ∈ old, orderKey row = input.orderKey) :
    orderKey (written decimal input m old) = input.orderKey := by
  cases old with
  | none => rfl
  | some row => exact h row rfl

/-- The fields of a row that an upsert leaves: those of the input, where they are not kept
from the row before it. -/
theorem toRow_written (hkey : ∀ row ∈ old, orderKey row = input.orderKey) :
    (written decimal input m old).toRow.toOrderSyncLogInput =
      { input with
        shopifyCreatedAt := input.shopifyCreatedAt.join.map some
        shopifyProcessedAt := input.shopifyProcessedAt.join.map some
        shopifyUpdatedAt := input.shopifyUpdatedAt.join.map some
        totalPrice := input.totalPrice.map decimal
        subtotalPrice := input.subtotalPrice.map decimal
        totalTax := input.totalTax.map decimal
        totalDiscounts := input.totalDiscounts.map decimal
        totalShipping := input.totalShipping.map decimal
        nsTranId := input.nsTranId.or (old.bind (·.nsTranId))
        syncedAt := input.syncedAt.or (old.bind (·.syncedAt))
        attemptCount := some (max (old.elim 0 (·.attemptCount)) (input.attemptCount.getD 0))
        lastDeliveryCount := input.lastDeliveryCount.or (old.bind (·.lastDeliveryCount))
        lastOutboundPayloadUri :=
          input.lastOutboundPayloadUri.or (old.bind (·.lastOutboundPayloadUri))
        lastInboundEnvelopeUri :=
          input.lastInboundEnvelopeUri.or (old.bind (·.lastInboundEnvelopeUri)) } := by
  cases old with
  | none => simp [written, insertedRow, OrderSyncLogDb.toRow]
  | some row =>
    have hrow := hkey row rfl
    simp only [orderKey, OrderSyncLogInput.orderKey, OrderKey.mk.injEq] at hrow
    simp [written, insertedRow, conflictRow, OrderSyncLogDb.toRow, hrow]

end Written

section Exec

variable {decimal : String → String} {input : OrderSyncLogInput} {t t' : LedgerTable}
  {tr : List (Event (Statement Moment OrderKey OrderSyncLogDb) fun _ => List OrderSyncLogDb)}

/-- An upsert writes the row of its order and never throws. -/
theorem upsert_exec {res : Except Thrown OrderSyncLog}
    (h : Exec Sql.Step (upsert decimal input).run t tr res t') :
    ∃ m, res = .ok (written decimal input m (t input.orderKey)).toRow ∧
      t' = Function.update t input.orderKey (some (written decimal input m (t input.orderKey))) := by
  obtain ⟨m, tr', h⟩ := exec_query h
  cases hrow : t input.orderKey with
  | none | some row =>
    rw [hrow] at h
    obtain ⟨rfl, rfl⟩ := exec_pure h
    exact ⟨m, rfl, rfl⟩

/-- At any moment an upsert can run. -/
theorem exists_exec_upsert (decimal : String → String) (input : OrderSyncLogInput) (t : LedgerTable)
    (m : Moment) : ∃ res tr, Exec Sql.Step (upsert decimal input).run t tr res
      (Function.update t input.orderKey (some (written decimal input m (t input.orderKey)))) := by
  refine ⟨.ok (written decimal input m (t input.orderKey)).toRow, exists_exec_query m ?_⟩
  cases t input.orderKey with
  | none | some old => exact exists_exec_pure

theorem exists_exec_findByOrderGid (key : OrderKey) (t : LedgerTable) (m : Moment) :
    ∃ tr, Exec Sql.Step (findByOrderGid key).run t tr (.ok ((t key).map OrderSyncLogDb.toRow)) t := by
  refine exists_exec_query m ?_
  cases hrow : t key with
  | none | some row =>
    simp only [Action.run]
    rw [← hrow, Function.update_eq_self, hrow]
    exact exists_exec_pure

theorem findByOrderGid_exec {key : OrderKey} {res : Except Thrown (Option OrderSyncLog)}
    (h : Exec Sql.Step (findByOrderGid key).run t tr res t') :
    res = .ok ((t key).map OrderSyncLogDb.toRow) ∧ t' = t := by
  obtain ⟨m, tr', h⟩ := exec_query h
  obtain ⟨rfl, rfl⟩ := exec_pure h
  cases hrow : t key with
  | none | some row => exact ⟨rfl, by rw [Action.run, ← hrow, Function.update_eq_self]⟩

end Exec

end PostgresOrderSyncLogStore

end DpIntegrator
