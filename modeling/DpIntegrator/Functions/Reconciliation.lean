import DpIntegrator.Effects.Loops
import DpIntegrator.Functions.CatchupPoller
import DpIntegrator.NetSuite.Balancing

/-!
# The daily reconciliation

Compares what Shopify counts for a day of a connection with what the ledger says was imported
on it, and keeps a snapshot of both. Differences beyond the tolerance are drift: they are
reported, and not retried.
-/

namespace DpIntegrator

open Effects

structure ReconciliationDeps where
  environment : Environment
  /-- Whether the stores are ready. -/
  orderSyncLog : Bool
  reconciliationStore : Bool
  telemetry : Bool
  /-- How the host reads dates that are not in the ISO format. -/
  hostDate : String → Option ℤ := fun _ => none

structure ReconciliationConfig where
  daysBack : ℕ := 1
  totalToleranceAmount : Js.Number := .fin (5 / 100)

structure ConnectionReconcileResult where
  connectionId : String
  businessDate : String
  snapshot : Option ReconciliationSnapshot
  drift : Bool
  /-- The connection was skipped as `not_ready`. -/
  skipped : Bool

def notReady (connectionId businessDate : String) : ConnectionReconcileResult :=
  ⟨connectionId, businessDate, none, false, true⟩

/-! ## The window of a day -/

/-- The day after a day; what is no date has no digits. -/
def nextUtcDay (host : String → Option ℤ) (businessDate : String) : String :=
  match Js.newDate host (businessDate ++ "T00:00:00Z") with
  | some midnight => Js.utcDay (midnight + 86400000)
  | none => "NaN-NaN-NaN"

def fromInclusive (businessDate : String) : String := businessDate ++ "T00:00:00Z"

def toExclusive (host : String → Option ℤ) (businessDate : String) : String :=
  nextUtcDay host businessDate ++ "T00:00:00Z"

/-- The ledger rows of a day; comparisons with an invalid date are false. -/
def ledgerForDay (host : String → Option ℤ) (businessDate : String)
    (allLedger : List OrderSyncLog) : List OrderSyncLog :=
  allLedger.filter fun row =>
    let t := row.syncedAt.getD row.updatedAt
    (Js.newDate host (fromInclusive businessDate)).any (fun start => start ≤ t) &&
      (Js.newDate host (toExclusive host businessDate)).any (fun stop => t < stop)

/-! ## Comparing -/

/-- The sum of the ledger totals that are finite numbers. -/
def nsTotalNum (ledger : List OrderSyncLog) : Js.Number :=
  ledger.foldl (fun total row =>
    let amt := Js.parseFloat (row.totalPrice.getD "0")
    if amt.isFinite then total + amt else total) 0

/-- The total at Shopify in the base currency of the connection. -/
def shopifyTotalNum (connection : Connection) (agg : OrderDailyAggregate) : Js.Number :=
  Js.parseFloat ((agg.totalsByCurrency.lookup connection.baseCurrency).getD "0")

/-- How the two sides of a day differ. -/
structure DayDiff where
  countDiff : ℤ
  totalDiff : Js.Number
  countDrifts : Bool
  totalDrifts : Bool

def DayDiff.drift (diff : DayDiff) : Bool := diff.totalDrifts || diff.countDrifts

def dayDiff (config : ReconciliationConfig) (connection : Connection) (agg : OrderDailyAggregate)
    (ledger : List OrderSyncLog) : DayDiff :=
  let countDiff := (agg.count : ℤ) - ledger.length
  let totalDiff := round2 (shopifyTotalNum connection agg - nsTotalNum ledger)
  { countDiff
    totalDiff
    countDrifts := countDiff ≠ 0
    totalDrifts := config.totalToleranceAmount.lt totalDiff.abs }

def DayDiff.discrepancy (diff : DayDiff) (config : ReconciliationConfig) : Option Js.Fields :=
  if diff.drift then
    some [("countDiff", .num (.fin diff.countDiff)), ("totalDiff", .str diff.totalDiff.toFixed2),
      ("toleranceAmount", .num config.totalToleranceAmount),
      ("reason", .str (
        if diff.countDrifts && diff.totalDrifts then "count_and_total_diff"
        else if diff.countDrifts then "count_diff"
        else "total_diff"))]
  else none

/-- The snapshot of a day of a connection. -/
def daySnapshot (deps : ReconciliationDeps) (config : ReconciliationConfig)
    (connection : Connection) (connectionId businessDate : String) (agg : OrderDailyAggregate)
    (ledger : List OrderSyncLog) : ReconciliationSnapshotInput where
  environment := deps.environment
  connectionId
  businessDate
  shopifyOrderCount := agg.count
  nsTxnCount := ledger.length
  shopifyTotal := (shopifyTotalNum connection agg).toFixed2
  nsTotal := (nsTotalNum ledger).toFixed2
  discrepancy := (dayDiff config connection agg ledger).discrepancy config

/-! ## The sweep -/

/-- Reconcile one day of a connection that was found. -/
def reconcileDay (deps : ReconciliationDeps) (config : ReconciliationConfig)
    (connection : Connection) (connectionId businessDate : String) :
    Async ConnectionReconcileResult := do
  let agg ← Async.io (.getDailyOrderAggregate connection (fromInclusive businessDate)
    (toExclusive deps.hostDate businessDate))
  let allLedger ← Async.io (.listSyncLog
    { environment := deps.environment, connectionId := some connectionId, status := some .imported
      limit := some 10000 })
  let ledger := ledgerForDay deps.hostDate businessDate allLedger
  let diff := dayDiff config connection agg ledger
  let snapshot ← Async.io
    (.upsertSnapshot (daySnapshot deps config connection connectionId businessDate agg ledger))
  if diff.drift && deps.telemetry then
    Async.track (.reconciliationDrift deps.environment connectionId businessDate diff.countDiff
      diff.totalDiff.toFixed2)
  return ⟨connectionId, businessDate, some snapshot, diff.drift, false⟩

def reconcileOneDay (deps : ReconciliationDeps) (config : ReconciliationConfig)
    (connectionId businessDate : String) : Async ConnectionReconcileResult := do
  if !deps.orderSyncLog || !deps.reconciliationStore then
    return notReady connectionId businessDate
  else
    match ← Async.io (.findConnection deps.environment connectionId) with
    | none => return notReady connectionId businessDate
    | some connection =>
      if connection.enabled then
        reconcileDay deps config connection connectionId businessDate
      else return notReady connectionId businessDate

/-- The days that are reconciled at the time `now`, the latest first. -/
def businessDates (config : ReconciliationConfig) (now : ℤ) : List String :=
  (List.range config.daysBack).map fun i => Js.utcDay (now - (i + 1 : ℕ) * 86400000)

/-- Reconcile the days of one connection. -/
def reconcileConnection (deps : ReconciliationDeps) (config : ReconciliationConfig) (now : ℤ)
    (connection : Connection) : Async (List ConnectionReconcileResult) :=
  (businessDates config now).mapM fun businessDate =>
    reconcileOneDay deps config connection.connectionId businessDate

/-- Sweep across every enabled connection and every day in the lookback window. -/
def runReconciliation (deps : ReconciliationDeps) (config : ReconciliationConfig) :
    Async (List ConnectionReconcileResult) := do
  let now ← Async.now
  let enabledConnections ← Async.io (.listEnabled deps.environment)
  let results ← enabledConnections.mapM fun connection =>
    reconcileConnection deps config now connection
  return results.flatten

end DpIntegrator
