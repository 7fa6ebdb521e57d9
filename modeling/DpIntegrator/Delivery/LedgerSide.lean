import DpIntegrator.Delivery.FalseAlarms
import DpIntegrator.Js.Calendar
import DpIntegrator.Postgres.LedgerAgreement
import DpIntegrator.Shopify.WholeDay

/-!
# The ledger side of a reconciliation

A reconciliation takes the imports of its day from a listing of at most ten thousand imports of the
connection, the newest first. It counts all of the day's imports if those of later days leave them
room in the listing.
-/

namespace DpIntegrator

open Effects

/-! ## The ledger of either store -/

/-- The ledger in memory or in Postgres. -/
inductive LedgerStore
  | memory (store : InMemoryOrderSyncLogStore)
  | postgres (table : LedgerTable)

namespace LedgerStore

/-- What `list` may return. -/
def Lists : LedgerStore → OrderSyncLogListFilter → List OrderSyncLog → Prop
  | memory store, filter, rows => rows = store.list filter
  | postgres table, filter, rows => PostgresOrderSyncLogStore.Lists table filter rows

/-- `rows` are the rows of the ledger that satisfy `p`, each of them once. -/
def Enumerates : LedgerStore → (OrderSyncLog → Bool) → List OrderSyncLog → Prop
  | memory store, p, rows => rows.Perm (store.rows.values.filter p)
  | postgres table, p, rows => ∃ found, rows = found.map OrderSyncLogDb.toRow ∧
      Sql.Enumerates table (fun row => p row.toRow) found

theorem enumerates_memory {store : InMemoryOrderSyncLogStore} {p : OrderSyncLog → Bool}
    {rows : List OrderSyncLog} :
    (memory store).Enumerates p rows ↔ rows.Perm (store.rows.values.filter p) := Iff.rfl

end LedgerStore

/-- Whether a ledger row is an import of a connection. -/
def OrderSyncLog.importOf (environment : Environment) (connectionId : String) (row : OrderSyncLog) :
    Bool :=
  row.environment = environment && row.connectionId = connectionId && row.status = .imported

/-- Whether a ledger row was synced on a day, counted from 1970. -/
def OrderSyncLog.syncedOn (day : ℤ) (row : OrderSyncLog) : Bool :=
  day * 86400000 ≤ row.listedAt && row.listedAt < (day + 1) * 86400000

/-- Whether a ledger row was synced after a day. -/
def OrderSyncLog.syncedAfter (day : ℤ) (row : OrderSyncLog) : Bool :=
  (day + 1) * 86400000 ≤ row.listedAt

section

variable {environment : Environment} {connectionId : String} {day : ℤ} {store : LedgerStore}
  {rows dayRows laterRows : List OrderSyncLog}

/-- The listing of the imports of a connection. -/
def importsFilter (environment : Environment) (connectionId : String) : OrderSyncLogListFilter where
  environment
  connectionId := some connectionId
  status := some .imported
  limit := some 10000

theorem importsFilter_selects (hid : connectionId ≠ "") (row : OrderSyncLog) :
    (importsFilter environment connectionId).selects row.environment row.connectionId row.status =
      row.importOf environment connectionId := by
  have hfilter : (some connectionId).filter (fun id => decide (id ≠ "")) = some connectionId := by
    simp [Option.filter, hid]
  unfold OrderSyncLogListFilter.selects importsFilter
  dsimp only
  rw [hfilter]
  rfl

/-- What a listing shows of a day: as many of its imports as fit after the later ones. -/
theorem LedgerStore.lists_day (hid : connectionId ≠ "")
    (h : store.Lists (importsFilter environment connectionId) rows)
    (hday : store.Enumerates
      (fun row => row.importOf environment connectionId && row.syncedOn day) dayRows)
    (hlater : store.Enumerates
      (fun row => row.importOf environment connectionId && row.syncedAfter day) laterRows) :
    ∃ window : List OrderSyncLog, window.Perm dayRows ∧
      rows.filter (OrderSyncLog.syncedOn day) = window.take (10000 - laterRows.length) := by
  cases store with
  | memory store =>
    have hrows : rows = (store.sorted (importsFilter environment connectionId)).take 10000 := h
    have hperm : (store.sorted (importsFilter environment connectionId)).Perm
        (store.rows.values.filter (OrderSyncLog.importOf environment connectionId)) := by
      refine (List.mergeSort_perm ..).trans (List.Perm.of_eq ?_)
      exact List.filter_congr fun row _ => importsFilter_selects hid row
    have hselected (p : OrderSyncLog → Bool) :
        ((store.sorted (importsFilter environment connectionId)).filter p).Perm
          (store.rows.values.filter fun row => row.importOf environment connectionId && p row) := by
      refine (hperm.filter p).trans (List.Perm.of_eq ?_)
      rw [List.filter_filter]
      exact List.filter_congr fun row _ => Bool.and_comm ..
    refine ⟨_, (hselected (OrderSyncLog.syncedOn day)).trans hday.symm, ?_⟩
    rw [hrows, ← ((hselected (OrderSyncLog.syncedAfter day)).trans hlater.symm).length_eq]
    exact Sql.filter_take_of_window InMemoryOrderSyncLogStore.sorted_pairwise 10000
  | postgres table =>
    obtain ⟨found, rfl, hselects⟩ := h
    obtain ⟨inside, rfl, hinside⟩ := hday
    obtain ⟨later, rfl, hafter⟩ := hlater
    have hkeeps (row : OrderSyncLogDb) :
        PostgresOrderSyncLogStore.keeps (importsFilter environment connectionId) row =
          row.toRow.importOf environment connectionId := importsFilter_selects hid row.toRow
    have hkept : PostgresOrderSyncLogStore.keeps (importsFilter environment connectionId) =
        fun row => row.toRow.importOf environment connectionId := funext hkeeps
    rw [hkept] at hselects
    obtain ⟨window, hperm, hwindow⟩ := hselects.window hinside hafter
    refine ⟨window.map OrderSyncLogDb.toRow, hperm.map _, ?_⟩
    have hshown : found.filter (OrderSyncLog.syncedOn day ∘ OrderSyncLogDb.toRow) =
        window.take (10000 - later.length) := hwindow
    rw [List.filter_map, List.length_map, ← List.map_take, hshown]

/-! ## What is stored -/

variable {deps : ReconciliationDeps} {config : ReconciliationConfig} {tr : List Ev}
  {res : Except Thrown ConnectionReconcileResult} {input : ReconciliationSnapshotInput}
  {r : Except Thrown ReconciliationSnapshot}

/-- The window of a day's date is the day. -/
theorem ledgerForDay_utcDay (host : String → Option ℤ) (hyear : Js.FourDigitYear day)
    (hnext : Js.FourDigitYear (day + 1)) (rows : List OrderSyncLog) :
    ledgerForDay host (Js.utcDay (day * 86400000)) rows = rows.filter (OrderSyncLog.syncedOn day) := by
  have hstart := Js.newDate_utcDay host hyear
  have hstop := Js.newDate_utcDay host hnext
  have hmidnight : day * 86400000 + 86400000 = (day + 1) * 86400000 := by omega
  have htext : toExclusive host (Js.utcDay (day * 86400000)) =
      Js.utcDay ((day + 1) * 86400000) ++ "T00:00:00Z" := by
    unfold toExclusive nextUtcDay
    rw [hstart, ← hmidnight]
  unfold ledgerForDay fromInclusive
  rw [htext, hstart, hstop]
  rfl

/-- What a reconciliation stores about the ledger comes from a listing of the imports. -/
theorem reconcileOneDay_stores {businessDate : String}
    (h : Settles (reconcileOneDay deps config connectionId businessDate) tr res)
    (hstored : answered (.upsertSnapshot input) r ∈ tr) : ∃ rows,
      answered (.listSyncLog (importsFilter deps.environment connectionId)) (.ok rows) ∈ tr ∧
      input.nsTxnCount = (ledgerForDay deps.hostDate businessDate rows).length ∧
      input.nsTotal = (nsTotalNum (ledgerForDay deps.hostDate businessDate rows)).toFixed2 := by
  cases dayRun_of_settles h with
  | notReady | failed | skipped => simp at hstored
  | @found connection t _ h =>
    have hmem : answered (.upsertSnapshot input) r ∈ t := by simpa using hstored
    unfold reconcileDay at h
    obtain ⟨e, rfl, hagg⟩ | ⟨agg, t₁, t₂, rfl, hagg, hlist⟩ := settles_bind.mp h
    · obtain rfl := settles_io.mp hagg
      simp at hmem
    obtain rfl := settles_io.mp hagg
    obtain ⟨e, rfl, hrows⟩ | ⟨rows, t₃, t₄, rfl, hrows, hstore⟩ := settles_bind.mp hlist
    · obtain rfl := settles_io.mp hrows
      simp at hmem
    obtain rfl := settles_io.mp hrows
    set snapshotInput := daySnapshot deps config connection connectionId businessDate agg
      (ledgerForDay deps.hostDate businessDate rows) with hsnapshotInput
    have hinput : input = snapshotInput := by
      obtain ⟨e, rfl, hsnapshot⟩ | ⟨snapshot, t₅, t₆, rfl, hsnapshot, hreport⟩ := settles_bind.mp hstore
      · obtain rfl := settles_io.mp hsnapshot
        have hmem : input = snapshotInput ∧ r = .error e := by simpa using hmem
        exact hmem.1
      · obtain rfl := settles_io.mp hsnapshot
        have hquiet : answered (.upsertSnapshot input) r ∉ t₆ := by
          dsimp only at hreport
          split at hreport
          · obtain ⟨e, _, hfailed⟩ | ⟨_, t₇, t₈, rfl, htrack, hreturned⟩ := settles_bind.mp hreport
            · obtain ⟨_, hok⟩ := settles_track.mp hfailed
              cases hok
            · obtain ⟨rfl, _⟩ := settles_track.mp htrack
              obtain ⟨rfl, _⟩ := settles_pure.mp hreturned
              simp
          · obtain ⟨rfl, _⟩ := settles_pure.mp hreport
            simp
        have hmem : input = snapshotInput ∧ r = .ok snapshot := by simpa [hquiet] using hmem
        exact hmem.1
    refine ⟨rows, by simp [importsFilter], ?_, ?_⟩
    · rw [hinput]
      rfl
    · rw [hinput]
      rfl

/-- The amount of a ledger row; an absent total is 0. -/
def OrderSyncLog.amount (row : OrderSyncLog) : ℚ := amountOf (row.totalPrice.getD "0")

/-- The ledger side of a snapshot: as many imports of the day as fit after the later ones. -/
theorem stored_window (hid : connectionId ≠ "") (hyear : Js.FourDigitYear day)
    (hnext : Js.FourDigitYear (day + 1))
    (h : Settles (reconcileOneDay deps config connectionId (Js.utcDay (day * 86400000))) tr res)
    (hlisted : ∀ filter rows, answered (.listSyncLog filter) (.ok rows) ∈ tr → store.Lists filter rows)
    (hstored : answered (.upsertSnapshot input) r ∈ tr)
    (hday : store.Enumerates
      (fun row => row.importOf deps.environment connectionId && row.syncedOn day) dayRows)
    (hlater : store.Enumerates
      (fun row => row.importOf deps.environment connectionId && row.syncedAfter day) laterRows) :
    ∃ window : List OrderSyncLog, window.Perm dayRows ∧
      input.nsTxnCount = (window.take (10000 - laterRows.length)).length ∧
      input.nsTotal = (Js.Number.fin
        ((window.take (10000 - laterRows.length)).map OrderSyncLog.amount).sum).toFixed2 := by
  obtain ⟨rows, hrows, hcount, htotal⟩ := reconcileOneDay_stores h hstored
  obtain ⟨window, hperm, hwindow⟩ := LedgerStore.lists_day hid (hlisted _ _ hrows) hday hlater
  rw [ledgerForDay_utcDay deps.hostDate hyear hnext, hwindow] at hcount htotal
  rw [nsTotalNum_eq] at htotal
  exact ⟨window, hperm, hcount, htotal⟩

end

/-! ## A ledger with one import on a day and others after it -/

namespace Shop

/-- The import of a numbered order of the shop. -/
def importedAt (i : ℕ) (syncedAt : ℤ) : OrderSyncLog :=
  { importedOrder with
    environment := .dev
    connectionId := "conn-a"
    shopifyOrderGid := (numbered i).id
    shopifyOrderId := toString i
    totalPrice := some "10.00"
    syncedAt := some syncedAt
    id := "log_" ++ toString i
    createdAt := syncedAt
    updatedAt := syncedAt }

/-- One import on the fifth of January 2026, and every other one on the day after it. -/
def importedRow : ℕ → OrderSyncLog
  | 0 => importedAt 0 promptly
  | i + 1 => importedAt (i + 1) afterMidnight

theorem importedRow_key (i : ℕ) :
    (importedRow i).key = OrderKey.text ⟨.dev, "conn-a", (numbered i).id⟩ := by
  cases i <;> rfl

/-- The ledger in memory with an import on the fifth and `later` imports after it. -/
def ledgerWith (later : ℕ) : InMemoryOrderSyncLogStore where
  rows :=
    { entries := (List.range (later + 1)).map fun i => ((importedRow i).key, importedRow i)
      distinct := by
        rw [List.map_map]
        refine List.Nodup.map (fun i j h => ?_) List.nodup_range
        have hkey : (importedRow i).key = (importedRow j).key := h
        rw [importedRow_key, importedRow_key] at hkey
        exact numbered_inj (OrderKey.gid_eq_of_text hkey) }
  seq := later + 1

theorem ledgerWith_values (later : ℕ) : (ledgerWith later).rows.values =
    importedRow 0 :: (List.range later).map fun i => importedRow (i + 1) := by
  unfold ledgerWith Js.Map.values
  rw [List.map_map, List.range_succ_eq_map, List.map_cons, List.map_map]
  rfl

/-- The fifth of January 2026, counted in days. -/
def fifthDay : ℤ := 20458

theorem fourDigitYear_fifthDay : Js.FourDigitYear fifthDay ∧ Js.FourDigitYear (fifthDay + 1) := by
  unfold Js.FourDigitYear
  decide +kernel

theorem ledgerWith_day (later : ℕ) : (LedgerStore.memory (ledgerWith later)).Enumerates
    (fun row => row.importOf .dev "conn-a" && row.syncedOn fifthDay) [importedRow 0] := by
  have hnone : ((List.range later).map fun i => importedRow (i + 1)).filter
      (fun row => row.importOf .dev "conn-a" && row.syncedOn fifthDay) = [] := by
    apply List.filter_eq_nil_iff.mpr
    intro row hrow
    obtain ⟨i, _, rfl⟩ := List.mem_map.mp hrow
    exact Bool.false_ne_true
  rw [LedgerStore.enumerates_memory, ledgerWith_values, List.filter_cons_of_pos (by decide), hnone]

theorem ledgerWith_later (later : ℕ) : (LedgerStore.memory (ledgerWith later)).Enumerates
    (fun row => row.importOf .dev "conn-a" && row.syncedAfter fifthDay)
    ((List.range later).map fun i => importedRow (i + 1)) := by
  have hall : ((List.range later).map fun i => importedRow (i + 1)).filter
      (fun row => row.importOf .dev "conn-a" && row.syncedAfter fifthDay) =
        (List.range later).map fun i => importedRow (i + 1) := by
    apply List.filter_eq_self.mpr
    intro row hrow
    obtain ⟨i, _, rfl⟩ := List.mem_map.mp hrow
    rfl
  rw [LedgerStore.enumerates_memory, ledgerWith_values, List.filter_cons_of_neg (by decide), hall]

/-- The reconciliation of the shop, without telemetry. -/
def silentDeps : ReconciliationDeps := { reconciliationDeps with telemetry := false }

/-- A reconciliation of the shop whose listing is answered from a ledger. -/
theorem exists_stored (store : InMemoryOrderSyncLogStore) (businessDate : String) :
    ∃ tr res input r, Settles (reconcileOneDay silentDeps {} "conn-a" businessDate) tr res ∧
      (∀ filter rows, answered (.listSyncLog filter) (.ok rows) ∈ tr →
        (LedgerStore.memory store).Lists filter rows) ∧
      answered (.upsertSnapshot input) r ∈ tr := by
  let rows := store.list (importsFilter .dev "conn-a")
  let agg : OrderDailyAggregate := ⟨0, []⟩
  let input := daySnapshot silentDeps {} connection "conn-a" businessDate agg
    (ledgerForDay silentDeps.hostDate businessDate rows)
  let snapshot : ReconciliationSnapshot := { input with createdAt := 0 }
  let tr := [answered (.findConnection .dev "conn-a") (.ok (some connection)),
    answered (.getDailyOrderAggregate connection (fromInclusive businessDate)
      (toExclusive silentDeps.hostDate businessDate)) (.ok agg),
    answered (.listSyncLog (importsFilter .dev "conn-a")) (.ok rows),
    answered (.upsertSnapshot input) (.ok snapshot)]
  have hreport : Settles (reconcileOneDay silentDeps {} "conn-a" businessDate) tr
      (.ok ⟨"conn-a", businessDate, some snapshot, (dayDiff {} connection agg
        (ledgerForDay silentDeps.hostDate businessDate rows)).drift, false⟩) := by
    refine settles_bind_ok.mpr ⟨some connection, [_], tr.tail, rfl, settles_io.mpr rfl, ?_⟩
    refine settles_bind_ok.mpr ⟨agg, [_], tr.tail.tail, rfl, settles_io.mpr rfl, ?_⟩
    refine settles_bind_ok.mpr ⟨rows, [_], tr.tail.tail.tail, rfl, settles_io.mpr rfl, ?_⟩
    refine settles_bind_ok.mpr ⟨snapshot, [_], [], rfl, settles_io.mpr rfl, ?_⟩
    dsimp only
    have hsilent : silentDeps.telemetry = false := rfl
    rw [hsilent, Bool.and_false, if_neg Bool.false_ne_true]
    exact settles_pure.mpr ⟨rfl, rfl⟩
  refine ⟨tr, _, input, .ok snapshot, hreport, ?_, by simp [tr]⟩
  intro filter rows' hrows
  have hlisting : filter = importsFilter .dev "conn-a" ∧ rows' = rows := by simpa [tr] using hrows
  rw [hlisting.1, hlisting.2]
  rfl

end Shop

end DpIntegrator
