import DpIntegrator.Delivery.Currencies
import DpIntegrator.Delivery.OtherOrders
import DpIntegrator.Delivery.Sweeps
import DpIntegrator.Js.Cents
import DpIntegrator.Shopify.DailyAggregate
import DpIntegrator.Sql.Table

/-!
# Alarms of the daily reconciliation

The reconciliation of a day compares the live orders that Shopify processed on it with the imports
of the ledger that were synced on it. The two sides select by different times and from different
populations, so that they agree only where each order of the day was imported on that day.
-/

namespace DpIntegrator

open Effects

/-! ## A day of a connection -/

/-- A day of a connection with the orders of its shop and the ledger, as its reconciliation finds
them. -/
structure ReconciledDay where
  connection : Connection
  businessDate : String
  /-- When the day begins and when it ends. -/
  start : ℤ
  stop : ℤ
  /-- How Shopify reads times. -/
  read : String → ℤ
  orders : List GraphQLOrder
  distinct : (orders.map GraphQLOrder.id).Nodup
  log : SyncLogRows

namespace ReconciledDay

variable (day : ReconciledDay)

/-- Whether an order was processed on the day. -/
def processed (o : GraphQLOrder) : Bool :=
  day.start ≤ day.read o.processedAt && day.read o.processedAt < day.stop

/-- The live orders that were processed on the day. -/
def shopOrders : List GraphQLOrder := day.orders.filter fun o => !o.test && day.processed o

/-- The listing of the imports of the connection. -/
def filter : OrderSyncLogListFilter where
  environment := day.connection.environment
  connectionId := some day.connection.connectionId
  status := some .imported
  limit := some 10000

/-- Whether a ledger row is an import of the connection. -/
def isImport (row : OrderSyncLog) : Bool :=
  day.filter.selects row.environment row.connectionId row.status

/-- Whether a ledger row was synced on the day. -/
def synced (row : OrderSyncLog) : Bool := day.start ≤ row.listedAt && row.listedAt < day.stop

/-- The key of the ledger row of an order. -/
def ledgerKey (o : GraphQLOrder) : String :=
  OrderKey.text ⟨day.connection.environment, day.connection.connectionId, o.id⟩

/-- The import of an order in the ledger. -/
def importOf (o : GraphQLOrder) : Option OrderSyncLog :=
  (day.log.rows (day.ledgerKey o)).filter day.isImport

/-- The eligibility predicate accepts an order; the topic of its message plays no part. -/
def Eligible (o : GraphQLOrder) : Prop :=
  ∀ topic, checkEligibility (mapGraphQLOrder o) topic {} = .eligible

/-- The live orders of the day that are eligible were imported with their totals, and no others. -/
structure ImportsEligible : Prop where
  imported : ∀ o ∈ day.orders, day.processed o = true → o.test = false → Eligible o →
    ∃ row, day.importOf o = some row ∧ row.totalPrice = some o.totalPriceSet.presentmentMoney.amount
  only : ∀ o ∈ day.orders, day.processed o = true → o.test = true ∨ ¬Eligible o →
    day.importOf o = none

/-- What makes the two sides of a day comparable. -/
structure Comparable : Prop where
  /-- The predicate accepts every live order of the day. -/
  eligible : ∀ o ∈ day.shopOrders, Eligible o
  /-- The orders of the day were synced on it, the last time that they were. -/
  onTime : ∀ o ∈ day.shopOrders, ∀ row, day.importOf o = some row → day.synced row = true
  /-- Nothing else was synced on the day. -/
  nothingElse : ∀ key row, day.log.rows key = some row → day.isImport row = true →
    day.synced row = true → ∃ o ∈ day.shopOrders, key = day.ledgerKey o
  currency : ∀ o ∈ day.shopOrders,
    o.totalPriceSet.presentmentMoney.currencyCode = day.connection.baseCurrency
  fewOrders : day.shopOrders.length ≤ 10000
  /-- At most ten thousand imports were synced since the day began. -/
  fewImports : ∃ keys : List String, keys.length ≤ 10000 ∧ ∀ key row,
    day.log.rows key = some row → day.isImport row = true → day.start ≤ row.listedAt → key ∈ keys

/-- The texts of the window are read as the beginning and the end of the day. -/
structure Window (host : String → Option ℤ) : Prop where
  start : Js.newDate host (fromInclusive day.businessDate) = some day.start
  stop : Js.newDate host (toExclusive host day.businessDate) = some day.stop
  readStart : day.read (fromInclusive day.businessDate) = day.start
  readStop : day.read (toExclusive host day.businessDate) = day.stop

/-- The calls of a reconciliation are answered from the shop and the ledger of the day: the gateway
pages through the orders of the shop, and the ledger lists the newest of the selected rows. -/
structure Answers (tr : List Ev) : Prop where
  connection : ∀ environment connectionId connection,
    answered (.findConnection environment connectionId) (.ok (some connection)) ∈ tr →
    connection = day.connection
  aggregate : ∀ connection fromInclusive toExclusive agg,
    answered (.getDailyOrderAggregate connection fromInclusive toExclusive) (.ok agg) ∈ tr →
    ∃ (gateway : ShopifyHttpGateway) (t : List GatewayEv) (cursor : GraphQLOrder → String)
      (listing : List GraphQLOrder),
      Settles (gateway.getDailyOrderAggregate connection fromInclusive toExclusive) t (.ok agg) ∧
      ListsWindow day.read day.orders fromInclusive toExclusive cursor listing ∧
      ∀ ev ∈ t, ShowsPages (Paging.cursorPage cursor listing)
        (aggregateQuery fromInclusive toExclusive) ev
  ledger : ∀ environment connectionId status limit rows,
    answered (.listSyncLog ⟨environment, connectionId, status, some limit⟩) (.ok rows) ∈ tr →
    Sql.Selects day.log.rows (fun row => OrderSyncLogListFilter.selects
      ⟨environment, connectionId, status, some limit⟩ row.environment row.connectionId row.status)
      OrderSyncLog.listedAt limit rows

end ReconciledDay

/-! ## Totals -/

/-- The total of the ledger is the sum of its amounts. -/
theorem nsTotalNum_eq (ledger : List OrderSyncLog) : nsTotalNum ledger =
    .fin (ledger.map fun row => amountOf (row.totalPrice.getD "0")).sum := by
  have hfold (q : ℚ) : ledger.foldl (fun (total : Js.Number) row =>
      let amt := Js.parseFloat (row.totalPrice.getD "0")
      if amt.isFinite then total + amt else total) (.fin q) =
        .fin (q + (ledger.map fun row => amountOf (row.totalPrice.getD "0")).sum) := by
    induction ledger generalizing q with
    | nil => simp
    | cons row rest ih =>
      rw [List.foldl_cons, List.map_cons, List.sum_cons, ← add_assoc, ← ih, ← add_amount]
  have hsum := hfold 0
  rw [zero_add] at hsum
  exact hsum

/-- The total at Shopify is the sum of the amounts in the base currency, up to half a cent. -/
theorem shopifyTotalNum_near {connection : Connection} {t : DayTotals} {q : ℚ}
    (h : t.Holds connection.baseCurrency q) :
    ∃ r : ℚ, shopifyTotalNum connection t.aggregate = .fin r ∧ |r - q| ≤ 1 / 200 := by
  have hlookup : t.aggregate.totalsByCurrency.lookup connection.baseCurrency =
      (t.totals.get connection.baseCurrency).map Js.Number.toFixed2 := Js.Map.lookup_map ..
  unfold shopifyTotalNum
  rw [hlookup]
  obtain hget | ⟨hget, rfl⟩ := h
  · rw [hget]
    obtain ⟨c, hparsed, hnear⟩ := Js.parseFloat_toFixed2 q
    exact ⟨_, hparsed, hnear⟩
  · rw [hget]
    refine ⟨0, by decide +kernel, by norm_num⟩

/-! ## The comparison -/

/-- Totals that differ by half a cent at most do not drift, unless less than a cent is tolerated. -/
theorem not_drifts_of_near {tolerance : Js.Number} {r q : ℚ} (hnear : |r - q| ≤ 1 / 200)
    (htolerance : tolerance.lt (.fin (1 / 100)) = false) :
    tolerance.lt (round2 (.fin r - .fin q)).abs = false := by
  obtain ⟨hlow, hhigh⟩ := abs_le.mp hnear
  have hround : round2 (.fin r - .fin q) = .ofCents ⌊(r - q) * 100 + 1 / 2⌋ := by
    rw [Js.Number.fin_sub_fin]
    exact Js.Number.round_fin _
  have hfloor : 0 ≤ ⌊(r - q) * 100 + 1 / 2⌋ ∧ ⌊(r - q) * 100 + 1 / 2⌋ ≤ 1 := by
    constructor
    · apply Int.floor_nonneg.mpr
      linarith
    · have hle := Int.floor_le ((r - q) * 100 + 1 / 2)
      have hone : (⌊(r - q) * 100 + 1 / 2⌋ : ℚ) ≤ 1 := by linarith
      exact_mod_cast hone
  rw [hround, Js.Number.abs_ofCents, abs_of_nonneg hfloor.1, Js.Number.ofCents]
  cases tolerance with
  | fin x =>
    have hcents : (⌊(r - q) * 100 + 1 / 2⌋ : ℚ) ≤ 1 := by exact_mod_cast hfloor.2
    have hx : (1 / 100 : ℚ) ≤ x := by simpa [Js.Number.lt] using htolerance
    simp only [Js.Number.lt, decide_eq_false_iff_not, not_lt]
    linarith
  | inf negative => exact htolerance
  | nan => rfl

/-! ## What a reconciliation compares -/

/-- How a reconciliation that returns came to its result: it was skipped, or it compared what it was
answered. -/
theorem reconcileOneDay_cases {deps : ReconciliationDeps} {config : ReconciliationConfig}
    {connectionId businessDate : String} {tr : List Ev} {out : ConnectionReconcileResult}
    (h : Settles (reconcileOneDay deps config connectionId businessDate) tr (.ok out)) :
    out.drift = false ∨ ∃ connection agg rows,
      answered (.findConnection deps.environment connectionId) (.ok (some connection)) ∈ tr ∧
      answered (.getDailyOrderAggregate connection (fromInclusive businessDate)
        (toExclusive deps.hostDate businessDate)) (.ok agg) ∈ tr ∧
      answered (.listSyncLog ⟨deps.environment, some connectionId, some .imported, some 10000⟩)
        (.ok rows) ∈ tr ∧
      out.drift = (dayDiff config connection agg
        (ledgerForDay deps.hostDate businessDate rows)).drift := by
  generalize hout : Except.ok out = res at h
  cases dayRun_of_settles h with
  | notReady | skipped =>
    cases hout
    exact .inl rfl
  | failed => cases hout
  | @found connection t _ h =>
    subst hout
    right
    unfold reconcileDay at h
    obtain ⟨agg, t₁, t₂, rfl, hagg, hlisted⟩ := settles_bind_ok.mp h
    obtain ⟨rows, t₃, t₄, rfl, hrows, hstored⟩ := settles_bind_ok.mp hlisted
    obtain ⟨snapshot, t₅, t₆, rfl, _, hreported⟩ := settles_bind_ok.mp hstored
    obtain rfl := settles_io.mp hagg
    obtain rfl := settles_io.mp hrows
    refine ⟨connection, agg, rows, by simp, by simp, by simp, ?_⟩
    dsimp only at hreported
    split at hreported
    · obtain ⟨_, t₇, t₈, rfl, _, hreturned⟩ := settles_bind_ok.mp hreported
      obtain ⟨_, hout⟩ := settles_pure.mp hreturned
      cases hout
      rfl
    · obtain ⟨_, hout⟩ := settles_pure.mp hreported
      cases hout
      rfl

namespace ReconciledDay

variable {day : ReconciledDay} {o o' : GraphQLOrder} {rows : List OrderSyncLog}

theorem mem_shopOrders : o ∈ day.shopOrders ↔
    o ∈ day.orders ∧ o.test = false ∧ day.processed o = true := by
  simp [shopOrders]

/-- Orders of one connection with one ledger key have one id. -/
theorem id_eq_of_ledgerKey (h : day.ledgerKey o = day.ledgerKey o') : o.id = o'.id :=
  OrderKey.gid_eq_of_text h

theorem ledgerKeys_nodup : (day.shopOrders.map day.ledgerKey).Nodup := by
  have hids : (day.shopOrders.map GraphQLOrder.id).Nodup :=
    day.distinct.sublist (List.filter_sublist.map _)
  have hne := List.pairwise_map.mp hids
  refine List.pairwise_map.mpr (hne.imp fun hid hkey => ?_)
  exact hid (id_eq_of_ledgerKey hkey)

/-- The ledger rows that a reconciliation takes are those that were synced on the day. -/
theorem Window.ledgerForDay_eq {host : String → Option ℤ} (h : day.Window host) :
    ledgerForDay host day.businessDate rows = rows.filter day.synced := by
  unfold ledgerForDay
  rw [h.start, h.stop]
  rfl

/-- An eligible live order of the day was imported with its total. -/
theorem ImportsEligible.of_mem (h : day.ImportsEligible) (hcomparable : day.Comparable)
    (ho : o ∈ day.shopOrders) : ∃ row, day.log.rows (day.ledgerKey o) = some row ∧
      day.isImport row = true ∧ day.synced row = true ∧
      row.totalPrice = some o.totalPriceSet.presentmentMoney.amount := by
  obtain ⟨hmem, hlive, hprocessed⟩ := mem_shopOrders.mp ho
  obtain ⟨row, himport, htotal⟩ := h.imported o hmem hprocessed hlive (hcomparable.eligible o ho)
  have hsynced := hcomparable.onTime o ho row himport
  obtain ⟨hrow, his⟩ := Option.filter_eq_some_iff.mp himport
  exact ⟨row, hrow, his, hsynced, htotal⟩

/-- The rows that a reconciliation takes are those of the live orders of the day. -/
theorem Comparable.ledger_perm (hcomparable : day.Comparable) (h : day.ImportsEligible)
    (hrows : Sql.Selects day.log.rows day.isImport OrderSyncLog.listedAt 10000 rows) :
    (rows.filter day.synced).Perm ((day.shopOrders.map day.ledgerKey).filterMap day.log.rows) := by
  obtain ⟨newest, hlength, hnewest⟩ := hcomparable.fewImports
  refine hrows.filter_perm hlength hnewest ?_ ledgerKeys_nodup fun key => ?_
  · intro row hsynced
    exact of_decide_eq_true (Bool.and_eq_true_iff.mp hsynced).1
  · rw [List.mem_map, Option.any_eq_true]
    constructor
    · rintro ⟨o, ho, rfl⟩
      obtain ⟨row, hrow, his, hsynced, _⟩ := h.of_mem hcomparable ho
      exact ⟨row, hrow, by rw [his, hsynced]; rfl⟩
    · rintro ⟨row, hrow, hboth⟩
      obtain ⟨his, hsynced⟩ := Bool.and_eq_true_iff.mp hboth
      obtain ⟨o, ho, hkey⟩ := hcomparable.nothingElse key row hrow his hsynced
      exact ⟨o, ho, hkey.symm⟩

/-- The totals of these rows are those of the orders. -/
theorem Comparable.totals_eq (hcomparable : day.Comparable) (h : day.ImportsEligible) :
    ((day.shopOrders.map day.ledgerKey).filterMap day.log.rows).map (fun row => row.totalPrice) =
      day.shopOrders.map fun o => some o.totalPriceSet.presentmentMoney.amount := by
  rw [List.filterMap_map, List.map_filterMap, ← List.filterMap_eq_map]
  apply List.filterMap_congr
  intro o ho
  obtain ⟨row, hrow, _, _, htotal⟩ := h.of_mem hcomparable ho
  simp [hrow, htotal]

/-- What Shopify counts and adds up. -/
theorem Comparable.aggregate_eq (hcomparable : day.Comparable) {agg : OrderDailyAggregate}
    {listing : List GraphQLOrder} (hperm : listing.Perm day.shopOrders)
    (hagg : agg = (DayTotals.addAll {} ((listing.take 10000).map
      fun o => o.totalPriceSet.presentmentMoney)).aggregate) :
    agg.count = day.shopOrders.length ∧ ∃ r : ℚ, shopifyTotalNum day.connection agg = .fin r ∧
      |r - (day.shopOrders.map fun o => amountOf o.totalPriceSet.presentmentMoney.amount).sum| ≤
        1 / 200 := by
  have hlength := hperm.length_eq
  have hfew := hcomparable.fewOrders
  rw [List.take_of_length_le (by omega)] at hagg
  subst hagg
  constructor
  · have hcount := DayTotals.count_addAll {} (listing.map fun o => o.totalPriceSet.presentmentMoney)
    rw [List.length_map, Nat.zero_add] at hcount
    exact hcount.trans hlength
  · have hempty : DayTotals.Holds {} day.connection.baseCurrency 0 := .inr ⟨rfl, rfl⟩
    obtain ⟨r, htotal, hnear⟩ := shopifyTotalNum_near (hempty.addAll
      (listing.map fun o => o.totalPriceSet.presentmentMoney))
    have hsum : (listing.map fun o =>
        amountIn day.connection.baseCurrency o.totalPriceSet.presentmentMoney).sum =
        (day.shopOrders.map fun o => amountOf o.totalPriceSet.presentmentMoney.amount).sum := by
      rw [(hperm.map _).sum_eq]
      congr 1
      apply List.map_congr_left
      intro o ho
      exact if_pos (hcomparable.currency o ho)
    rw [zero_add, List.map_map] at hnear
    exact ⟨r, htotal, hsum ▸ hnear⟩

end ReconciledDay

/-- Where no import was written under a key, its ledger row stays. -/
theorem World.Steps.syncLog_rows_same {tr : List Ev} {w w' : World} {key : String}
    (h : w.Steps tr w') (hkeys : ∀ input u, answered (.upsertSyncLog input) (.ok u) ∈ tr →
      input.key ≠ key) : w'.syncLog.rows key = w.syncLog.rows key := by
  refine h.frame (f := fun v => v.syncLog.rows key) fun ev hev v v' hs => ?_
  obtain ⟨o, r⟩ := ev
  cases o with
  | clock | track =>
    cases hs
    rfl
  | io c =>
    by_cases hlog : ∃ input, c = .upsertSyncLog input
    · obtain ⟨input, rfl⟩ := hlog
      cases r with
      | error e => rw [World.Step.eq_of_error hs]
      | ok u =>
        obtain ⟨now, rfl⟩ := World.Step.upsertSyncLog_ok hs
        exact SyncLogRows.upsert_of_ne (Ne.symm (hkeys input u hev))
    · exact congrArg (fun log => log.rows key)
        (World.Step.syncLog_same hs fun input heq => hlog ⟨input, heq⟩)

/-- A table with one row lists it, if it is selected. -/
theorem selects_single {κ ρ : Type} {t : Sql.Table κ ρ} {keep : ρ → Bool} {time : ρ → ℤ}
    {key : κ} (honly : ∀ key', key' ≠ key → t key' = none) (limit : ℕ) :
    Sql.Selects t keep time limit (((t key).filter keep).toList.take limit) := by
  cases hkept : (t key).filter keep with
  | none =>
    have hnone : (t key).any keep = false := by
      cases hrow : t key with
      | none => rfl
      | some row =>
        rw [hrow] at hkept
        simpa [Option.filter] using hkept
    refine ⟨[], List.nodup_nil, fun key' => ?_, List.Pairwise.nil, by simp⟩
    by_cases hkey : key' = key
    · simp [hkey, hnone]
    · simp [honly key' hkey]
  | some row =>
    obtain ⟨hrow, hkeep⟩ := Option.filter_eq_some_iff.mp hkept
    refine ⟨[key], List.nodup_singleton key, fun key' => ?_, by simp [hrow], by simp [hrow]⟩
    by_cases hkey : key' = key
    · simp [hkey, hrow, hkeep]
    · simp [hkey, honly key' hkey]

namespace Shop

/-- How Shopify answers the gateway about a listing. -/
def pages (listing : List GraphQLOrder) : (o : GatewayOp) → o.Resp
  | .resolveAccessToken _ => .ok "token"
  | .post _ _ args => .ok (.ok (.ok { orders := some (aggregateOrders
      (Paging.cursorPage GraphQLOrder.id listing args.first args.after)) }))

/-- The ledger key of the order. -/
def orderKey : String := "dev|conn-a|gid://shopify/Order/1"

/-- The rows that a ledger with the row of the order lists. -/
def listed (day : ReconciledDay) (filter : OrderSyncLogListFilter) : List OrderSyncLog :=
  ((day.log.rows orderKey).filter fun row =>
    filter.selects row.environment row.connectionId row.status).toList.take (filter.limit.getD 0)

/-- How the calls of the reconciliation of a day are answered. -/
def reconciling (day : ReconciledDay) : (o : Op) → o.Resp
  | .io (.findConnection ..) => .ok (some day.connection)
  | .io (.getDailyOrderAggregate connection fromInclusive toExclusive) =>
    ((({} : ShopifyHttpGateway).getDailyOrderAggregate connection fromInclusive toExclusive).run.eval
      (pages (windowOrders day.read day.orders fromInclusive toExclusive))).2
  | .io (.listSyncLog filter) => .ok (listed day filter)
  | .io (.upsertSnapshot input) => .ok { input with createdAt := 0 }
  | .io _ => .error .undefined
  | .clock => (0 : ℤ)
  | .track _ => ()

def reconciliationDeps : ReconciliationDeps where
  environment := .dev
  orderSyncLog := true
  reconciliationStore := true
  telemetry := true

/-- The reconciliation of a day, in the default configuration. -/
def reconciled (day : ReconciledDay) : List Ev × Except Thrown ConnectionReconcileResult :=
  (reconcileOneDay reconciliationDeps {} day.connection.connectionId day.businessDate).run.eval
    (reconciling day)

/-- A shop with one order, of which the ledger has at most the row, answers like this. -/
theorem reconciled_answers {day : ReconciledDay} {doc : GraphQLOrder} (horders : day.orders = [doc])
    (hid : doc.id ≠ "") (honly : ∀ key, key ≠ orderKey → day.log.rows key = none) :
    day.Answers (reconciled day).1 where
  connection environment connectionId connection h :=
    (Option.some.inj (Except.ok.inj (Prog.eq_oracle_of_mem_eval h)))
  aggregate connection fromInclusive toExclusive agg h := by
    have hshort : (windowOrders day.read day.orders fromInclusive toExclusive).length ≤ 1 := by
      unfold windowOrders
      rw [horders]
      exact List.length_filter_le ..
    have hmem : ∀ o ∈ windowOrders day.read day.orders fromInclusive toExclusive, o = doc := by
      intro o ho
      have hin := List.mem_of_mem_filter ho
      rw [horders] at hin
      exact List.mem_singleton.mp hin
    have hpair {R : GraphQLOrder → GraphQLOrder → Prop} :
        (windowOrders day.read day.orders fromInclusive toExclusive).Pairwise R := by
      cases hlist : windowOrders day.read day.orders fromInclusive toExclusive with
      | nil => exact List.Pairwise.nil
      | cons o rest =>
        rw [hlist, List.length_cons] at hshort
        rw [List.eq_nil_of_length_eq_zero (by omega : rest.length = 0)]
        exact List.pairwise_singleton _ _
    have hagg := Prog.eq_oracle_of_mem_eval h
    have hsettles := Prog.runs_eval (pages (windowOrders day.read day.orders fromInclusive toExclusive))
      (({} : ShopifyHttpGateway).getDailyOrderAggregate connection fromInclusive toExclusive).run
    have hresult : ((({} : ShopifyHttpGateway).getDailyOrderAggregate connection fromInclusive
        toExclusive).run.eval (pages (windowOrders day.read day.orders fromInclusive toExclusive))).2 = .ok agg :=
      hagg.symm
    rw [hresult] at hsettles
    refine ⟨{}, _, GraphQLOrder.id, windowOrders day.read day.orders fromInclusive toExclusive, hsettles,
      ⟨.refl _, hpair, List.pairwise_map.mpr hpair, fun o ho => hmem o ho ▸ hid⟩, ?_⟩
    intro ev hev url accessToken limit start body heq _
    have hanswer := Prog.eq_oracle_of_mem_eval hev
    subst heq
    cases hanswer
    rfl
  ledger environment connectionId status limit rows h := by
    obtain rfl := Except.ok.inj (Prog.eq_oracle_of_mem_eval h)
    exact selects_single honly limit

/-- The creation of an order, handled at the time `now` by services that have the order. -/
def handledAt (doc : GraphQLOrder) (now : ℤ) :
    (Activity.handle deps (Shop.message none "orders/create").toJs order1.attemptCtx).Record × World :=
  handled { sells doc with now }

/-- The day of the shop that begins at `start`, after an order was handled. -/
def dayAfter (doc : GraphQLOrder) (now : ℤ) (businessDate : String) (start : ℤ) : ReconciledDay where
  connection := Shop.connection
  businessDate
  start
  stop := start + 86400000
  read s := (Js.newDate (fun _ => none) s).getD 0
  orders := [doc]
  distinct := List.nodup_singleton _
  log := (handledAt doc now).2.syncLog

/-- The ledger keys that a list of calls wrote. -/
def writtenKeys (tr : List Ev) : List String :=
  tr.filterMap fun
    | ⟨.io (.upsertSyncLog input), .ok _⟩ => some input.key
    | _ => none

theorem dayAfter_log {doc : GraphQLOrder} {now : ℤ} {businessDate : String} {start : ℤ}
    (hwritten : ∀ key ∈ writtenKeys (handledAt doc now).1.1, key = orderKey) (key : String)
    (hkey : key ≠ orderKey) : (dayAfter doc now businessDate start).log.rows key = none := by
  have hsteps := (handled_performs { sells doc with now }).steps
  have hsame : (handledAt doc now).2.syncLog.rows key = world.syncLog.rows key := by
    apply World.Steps.syncLog_rows_same hsteps
    intro input u hev heq
    have hmem : input.key ∈ writtenKeys (handledAt doc now).1.1 :=
      List.mem_filterMap.mpr ⟨_, hev, rfl⟩
    exact hkey (heq.symm.trans (hwritten input.key hmem))
  exact hsame

/-- The order of the shop, presented in dollars. -/
def dollars : GraphQLOrder := presented "10.00" "USD"

/-- The same order, presented in euros. -/
def euros : GraphQLOrder := presented "9.20" "EUR"

/-- The same order, before it is paid. -/
def awaiting : GraphQLOrder := { dollars with displayFinancialStatus := "PENDING" }

/-- The fifth of January 2026, on which the order was processed. -/
def fifth : ℤ := 1767571200000

/-- A minute after the order was processed. -/
def promptly : ℤ := fifth + 36060000

/-- A minute after midnight. -/
def afterMidnight : ℤ := fifth + 86460000

/-- A paid order is imported. -/
theorem importsEligible_of_import {doc : GraphQLOrder} {now : ℤ} {businessDate : String} {start : ℤ}
    (htest : doc.test = false) (heligible : ReconciledDay.Eligible doc)
    (hrow : ((dayAfter doc now businessDate start).importOf doc).map (fun row => row.totalPrice) =
      some (some doc.totalPriceSet.presentmentMoney.amount)) :
    (dayAfter doc now businessDate start).ImportsEligible where
  imported o ho _ _ _ := by
    obtain rfl := List.mem_singleton.mp ho
    exact Option.map_eq_some_iff.mp hrow
  only o ho _ hnot := by
    obtain rfl := List.mem_singleton.mp ho
    obtain hnot | hnot := hnot
    · rw [htest] at hnot
      cases hnot
    · exact absurd heligible hnot

/-- An order that is not eligible is not imported. -/
theorem importsEligible_of_ineligible {doc : GraphQLOrder} {now : ℤ} {businessDate : String}
    {start : ℤ} (hnot : ¬ReconciledDay.Eligible doc)
    (hrow : (dayAfter doc now businessDate start).importOf doc = none) :
    (dayAfter doc now businessDate start).ImportsEligible where
  imported o ho _ _ heligible := by
    obtain rfl := List.mem_singleton.mp ho
    exact absurd heligible hnot
  only o ho _ _ := by
    obtain rfl := List.mem_singleton.mp ho
    exact hrow

theorem eligible_presented (price code : String) :
    ReconciledDay.Eligible (presented price code) := by
  intro topic
  have hstatus : mapFinancialStatus "PAID" ∈ defaultFinancialStatuses := by decide +kernel
  apply checkEligibility_eq_eligible.mpr
  simp [presented, mapGraphQLOrder, isFraudHeld, hstatus]

theorem not_eligible_awaiting : ¬ReconciledDay.Eligible awaiting := by
  intro h
  have hstatus : mapFinancialStatus "PENDING" ∉ defaultFinancialStatuses := by decide +kernel
  exact hstatus (checkEligibility_eq_eligible.mp (h "orders/create")).2.2.1

/-- The texts of the fifth and the sixth of January are read as their midnights. -/
theorem window_dayAfter {doc : GraphQLOrder} {now : ℤ} {businessDate : String} {start : ℤ}
    (hstart : Js.newDate (fun _ => none) (fromInclusive businessDate) = some start)
    (hstop : Js.newDate (fun _ => none) (toExclusive (fun _ => none) businessDate) =
      some (start + 86400000)) :
    (dayAfter doc now businessDate start).Window reconciliationDeps.hostDate where
  start := hstart
  stop := hstop
  readStart := by
    unfold dayAfter
    dsimp only
    rw [hstart, Option.getD_some]
  readStop := by
    unfold dayAfter reconciliationDeps
    dsimp only
    rw [hstop, Option.getD_some]

/-- What a reconciliation reported, if it returned. -/
def reported : Except Thrown ConnectionReconcileResult → Option Bool
  | .ok out => some out.drift
  | .error _ => none

end Shop

/-- A reconciliation of the day in the default configuration that reports drift. -/
def ReconciledDay.Alarms (day : ReconciledDay) : Prop :=
  ∃ (deps : ReconciliationDeps) (tr : List Ev) (out : ConnectionReconcileResult),
    deps.environment = day.connection.environment ∧ day.Window deps.hostDate ∧ day.Answers tr ∧
    Settles (reconcileOneDay deps {} day.connection.connectionId day.businessDate) tr (.ok out) ∧
    out.drift = true

namespace Shop

/-- A reconciliation of the shop that reports `drift`. -/
theorem exists_reported {day : ReconciledDay} {drift : Bool}
    (h : reported (reconciled day).2 = some drift) : ∃ out,
      Settles (reconcileOneDay reconciliationDeps {} day.connection.connectionId day.businessDate)
        (reconciled day).1 (.ok out) ∧ out.drift = drift := by
  have hsettles := Prog.runs_eval (reconciling day)
    (reconcileOneDay reconciliationDeps {} day.connection.connectionId day.businessDate).run
  cases hout : (reconciled day).2 with
  | error e =>
    rw [hout] at h
    cases h
  | ok out =>
    rw [hout] at h
    refine ⟨out, ?_, Option.some.inj h⟩
    change Runs _ _ (reconciled day).2 at hsettles
    rwa [hout] at hsettles

theorem window_fifth {doc : GraphQLOrder} {now : ℤ} :
    (dayAfter doc now "2026-01-05" fifth).Window reconciliationDeps.hostDate :=
  window_dayAfter (by decide +kernel) (by decide +kernel)

theorem window_sixth {doc : GraphQLOrder} {now : ℤ} :
    (dayAfter doc now "2026-01-06" (fifth + 86400000)).Window reconciliationDeps.hostDate :=
  window_dayAfter (by decide +kernel) (by decide +kernel)

/-- The fifth, when the order was imported on the sixth. -/
def lateDay : ReconciledDay := dayAfter dollars afterMidnight "2026-01-05" fifth

/-- The sixth, when the order of the fifth was imported on it. -/
def nextDay : ReconciledDay := dayAfter dollars afterMidnight "2026-01-06" (fifth + 86400000)

/-- The fifth, when its order was not paid for. -/
def awaitingDay : ReconciledDay := dayAfter awaiting promptly "2026-01-05" fifth

/-- The fifth, when its order was presented in euros. -/
def eurosDay : ReconciledDay := dayAfter euros promptly "2026-01-05" fifth

/-- The fifth, when its order was imported promptly. -/
def promptDay : ReconciledDay := dayAfter dollars promptly "2026-01-05" fifth

/-- What running a day shows: only the row of the order was written, `total` is the total of its
import, and the reconciliation reports `drift`. -/
def Shows (doc : GraphQLOrder) (now : ℤ) (businessDate : String) (start : ℤ)
    (total : Option (Option String)) (drift : Bool) : Prop :=
  (∀ key ∈ writtenKeys (handledAt doc now).1.1, key = orderKey) ∧
    ((dayAfter doc now businessDate start).importOf doc).map (fun row => row.totalPrice) = total ∧
    reported (reconciled (dayAfter doc now businessDate start)).2 = some drift

instance {doc : GraphQLOrder} {now start : ℤ} {businessDate : String}
    {total : Option (Option String)} {drift : Bool} :
    Decidable (Shows doc now businessDate start total drift) :=
  inferInstanceAs (Decidable (_ ∧ _ ∧ _))

/-- A day that was run and showed drift raises an alarm. -/
theorem alarms_of_shows {doc : GraphQLOrder} {now : ℤ} {businessDate : String} {start : ℤ}
    {total : Option (Option String)} (hid : doc.id ≠ "")
    (hwindow : (dayAfter doc now businessDate start).Window reconciliationDeps.hostDate)
    (h : Shows doc now businessDate start total true) :
    (dayAfter doc now businessDate start).Alarms := by
  obtain ⟨hwritten, _, hreported⟩ := h
  obtain ⟨out, hsettles, hdrift⟩ := exists_reported hreported
  exact ⟨_, _, out, rfl, hwindow, reconciled_answers rfl hid (dayAfter_log hwritten), hsettles, hdrift⟩

theorem days_show :
    Shows dollars afterMidnight "2026-01-05" fifth (some (some "10.00")) true ∧
      Shows dollars afterMidnight "2026-01-06" (fifth + 86400000) (some (some "10.00")) true ∧
      Shows awaiting promptly "2026-01-05" fifth none true ∧
      Shows euros promptly "2026-01-05" fifth (some (some "9.20")) true ∧
      Shows dollars promptly "2026-01-05" fifth (some (some "10.00")) false ∧
      (promptDay.importOf dollars).all promptDay.synced = true ∧
      dollars ∈ promptDay.shopOrders ∧ orderKey = promptDay.ledgerKey dollars := by decide +kernel

theorem late_shows :
    Shows dollars afterMidnight "2026-01-05" fifth (some (some "10.00")) true := days_show.1

theorem next_shows : Shows dollars afterMidnight "2026-01-06" (fifth + 86400000)
    (some (some "10.00")) true := days_show.2.1

theorem awaiting_shows : Shows awaiting promptly "2026-01-05" fifth none true := days_show.2.2.1

theorem euros_shows :
    Shows euros promptly "2026-01-05" fifth (some (some "9.20")) true := days_show.2.2.2.1

theorem prompt_shows :
    Shows dollars promptly "2026-01-05" fifth (some (some "10.00")) false := days_show.2.2.2.2.1

/-- The order of the prompt day is one of the day, and its import was written on it. -/
theorem prompt_order : (promptDay.importOf dollars).all promptDay.synced = true ∧
    dollars ∈ promptDay.shopOrders ∧ orderKey = promptDay.ledgerKey dollars := days_show.2.2.2.2.2

theorem prompt_log : ∀ key, key ≠ orderKey → promptDay.log.rows key = none :=
  dayAfter_log prompt_shows.1

theorem prompt_comparable : promptDay.Comparable where
  eligible o ho := by
    obtain ⟨hmem, _⟩ := ReconciledDay.mem_shopOrders.mp ho
    obtain rfl := List.mem_singleton.mp hmem
    exact eligible_presented _ _
  onTime o ho row hrow := by
    obtain ⟨hmem, _⟩ := ReconciledDay.mem_shopOrders.mp ho
    obtain rfl := List.mem_singleton.mp hmem
    have hsynced := prompt_order.1
    rw [hrow] at hsynced
    exact hsynced
  nothingElse key row hrow _ _ := by
    obtain ⟨_, hshop, hdollars⟩ := prompt_order
    refine ⟨dollars, hshop, ?_⟩
    by_contra hkey
    have hother : key ≠ orderKey := fun heq => hkey (heq.trans hdollars)
    exact Option.some_ne_none row (hrow.symm.trans (prompt_log key hother))
  currency o ho := by
    obtain ⟨hmem, _⟩ := ReconciledDay.mem_shopOrders.mp ho
    obtain rfl := List.mem_singleton.mp hmem
    rfl
  fewOrders := Nat.le_trans (List.length_filter_le ..) (by decide)
  fewImports := by
    refine ⟨[orderKey], by decide, fun key row hrow _ _ => ?_⟩
    by_contra hkey
    have hother : key ≠ orderKey := fun heq => hkey (List.mem_singleton.mpr heq)
    exact Option.some_ne_none row (hrow.symm.trans (prompt_log key hother))

theorem prompt_imports : promptDay.ImportsEligible :=
  importsEligible_of_import rfl (eligible_presented _ _) prompt_shows.2.1

end Shop

end DpIntegrator
