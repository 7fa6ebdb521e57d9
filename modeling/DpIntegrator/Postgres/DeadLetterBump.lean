import DpIntegrator.Postgres.LedgerShape

/-!
# The bump of a dead letter

The handler of dead letters writes the ledger row of its order to raise the attempt count. It
writes it by an upsert of a status and two counts, and each store takes from the row what its upsert
does not keep. The row is only bumped where there was nothing to take.
-/

namespace DpIntegrator

open Effects Sql PostgresOrderSyncLogStore

/-! ## Stores -/

/-- What the handler sees of a store of ledger rows: the row of an order, and the stores that an
upsert at a time may leave. -/
structure Ledger where
  State : Type
  find : State → OrderKey → Option OrderSyncLog
  Upserts : State → OrderSyncLogInput → ℤ → State → Prop

/-- The implementations of the store. -/
inductive LedgerImplementation
  | memory
  | postgres (decimal : String → String)

/-- In Postgres the time of an upsert is the one that it returns. -/
def LedgerImplementation.ledger : LedgerImplementation → Ledger
  | memory =>
    { State := InMemoryOrderSyncLogStore
      find := InMemoryOrderSyncLogStore.findByOrderGid
      Upserts := fun store input now store' => store' = store.upsert input now }
  | postgres decimal =>
    { State := LedgerTable
      find := fun t key => (t key).map OrderSyncLogDb.toRow
      Upserts := fun t input now t' => ∃ tr row,
        Exec Sql.Step (upsert decimal input).run t tr (.ok row) t' ∧ row.updatedAt = now }

/-- A store, and the times at which it was written. -/
structure DlqWorld (ledger : Ledger) where
  store : ledger.State
  writes : List ℤ := []

/-- How the calls of the handler are answered when they all succeed. -/
def DlqStep (ledger : Ledger) (connections : String → String → Option Connection) (o : DlqOp)
    (w : DlqWorld ledger) (r : o.Resp) (w' : DlqWorld ledger) : Prop :=
  match o with
  | .io (.findConnection environment connectionId) =>
    r = .ok (connections environment connectionId) ∧ w' = w
  | .io (.findByOrderGid environment connectionId shopifyOrderGid) =>
    r = .ok ((Environment.ofText? environment).bind fun environment =>
      ledger.find w.store ⟨environment, connectionId, shopifyOrderGid⟩) ∧ w' = w
  | .io (.upsertSyncLog bump) => r = .ok () ∧ ∀ environment,
    bump.environment = Environment.text environment → ∃ now,
      ledger.Upserts w.store (bump.input environment) now w'.store ∧ w'.writes = w.writes ++ [now]
  | .io _ => (∃ a, r = .ok a) ∧ w' = w
  | .clock => w' = w

/-! ## What the handler does -/

section Handler

variable {ledger : Ledger} {connections : String → String → Option Connection}
  {deps : DlqHandlerDeps} {env : DlqEnvelope} {w w' : DlqWorld ledger} {tr : List DlqEv} {n : ℕ}

/-- The attempt row leaves the ledger alone. -/
theorem exec_recordQuarantine {summary : String} {res : Except Thrown Unit}
    (h : Exec (DlqStep ledger connections) (recordQuarantine deps env summary n).run w tr res w') :
    res = .ok () ∧ w' = w := by
  unfold recordQuarantine at h
  split at h
  · obtain ⟨e, _, hnow⟩ | ⟨now, w₁, t₁, t₂, hnow, hrest⟩ := exec_bind h
    · obtain ⟨_, heq, _⟩ := exec_observe hnow
      cases heq
    obtain ⟨_, _, hclock⟩ := exec_observe hnow
    obtain rfl : w₁ = w := hclock
    obtain ⟨rfl, _, res', hrecord⟩ := exec_swallow hrest
    exact ⟨rfl, (exec_dlqIo hrecord).2⟩
  · exact exec_pure h

/-- The bump reads the row of its order and writes it. -/
theorem exec_bumpLedger {key : OrderKey} {row : OrderSyncLog} {res : Except Thrown Unit}
    (henvironment : env.environment = key.environment.text)
    (hconnection : env.connectionId = key.connectionId) (hgid : env.orderGid = key.shopifyOrderGid)
    (hn : 0 < n) (hlog : deps.orderSyncLog = true) (hrow : ledger.find w.store key = some row)
    (h : Exec (DlqStep ledger connections) (bumpLedger deps env n).run w tr res w') :
    res = .ok () ∧ ∃ now, ledger.Upserts w.store ((env.bump row.status n).input key.environment) now
      w'.store ∧ w'.writes = w.writes ++ [now] := by
  unfold bumpLedger at h
  rw [if_pos (by simp [hlog, hn])] at h
  obtain ⟨rfl, _, res', hbody⟩ := exec_swallow h
  refine ⟨rfl, ?_⟩
  have hfound : ∀ found w₁, DlqStep ledger connections
      (.io (.findByOrderGid env.environment env.connectionId env.orderGid)) w found w₁ →
      found = .ok (some row) ∧ w₁ = w := by
    rintro found w₁ ⟨rfl, rfl⟩
    rw [henvironment, Environment.ofText?_text, Option.bind_some, hconnection, hgid, hrow]
    exact ⟨rfl, rfl⟩
  obtain ⟨e, _, hfind⟩ | ⟨found, w₁, t₁, t₂, hfind, hrest⟩ := exec_bind hbody
  · obtain ⟨heq, _⟩ := hfound _ _ (exec_dlqIo hfind)
    cases heq
  obtain ⟨heq, rfl⟩ := hfound _ _ (exec_dlqIo hfind)
  obtain rfl := Except.ok.inj heq
  exact (exec_dlqIo hrest).2 key.environment henvironment

/-- The handler gets to the bump: it has its stores, knows the connection, and the key of the order
is one. -/
structure Bumps (deps : DlqHandlerDeps) (connections : String → String → Option Connection)
    (env : DlqEnvelope) : Prop where
  errorStore : deps.errorStore = true
  orderSyncLog : deps.orderSyncLog = true
  connection : (connections env.environment env.connectionId).isSome = true
  key : ∃ dedup, env.dedupKey = .ok dedup

/-- The handler writes the row of its order once if it gets to the bump, and never otherwise. -/
theorem handleDeadLetteredOrder_writes {message : Js.Value} {context : DlqContext} {key : OrderKey}
    {row : OrderSyncLog} {res : Except Thrown DlqOutcome} (hparse : parseEnvelope message = .ok env)
    (henvironment : env.environment = key.environment.text)
    (hconnection : env.connectionId = key.connectionId) (hgid : env.orderGid = key.shopifyOrderGid)
    (hcount : context.deliveryCount = some n) (hn : 0 < n)
    (hrow : ledger.find w.store key = some row)
    (h : Exec (DlqStep ledger connections) (handleDeadLetteredOrder deps message context).run w tr res
      w') :
    (Bumps deps connections env ∧ ∃ now, ledger.Upserts w.store
      ((env.bump row.status n).input key.environment) now w'.store ∧ w'.writes = w.writes ++ [now]) ∨
    ¬Bumps deps connections env ∧ w' = w := by
  unfold handleDeadLetteredOrder at h
  by_cases herrors : deps.errorStore = true
  swap
  · rw [if_pos (by simpa using herrors)] at h
    exact .inr ⟨fun hbumps => herrors hbumps.errorStore, (exec_pure h).2⟩
  rw [if_neg (by simpa using herrors), hparse] at h
  obtain ⟨e, _, hfind⟩ | ⟨found, w₁, t₁, t₂, hfind, hrest⟩ := exec_bind h
  · cases (exec_dlqIo hfind).1
  obtain ⟨hfound, rfl⟩ := exec_dlqIo hfind
  obtain rfl := Except.ok.inj hfound
  cases hknown : connections env.environment env.connectionId with
  | none =>
    refine .inr ⟨fun hbumps => ?_, ?_⟩
    · have hsome := hbumps.connection
      rw [hknown] at hsome
      cases hsome
    rw [hknown] at hrest
    obtain ⟨e, _, hdedup⟩ | ⟨dedup, w₂, t₃, t₄, hdedup, hrest₁⟩ := exec_bind hrest
    · exact (exec_dlqOfExcept hdedup).2
    obtain ⟨_, rfl⟩ := exec_dlqOfExcept hdedup
    obtain ⟨e, _, hrecord⟩ | ⟨id, w₃, t₅, t₆, hrecord, hret⟩ := exec_bind hrest₁
    · exact (exec_dlqIo hrecord).2
    obtain ⟨_, rfl⟩ := exec_dlqIo hrecord
    exact (exec_pure hret).2
  | some connection =>
    rw [hknown] at hrest
    obtain ⟨e, _, hdedup⟩ | ⟨dedup, w₂, t₃, t₄, hdedup, hrest₁⟩ := exec_bind hrest
    · obtain ⟨hkey, rfl⟩ := exec_dlqOfExcept hdedup
      refine .inr ⟨fun hbumps => ?_, rfl⟩
      obtain ⟨dedup, hok⟩ := hbumps.key
      rw [hok] at hkey
      cases hkey
    obtain ⟨hkey, rfl⟩ := exec_dlqOfExcept hdedup
    obtain ⟨e, _, hrecord⟩ | ⟨id, w₃, t₅, t₆, hrecord, hrest₂⟩ := exec_bind hrest₁
    · obtain ⟨⟨_, heq⟩, _⟩ := exec_dlqIo hrecord
      cases heq
    obtain ⟨_, rfl⟩ := exec_dlqIo hrecord
    obtain ⟨e, _, hstatus⟩ | ⟨u, w₄, t₇, t₈, hstatus, hrest₃⟩ := exec_bind hrest₂
    · obtain ⟨⟨_, heq⟩, _⟩ := exec_dlqIo hstatus
      cases heq
    obtain ⟨_, rfl⟩ := exec_dlqIo hstatus
    obtain ⟨e, _, hattempt⟩ | ⟨u', w₅, t₉, t₁₀, hattempt, hrest₄⟩ := exec_bind hrest₃
    · cases (exec_recordQuarantine hattempt).1
    obtain ⟨_, rfl⟩ := exec_recordQuarantine hattempt
    rw [hcount, Option.getD_some] at hrest₄
    by_cases hlog : deps.orderSyncLog = true
    · refine .inl ⟨⟨herrors, hlog, by rw [hknown]; rfl, dedup, hkey.symm⟩, ?_⟩
      obtain ⟨e, _, hbump⟩ | ⟨u'', w₆, t₁₁, t₁₂, hbump, hret⟩ := exec_bind hrest₄
      · cases (exec_bumpLedger henvironment hconnection hgid hn hlog hrow hbump).1
      obtain ⟨_, rfl⟩ := exec_pure hret
      exact (exec_bumpLedger henvironment hconnection hgid hn hlog hrow hbump).2
    · refine .inr ⟨fun hbumps => hlog hbumps.orderSyncLog, ?_⟩
      have hnone : bumpLedger deps env n = pure () := by
        unfold bumpLedger
        rw [if_neg (by simp [hlog])]
      rw [hnone] at hrest₄
      obtain ⟨e, _, hbump⟩ | ⟨u'', w₆, t₁₁, t₁₂, hbump, hret⟩ := exec_bind hrest₄
      · cases (exec_pure hbump).1
      obtain ⟨_, rfl⟩ := exec_pure hbump
      exact (exec_pure hret).2

end Handler

/-! ## What the bump takes -/

/-- The row with the counts of a dead letter that was delivered `n` times. -/
def OrderSyncLog.bumped (row : OrderSyncLog) (n : ℕ) (now : ℤ) : OrderSyncLog :=
  { row with
    attemptCount := some (max (row.attemptCount.getD 0) n)
    lastDeliveryCount := some n
    updatedAt := now }

/-- The columns that both stores overwrite are empty, and the order id is the one of the gid. -/
structure OrderSyncLog.Bare (row : OrderSyncLog) : Prop where
  shopifyOrderId : row.shopifyOrderId =
    (Js.trailingNumber row.shopifyOrderGid).getD row.shopifyOrderGid
  order : ∀ text ∈ [row.shopifyOrderName, row.customerEmail, row.currencyCode, row.totalPrice,
    row.subtotalPrice, row.totalTax, row.totalDiscounts, row.totalShipping], text = none
  dates : ∀ date ∈ [row.shopifyCreatedAt, row.shopifyProcessedAt, row.shopifyUpdatedAt], date = none
  outcome : ∀ text ∈ [row.nsAccountId, row.nsRecordType, row.nsInternalId, row.parkStage,
    row.parkDetail, row.parkErrorClass, row.ignoredReason], text = none

/-- The columns that only the store in memory overwrites are empty too, and no higher count is
lost. -/
structure OrderSyncLog.BareInMemory (row : OrderSyncLog) (n : ℕ) : Prop extends row.Bare where
  kept : ∀ text ∈ [row.nsTranId, row.lastOutboundPayloadUri, row.lastInboundEnvelopeUri], text = none
  syncedAt : row.syncedAt = none
  attemptCount : row.attemptCount.getD 0 ≤ n

/-- There is nothing in the row that an upsert of the bump takes. -/
def LedgerImplementation.Bare : LedgerImplementation → OrderSyncLog → ℕ → Prop
  | memory, row, n => row.BareInMemory n
  | postgres _, row, _ => row.Bare

section Rows

variable {env : DlqEnvelope} {key : OrderKey} {row : OrderSyncLog} {n : ℕ} {now : ℤ}

/-- The row that the store in memory writes for a bump. -/
theorem bump_memory_iff (hkey : row.orderKey = key)
    (hconnection : env.connectionId = key.connectionId) (hgid : env.orderGid = key.shopifyOrderGid) :
    ({ (env.bump row.status n).input key.environment with
      id := row.id, createdAt := row.createdAt, updatedAt := now } : OrderSyncLog) =
        row.bumped n now ↔ row.BareInMemory n := by
  subst hkey
  obtain ⟨input, id, createdAt, updatedAt⟩ := row
  cases input
  simp only [OrderSyncLogInput.orderKey] at hconnection hgid
  simp only [LedgerBump.input, DlqEnvelope.bump, OrderSyncLog.bumped, OrderSyncLogInput.orderKey,
    hconnection, hgid, OrderSyncLog.mk.injEq, OrderSyncLogInput.mk.injEq, true_and, and_true,
    @eq_comm _ none, Option.some.injEq, right_eq_sup]
  constructor
  · intro heq
    refine ⟨⟨?_, ?_, ?_, ?_⟩, ?_, ?_, ?_⟩
    · exact heq.1.symm
    all_goals simp only [List.forall_mem_cons, heq, List.not_mem_nil, false_imp_iff, implies_true,
      and_true]
  · rintro ⟨⟨hid, horder, hdates, houtcome⟩, hkept, hsynced, hcount⟩
    dsimp only at hid hsynced hcount
    simp only [List.forall_mem_cons] at horder hdates houtcome hkept
    simp [*]

/-- The row that Postgres writes for a bump. -/
theorem bump_postgres_iff {decimal : String → String} {found : OrderSyncLogDb} {m : Moment}
    (hgid : env.orderGid = found.shopifyOrderGid) :
    (written decimal ((env.bump found.status n).input key.environment) m (some found)).toRow =
        found.toRow.bumped n m.now ↔ found.toRow.Bare := by
  cases found
  dsimp only at hgid
  simp only [LedgerBump.input, DlqEnvelope.bump, OrderSyncLog.bumped, written, conflictRow,
    insertedRow, OrderSyncLogDb.toRow, hgid, OrderSyncLog.mk.injEq, OrderSyncLogInput.mk.injEq,
    true_and, and_true, Option.map_none, Option.join_none, Option.none_or, Option.some_or,
    Option.getD_some, @eq_comm _ none]
  constructor
  · intro heq
    refine ⟨?_, ?_, ?_, ?_⟩
    · exact heq.1.symm
    all_goals simp only [List.forall_mem_cons, heq, List.not_mem_nil, false_imp_iff, implies_true,
      and_true]
  · rintro ⟨hid, horder, hdates, houtcome⟩
    dsimp only at hid
    simp only [List.forall_mem_cons] at horder hdates houtcome
    simp only [← hid, horder, hdates, houtcome, and_self]

/-- The row of the order is written, and is the row before but for its counts and the time. -/
def BumpsOnly (ledger : Ledger) (key : OrderKey) (row : OrderSyncLog) (n : ℕ)
    (w : DlqWorld ledger) : Prop :=
  ∃ now ∈ w.writes, ledger.find w.store key = some (row.bumped n now)

theorem orderKey_bump {status : OrderSyncLogStatus} (hconnection : env.connectionId = key.connectionId)
    (hgid : env.orderGid = key.shopifyOrderGid) :
    ((env.bump status n).input key.environment).orderKey = key := by
  cases key
  simp only [LedgerBump.input, DlqEnvelope.bump, OrderSyncLogInput.orderKey, hconnection, hgid]

/-- In memory. -/
theorem find_upsert_bump_iff {store : InMemoryOrderSyncLogStore} (hkey : row.orderKey = key)
    (hconnection : env.connectionId = key.connectionId) (hgid : env.orderGid = key.shopifyOrderGid)
    (hrow : store.findByOrderGid key = some row) :
    (store.upsert ((env.bump row.status n).input key.environment) now).findByOrderGid key =
        some (row.bumped n now) ↔ row.BareInMemory n := by
  have htext : ((env.bump row.status n).input key.environment).key = key.text := by
    rw [← OrderSyncLogInput.text_orderKey, orderKey_bump hconnection hgid]
  have hexisting : store.rows.get ((env.bump row.status n).input key.environment).key =
      some row := by
    rw [htext]
    exact hrow
  have hwritten := InMemoryOrderSyncLogStore.get_upsert_of_some hexisting now
  rw [htext] at hwritten
  unfold InMemoryOrderSyncLogStore.findByOrderGid
  rw [hwritten, Option.some_inj]
  exact bump_memory_iff hkey hconnection hgid

/-- In Postgres. -/
theorem select_upsert_bump_iff {decimal : String → String} {t t' : LedgerTable}
    {tr : List (Event (Statement Moment OrderKey OrderSyncLogDb) fun _ => List OrderSyncLogDb)}
    {returned : OrderSyncLog} (hkey : row.orderKey = key)
    (hconnection : env.connectionId = key.connectionId) (hgid : env.orderGid = key.shopifyOrderGid)
    (hrow : (t key).map OrderSyncLogDb.toRow = some row)
    (hexec : Exec Sql.Step (upsert decimal ((env.bump row.status n).input key.environment)).run t tr
      (.ok returned) t') :
    (t' key).map OrderSyncLogDb.toRow = some (row.bumped n returned.updatedAt) ↔ row.Bare := by
  obtain ⟨m, hreturned, rfl⟩ := upsert_exec hexec
  obtain ⟨found, hfound, rfl⟩ := Option.map_eq_some_iff.mp hrow
  rw [orderKey_bump hconnection hgid, hfound] at hreturned ⊢
  obtain rfl := Except.ok.inj hreturned
  have hfoundGid : env.orderGid = found.shopifyOrderGid := by
    rw [hgid, ← hkey]
    rfl
  rw [Function.update_self, Option.map_some, Option.some_inj]
  exact bump_postgres_iff hfoundGid

/-- An upsert of the bump only bumps the row if and only if there is nothing that it takes. -/
theorem upserts_bump_iff (implementation : LedgerImplementation)
    {store store' : implementation.ledger.State} (hkey : row.orderKey = key)
    (hconnection : env.connectionId = key.connectionId) (hgid : env.orderGid = key.shopifyOrderGid)
    (hrow : implementation.ledger.find store key = some row)
    (h : implementation.ledger.Upserts store ((env.bump row.status n).input key.environment) now
      store') :
    implementation.ledger.find store' key = some (row.bumped n now) ↔ implementation.Bare row n := by
  cases implementation with
  | memory =>
    obtain rfl : store' = InMemoryOrderSyncLogStore.upsert store _ now := h
    exact find_upsert_bump_iff hkey hconnection hgid hrow
  | postgres decimal =>
    obtain ⟨tr, returned, hexec, rfl⟩ := h
    exact select_upsert_bump_iff hkey hconnection hgid hrow hexec

/-- A dead letter only bumps the row of its order if and only if the handler gets to the bump and
there is nothing in the row that the bump takes. -/
theorem bumpsOnly_iff (implementation : LedgerImplementation) {deps : DlqHandlerDeps}
    {connections : String → String → Option Connection} {message : Js.Value} {context : DlqContext}
    {store : implementation.ledger.State} {w' : DlqWorld implementation.ledger} {tr : List DlqEv}
    {res : Except Thrown DlqOutcome} (hparse : parseEnvelope message = .ok env)
    (henvironment : env.environment = row.environment.text)
    (hconnection : env.connectionId = row.connectionId) (hgid : env.orderGid = row.shopifyOrderGid)
    (hcount : context.deliveryCount = some n) (hn : 0 < n)
    (hrow : implementation.ledger.find store row.orderKey = some row)
    (h : Exec (DlqStep implementation.ledger connections)
      (handleDeadLetteredOrder deps message context).run { store } tr res w') :
    BumpsOnly implementation.ledger row.orderKey row n w' ↔
      Bumps deps connections env ∧ implementation.Bare row n := by
  obtain ⟨hbumps, now, hupsert, hwrites⟩ | ⟨hnot, rfl⟩ :=
    handleDeadLetteredOrder_writes hparse henvironment hconnection hgid hcount hn hrow h
  · have hiff := upserts_bump_iff implementation rfl hconnection hgid hrow hupsert
    rw [List.nil_append] at hwrites
    constructor
    · rintro ⟨now', hmem, hfind⟩
      rw [hwrites, List.mem_singleton] at hmem
      subst hmem
      exact ⟨hbumps, hiff.mp hfind⟩
    · rintro ⟨_, hbare⟩
      exact ⟨now, by rw [hwrites]; exact List.mem_singleton_self _, hiff.mpr hbare⟩
  · refine ⟨?_, fun hcond => absurd hcond.1 hnot⟩
    rintro ⟨now, hmem, _⟩
    cases hmem

end Rows

namespace Shop

/-- The ledger with the order of the message parked, after three deliveries. -/
def parkedLedger : InMemoryOrderSyncLogStore :=
  InMemoryOrderSyncLogStore.empty.upsert
    { (⟨"dev", "conn-a", order.id, "1", .parked, 3, 3⟩ : LedgerBump).input .dev with
      parkStage := some "external_call" } 1000

/-- The row of the parked order. -/
def parkedRow : OrderSyncLog :=
  { (⟨"dev", "conn-a", order.id, "1", .parked, 3, 3⟩ : LedgerBump).input .dev with
    parkStage := some "external_call"
    id := "log_00000001"
    createdAt := 1000
    updatedAt := 1000 }

/-- Stores that are up, with the ledger in memory. -/
def serveDlq (o : DlqOp) (w : DlqWorld LedgerImplementation.memory.ledger) :
    o.Resp × DlqWorld LedgerImplementation.memory.ledger :=
  match o with
  | .io (.findConnection ..) => (.ok (some connection), w)
  | .io (.recordError _) => (.ok "err_00000001", w)
  | .io (.updateStatus ..) => (.ok (), w)
  | .io (.recordAttempt _) => (.ok (), w)
  | .io (.findByOrderGid environment connectionId shopifyOrderGid) =>
    (.ok ((Environment.ofText? environment).bind fun environment =>
      InMemoryOrderSyncLogStore.findByOrderGid w.store
        ⟨environment, connectionId, shopifyOrderGid⟩), w)
  | .io (.upsertSyncLog bump) =>
    match Environment.ofText? bump.environment with
    | some environment =>
      (.ok (), ⟨InMemoryOrderSyncLogStore.upsert w.store (bump.input environment) 2000,
        w.writes ++ [2000]⟩)
    | none => (.ok (), w)
  | .clock => ((2000 : ℤ), w)

theorem serveDlq_step (o : DlqOp) (w : DlqWorld LedgerImplementation.memory.ledger) :
    DlqStep LedgerImplementation.memory.ledger (fun _ _ => some connection) o w (serveDlq o w).1
      (serveDlq o w).2 := by
  cases o with
  | clock => rfl
  | io c =>
    cases c with
    | findConnection | findByOrderGid => exact ⟨rfl, rfl⟩
    | recordError | updateStatus | recordAttempt => exact ⟨⟨_, rfl⟩, rfl⟩
    | upsertSyncLog bump =>
      unfold serveDlq
      dsimp only
      cases henv : Environment.ofText? bump.environment with
      | none =>
        refine ⟨rfl, fun environment heq => ?_⟩
        rw [heq, Environment.ofText?_text] at henv
        cases henv
      | some found =>
        refine ⟨rfl, fun environment heq => ?_⟩
        rw [heq, Environment.ofText?_text] at henv
        obtain rfl := Option.some.inj henv
        exact ⟨2000, rfl, rfl⟩

/-- The dead letter of the parked order, after ten deliveries. -/
def deadLetter : DlqAsync DlqOutcome :=
  handleDeadLetteredOrder dlqDeps (message none "orders/create").toJs ⟨none, none, some 10⟩

theorem deadLetter_exec : ∃ tr res w', Exec
    (DlqStep LedgerImplementation.memory.ledger fun _ _ => some connection) deadLetter.run
    { store := parkedLedger } tr res w' :=
  ⟨_, _, _, Prog.exec_execute serveDlq_step _ _⟩

/-- The envelope of the message. -/
theorem exists_envelope : ∃ env, parseEnvelope (message none "orders/create").toJs = .ok env ∧
    env.environment = parkedRow.environment.text ∧ env.connectionId = parkedRow.connectionId ∧
    env.orderGid = parkedRow.shopifyOrderGid := by
  refine ⟨_, rfl, ?_⟩
  decide +kernel

theorem find_parkedLedger :
    LedgerImplementation.memory.ledger.find parkedLedger parkedRow.orderKey = some parkedRow := by
  have hfind : parkedLedger.findByOrderGid parkedRow.orderKey = some parkedRow := by decide +kernel
  exact hfind

theorem bumpsOnly_iff_deadLetter : ∃ env w',
    parseEnvelope (message none "orders/create").toJs = .ok env ∧
    (BumpsOnly LedgerImplementation.memory.ledger parkedRow.orderKey parkedRow 10 w' ↔
      Bumps dlqDeps (fun _ _ => some connection) env ∧
        LedgerImplementation.memory.Bare parkedRow 10) := by
  obtain ⟨env, hparse, henvironment, hconnection, hgid⟩ := exists_envelope
  obtain ⟨tr, res, w', hexec⟩ := deadLetter_exec
  exact ⟨env, w', hparse, bumpsOnly_iff .memory hparse henvironment hconnection hgid rfl (by decide)
    find_parkedLedger hexec⟩

/-- A dead letter takes the park stage from the row of a parked order. -/
theorem deadLetter_takes : ¬∀ (implementation : LedgerImplementation) (deps : DlqHandlerDeps)
    (connections : String → String → Option Connection) (message : Js.Value) (context : DlqContext)
    (store : implementation.ledger.State) (w' : DlqWorld implementation.ledger) (tr : List DlqEv)
    (res : Except Thrown DlqOutcome) (env : DlqEnvelope) (row : OrderSyncLog) (n : ℕ),
    parseEnvelope message = .ok env → env.environment = row.environment.text →
    env.connectionId = row.connectionId → env.orderGid = row.shopifyOrderGid →
    context.deliveryCount = some n → 0 < n →
    implementation.ledger.find store row.orderKey = some row →
    Exec (DlqStep implementation.ledger connections)
      (handleDeadLetteredOrder deps message context).run { store } tr res w' →
    Bumps deps connections env → BumpsOnly implementation.ledger row.orderKey row n w' := by
  intro hall
  obtain ⟨env, hparse, henvironment, hconnection, hgid⟩ := exists_envelope
  obtain ⟨tr, res, w', hexec⟩ := deadLetter_exec
  have hdedup : ∀ e, parseEnvelope (message none "orders/create").toJs = .ok e →
      ∃ dedup, e.dedupKey = .ok dedup := by
    intro e he
    obtain rfl := Except.ok.inj he
    exact ⟨_, rfl⟩
  have hbumps : Bumps dlqDeps (fun _ _ => some connection) env :=
    ⟨rfl, rfl, rfl, hdedup env hparse⟩
  obtain ⟨now, hmem, hfind⟩ := hall .memory dlqDeps _ _ _ parkedLedger w' tr res env parkedRow 10
    hparse henvironment hconnection hgid rfl (by decide) find_parkedLedger hexec hbumps
  obtain ⟨_, now', hupsert, hwrites⟩ | ⟨hnot, _⟩ := handleDeadLetteredOrder_writes hparse henvironment
    hconnection hgid rfl (by decide) find_parkedLedger hexec
  · rw [hwrites, List.nil_append, List.mem_singleton] at hmem
    subst hmem
    have hbare := (upserts_bump_iff .memory rfl hconnection hgid find_parkedLedger
      hupsert).mp hfind
    have hnone := hbare.outcome (some "external_call") (by decide)
    cases hnone
  · exact hnot hbumps

end Shop

end DpIntegrator
