import DpIntegrator.Postgres.OrderSyncLogStore
import DpIntegrator.Functions.DeadLetter
import DpIntegrator.Delivery.CallsMade
import DpIntegrator.Delivery.AfterImport
import Mathlib.Data.List.Induction

/-!
# The shape of the ledger rows

The table is written by deliveries, with the fields of one outcome, and by the dead-letter
handler, with a status and counts only. A row has the shape of its status, and the fields of
the last outcome, as long as no dead letter finds a row and no order that was imported parks
or is ignored later.
-/

namespace DpIntegrator

open Effects Sql PostgresOrderSyncLogStore

variable {decimal : String → String}

/-! ## Writes -/

/-- The ledger input of a dead letter, whose environment is `environment`. -/
def LedgerBump.input (bump : LedgerBump) (environment : Environment) : OrderSyncLogInput where
  environment
  connectionId := bump.connectionId
  shopifyOrderGid := bump.shopifyOrderGid
  shopifyOrderId := bump.shopifyOrderId
  shopifyOrderName := none
  shopifyCreatedAt := none
  shopifyProcessedAt := none
  shopifyUpdatedAt := none
  customerEmail := none
  currencyCode := none
  totalPrice := none
  subtotalPrice := none
  totalTax := none
  totalDiscounts := none
  totalShipping := none
  status := bump.status
  nsAccountId := none
  nsRecordType := none
  nsInternalId := none
  nsTranId := none
  parkStage := none
  parkDetail := none
  parkErrorClass := none
  ignoredReason := none
  syncedAt := none
  attemptCount := some bump.attemptCount
  lastDeliveryCount := some bump.lastDeliveryCount
  lastOutboundPayloadUri := none
  lastInboundEnvelopeUri := none

/-- A row that was written to the ledger, by a delivery or by the dead-letter handler. -/
inductive LedgerWrite
  | outcome (input : OrderSyncLogInput)
  | bump (dead : LedgerBump) (environment : Environment)
  deriving DecidableEq

def LedgerWrite.input : LedgerWrite → OrderSyncLogInput
  | outcome input => input
  | bump dead environment => dead.input environment

/-- The input of an outcome. -/
def LedgerWrite.outcome? : LedgerWrite → Option OrderSyncLogInput
  | outcome input => some input
  | bump .. => none

/-- The ledger row that an answered call wrote. -/
def ledgerWrite : Ev → Option LedgerWrite
  | ⟨.io (.upsertSyncLog input), .ok _⟩ => some (.outcome input)
  | _ => none

/-- The ledger row that an answered call of the dead-letter handler wrote; the table takes the
environments that there are. -/
def dlqWrite : DlqEv → Option LedgerWrite
  | ⟨.io (.upsertSyncLog bump), .ok _⟩ =>
    (Environment.ofText? bump.environment).map fun environment => .bump bump environment
  | _ => none

/-- What a delivery, a replay or a dead letter wrote to the ledger, however its calls were
answered. -/
inductive WritesLedger : List LedgerWrite → Prop
  | delivery {deps : OrderHandlerDeps} {message : Js.Value} {attemptCtx : Option AttemptContext}
      {tr : List Ev} {res : Except Thrown OrderHandlerOutcome}
      (h : Settles (handleOrderMessage deps message attemptCtx) tr res) :
      WritesLedger (tr.filterMap ledgerWrite)
  | replay {req : ReplayRequest} {tr : List Ev} {res : Except Thrown ReplayOutcome}
      (h : Settles (requestReplay req) tr res) : WritesLedger (tr.filterMap ledgerWrite)
  | deadLetter {deps : DlqHandlerDeps} {message : Js.Value} {context : DlqContext}
      {tr : List DlqEv} {res : Except Thrown DlqOutcome}
      (h : Settles (handleDeadLetteredOrder deps message context) tr res) :
      WritesLedger (tr.filterMap dlqWrite)

/-- The table after the writes, one after another. -/
inductive StoredAs (decimal : String → String) : List LedgerWrite → LedgerTable → Prop
  | start : StoredAs decimal [] fun _ => none
  | write {writes : List LedgerWrite} {t : LedgerTable} (h : StoredAs decimal writes t)
      (w : LedgerWrite) {res : Except Thrown OrderSyncLog} {t' : LedgerTable}
      {tr : List (Event (Statement Moment OrderKey OrderSyncLogDb) fun _ => List OrderSyncLogDb)}
      (hexec : Exec Sql.Step (upsert decimal w.input).run t tr res t') :
      StoredAs decimal (writes ++ [w]) t'

/-! ## Outcomes -/

/-- An input has the fields of one outcome, and of no other. -/
inductive HasOutcome (input : OrderSyncLogInput) : Prop
  | imported (hstatus : input.status = .imported) (hinternal : input.nsInternalId.isSome)
      (haccount : input.nsAccountId.isSome) (hrecord : input.nsRecordType.isSome)
      (hsynced : input.syncedAt.isSome) (htran : input.nsTranId = none)
      (hpark : input.parkStage = none) (hignored : input.ignoredReason = none)
  | parked (hstatus : input.status = .parked) (hinternal : input.nsInternalId = none)
      (hsynced : input.syncedAt = none) (htran : input.nsTranId = none)
      (hpark : input.parkStage.isSome) (hignored : input.ignoredReason = none)
  | ignored (hstatus : input.status = .ignored) (hinternal : input.nsInternalId = none)
      (hsynced : input.syncedAt = none) (htran : input.nsTranId = none)
      (hpark : input.parkStage = none) (hignored : input.ignoredReason.isSome)

theorem hasOutcome_of_ledgerShape {d : Delivery} {shape : SyncLogShape} (h : LedgerShape d shape) :
    HasOutcome (d.syncLogInput shape) := by
  cases h with
  | imported => exact .imported rfl rfl rfl rfl rfl rfl rfl rfl
  | parked => exact .parked rfl rfl rfl rfl rfl rfl
  | ineligible | update => exact .ignored rfl rfl rfl rfl rfl rfl

/-- A replay writes no ledger row. -/
theorem issues_requestReplay (req : ReplayRequest) :
    Issues (fun ev => ledgerWrite ev = none) (requestReplay req) := by
  have hpublish (connection : Connection) (existing : Option XrefRow) :
      Issues (fun ev => ledgerWrite ev = none) (republish req connection existing) := by
    refine Issues.bind (.observe fun _ => rfl) fun _ => ?_
    exact (issues_io fun _ => rfl).bind fun _ => .pure _
  refine (issues_io fun _ => rfl).bind fun found => ?_
  cases found with
  | none => exact .pure _
  | some connection =>
    refine (issues_io fun _ => rfl).bind fun existing => ?_
    cases existing with
    | none => exact hpublish _ _
    | some existing =>
      dsimp only
      split
      · exact .pure _
      · exact (issues_io fun _ => rfl).bind fun _ => hpublish _ _

/-- Every outcome among the writes is one. -/
theorem WritesLedger.hasOutcome {writes : List LedgerWrite} (h : WritesLedger writes)
    {input : OrderSyncLogInput} (hmem : .outcome input ∈ writes) : HasOutcome input := by
  cases h with
  | delivery h =>
    obtain ⟨ev, hev, hwrite⟩ := List.mem_filterMap.mp hmem
    unfold ledgerWrite at hwrite
    split at hwrite
    · next input' u =>
      obtain rfl : input' = input := LedgerWrite.outcome.inj (Option.some.inj hwrite)
      cases handlerRun_of_settles h with
      | rejected ht =>
        obtain rfl | ⟨id, r, rfl, _⟩ := ht
        · cases hev
        · cases List.mem_singleton.mp hev
      | failed => cases List.mem_singleton.mp hev
      | delivered _ _ _ hdeliver =>
        obtain heq | hev := List.mem_cons.mp hev
        · cases heq
        · cases makes_deliver _ _ hdeliver _ hev _ _ rfl with
          | ledger hshape => exact hasOutcome_of_ledgerShape hshape
          | prepare hprep => cases hprep
    · cases hwrite
  | replay h =>
    obtain ⟨ev, hev, hwrite⟩ := List.mem_filterMap.mp hmem
    rw [issues_requestReplay _ _ _ h ev hev] at hwrite
    cases hwrite
  | deadLetter h =>
    obtain ⟨ev, _, hwrite⟩ := List.mem_filterMap.mp hmem
    unfold dlqWrite at hwrite
    split at hwrite
    · obtain ⟨_, _, heq⟩ := Option.map_eq_some_iff.mp hwrite
      cases heq
    · cases hwrite

/-! ## Rows -/

/-- What a row says about the outcome of its order: everything but its id, its times, and the
telemetry of its deliveries. -/
def OrderSyncLogDb.outcome (row : OrderSyncLogDb) : OrderSyncLogDb :=
  { row with
    id := 0
    createdAt := 0
    updatedAt := 0
    attemptCount := 0
    lastDeliveryCount := none
    lastOutboundPayloadUri := none
    lastInboundEnvelopeUri := none }

/-- A row has the fields of its status. -/
structure Shaped (row : OrderSyncLogDb) : Prop where
  imported : row.status = .imported ↔ row.nsInternalId.isSome ∧ row.nsAccountId.isSome ∧
    row.nsRecordType.isSome ∧ row.syncedAt.isSome
  parked : row.status = .parked ↔ row.parkStage.isSome
  ignored : row.status = .ignored ↔ row.ignoredReason.isSome

/-- `input` is the last outcome that was written for the order `key`. -/
def LastOutcome (writes : List LedgerWrite) (key : OrderKey) (input : OrderSyncLogInput) : Prop :=
  ((writes.filterMap LedgerWrite.outcome?).filter (·.orderKey = key)).getLast? = some input

/-- Every row has the shape of its status, and tells the last outcome that was written for
its order. -/
def TellsOutcomes (decimal : String → String) (writes : List LedgerWrite) (t : LedgerTable) : Prop :=
  ∀ key row, t key = some row → Shaped row ∧
    ∃ input, LastOutcome writes key input ∧ ∀ m, row.outcome = (insertedRow decimal input m).outcome

/-- A write keeps the rows telling the last outcomes: it is of an import, or of an outcome
that finds no time of an import. -/
def LedgerWrite.Tells (t : LedgerTable) : LedgerWrite → Prop
  | outcome input => input.status = .imported ∨ ∀ row ∈ t input.orderKey, row.syncedAt = none
  | bump .. => False

theorem HasOutcome.shaped {input : OrderSyncLogInput} (h : HasOutcome input) {row : OrderSyncLogDb}
    {m : Moment} (hrow : row.outcome = (insertedRow decimal input m).outcome) : Shaped row := by
  have hstatus : row.status = input.status := congrArg OrderSyncLogDb.status hrow
  have hinternal : row.nsInternalId = input.nsInternalId := congrArg OrderSyncLogDb.nsInternalId hrow
  have haccount : row.nsAccountId = input.nsAccountId := congrArg OrderSyncLogDb.nsAccountId hrow
  have hrecord : row.nsRecordType = input.nsRecordType := congrArg OrderSyncLogDb.nsRecordType hrow
  have hsynced : row.syncedAt = input.syncedAt := congrArg OrderSyncLogDb.syncedAt hrow
  have hpark : row.parkStage = input.parkStage := congrArg OrderSyncLogDb.parkStage hrow
  have hignored : row.ignoredReason = input.ignoredReason := congrArg OrderSyncLogDb.ignoredReason hrow
  constructor
  all_goals rw [hstatus]
  · rw [hinternal, haccount, hrecord, hsynced]
    cases h with
    | imported => simp [*]
    | parked | ignored => simp [*]
  · rw [hpark]
    cases h with
    | imported | parked | ignored => simp [*]
  · rw [hignored]
    cases h with
    | imported | parked | ignored => simp [*]

section LastOutcome

variable {writes : List LedgerWrite} {key : OrderKey} {input input' : OrderSyncLogInput}

theorem LastOutcome.mem (h : LastOutcome writes key input) :
    .outcome input ∈ writes ∧ input.orderKey = key := by
  obtain ⟨hmem, hkey⟩ := List.mem_filter.mp (List.mem_of_getLast? h)
  obtain ⟨w, hw, hinput⟩ := List.mem_filterMap.mp hmem
  cases w with
  | outcome input' =>
    obtain rfl : input' = input := Option.some.inj hinput
    exact ⟨hw, by simpa using hkey⟩
  | bump => cases hinput

theorem lastOutcome_concat : LastOutcome (writes ++ [.outcome input]) input.orderKey input := by
  simp [LastOutcome, LedgerWrite.outcome?]

theorem lastOutcome_concat_of_ne (hkey : input.orderKey ≠ key) :
    LastOutcome (writes ++ [.outcome input]) key input' ↔ LastOutcome writes key input' := by
  simp [LastOutcome, LedgerWrite.outcome?, hkey]

theorem lastOutcome_concat_bump {dead : LedgerBump} {environment : Environment} :
    LastOutcome (writes ++ [.bump dead environment]) key input ↔ LastOutcome writes key input := by
  unfold LastOutcome
  rw [List.filterMap_append, List.filterMap_cons_none rfl, List.filterMap_nil, List.append_nil]

theorem LastOutcome.unique (h : LastOutcome writes key input) (h' : LastOutcome writes key input') :
    input = input' := Option.some.inj (h.symm.trans h')

end LastOutcome

/-! ## One write -/

section Write

variable {writes : List LedgerWrite} {t : LedgerTable} {input : OrderSyncLogInput} {m : Moment}

/-- A row without a time of an import, or that an import writes, tells the new outcome, and no
other does. -/
theorem outcome_written_iff {old : Option OrderSyncLogDb} (h : HasOutcome input)
    (hkey : ∀ row ∈ old, orderKey row = input.orderKey) (htran : ∀ row ∈ old, row.nsTranId = none) :
    (∀ m', (written decimal input m old).outcome = (insertedRow decimal input m').outcome) ↔
      input.status = .imported ∨ ∀ row ∈ old, row.syncedAt = none := by
  cases old with
  | none => simp [written, OrderSyncLogDb.outcome, insertedRow]
  | some row =>
    have hrow := hkey row rfl
    have htran := htran row rfl
    simp only [orderKey, OrderSyncLogInput.orderKey, OrderKey.mk.injEq] at hrow
    constructor
    · intro heq
      have hsynced : input.syncedAt.or row.syncedAt = input.syncedAt :=
        congrArg OrderSyncLogDb.syncedAt (heq m)
      cases h with
      | imported hstatus => exact .inl hstatus
      | parked _ _ hnone | ignored _ _ hnone =>
        rw [hnone, Option.none_or] at hsynced
        exact .inr (by simpa using hsynced)
    · intro hcond m'
      have hsynced : input.syncedAt.or row.syncedAt = input.syncedAt := by
        obtain hstatus | hnone := hcond
        · cases h with
          | imported _ _ _ _ hsome =>
            obtain ⟨at_, hat⟩ := Option.isSome_iff_exists.mp hsome
            rw [hat, Option.some_or]
          | parked hparked => exact absurd (hstatus.symm.trans hparked) (by decide)
          | ignored hignored => exact absurd (hstatus.symm.trans hignored) (by decide)
        · rw [hnone row rfl, Option.or_none]
      have htran' : input.nsTranId = none := by
        cases h with
        | imported | parked | ignored => assumption
      simp [written, conflictRow, insertedRow, OrderSyncLogDb.outcome, hrow, htran, htran', hsynced]

/-- A row that tells an outcome is about its order, and has no transaction id. -/
theorem TellsOutcomes.row (h : TellsOutcomes decimal writes t)
    (houtcomes : ∀ input, .outcome input ∈ writes → HasOutcome input) (key : OrderKey) :
    ∀ row ∈ t key, orderKey row = key ∧ row.nsTranId = none := by
  intro row hrow
  obtain ⟨_, input, hlast, heq⟩ := h key row hrow
  obtain ⟨hmem, hkey⟩ := hlast.mem
  have heq := heq ⟨0, 0⟩
  have hrowKey : orderKey row.outcome = orderKey (insertedRow decimal input ⟨0, 0⟩).outcome :=
    congrArg orderKey heq
  have htran : row.nsTranId = input.nsTranId := congrArg OrderSyncLogDb.nsTranId heq
  refine ⟨hrowKey.trans hkey, htran.trans ?_⟩
  cases houtcomes input hmem with
  | imported | parked | ignored => assumption

/-- The fields that a dead letter leaves belong to no outcome. -/
theorem bump_not_outcome {dead : LedgerBump} {environment : Environment} {old : Option OrderSyncLogDb}
    (h : HasOutcome input) : (written decimal (dead.input environment) m old).outcome ≠
      (insertedRow decimal input m).outcome := by
  intro heq
  have hinternal := congrArg OrderSyncLogDb.nsInternalId heq
  have hpark := congrArg OrderSyncLogDb.parkStage heq
  have hignored := congrArg OrderSyncLogDb.ignoredReason heq
  have hnone : (written decimal (dead.input environment) m old).nsInternalId = none ∧
      (written decimal (dead.input environment) m old).parkStage = none ∧
      (written decimal (dead.input environment) m old).ignoredReason = none := by
    cases old with
    | none | some row => exact ⟨rfl, rfl, rfl⟩
  cases h with
  | imported _ hsome =>
    rw [← show none = input.nsInternalId from hnone.1.symm.trans hinternal] at hsome
    cases hsome
  | parked _ _ _ _ hsome =>
    rw [← show none = input.parkStage from hnone.2.1.symm.trans hpark] at hsome
    cases hsome
  | ignored _ _ _ _ _ hsome =>
    rw [← show none = input.ignoredReason from hnone.2.2.symm.trans hignored] at hsome
    cases hsome

/-- After one more write the rows tell the last outcomes if and only if the write keeps them
so. -/
theorem tellsOutcomes_concat_iff (h : TellsOutcomes decimal writes t) (w : LedgerWrite)
    (houtcomes : ∀ input, .outcome input ∈ writes ++ [w] → HasOutcome input) :
    TellsOutcomes decimal (writes ++ [w]) (Function.update t w.input.orderKey
      (some (written decimal w.input m (t w.input.orderKey)))) ↔ w.Tells t := by
  have hrows := h.row fun input hinput => houtcomes input (List.mem_append_left _ hinput)
  cases w with
  | bump dead environment =>
    refine ⟨fun htells => ?_, False.elim⟩
    obtain ⟨_, input, hlast, heq⟩ := htells _ _ (Function.update_self ..)
    have hmem := (lastOutcome_concat_bump.mp hlast).mem.1
    exact bump_not_outcome (houtcomes input (List.mem_append_left _ hmem)) (heq m)
  | outcome input =>
    have hinput := houtcomes input (by simp)
    have hiff : (∀ m', (written decimal input m (t input.orderKey)).outcome =
        (insertedRow decimal input m').outcome) ↔
        input.status = .imported ∨ ∀ row ∈ t input.orderKey, row.syncedAt = none :=
      outcome_written_iff hinput (fun row hrow => (hrows _ row hrow).1)
        fun row hrow => (hrows _ row hrow).2
    refine Iff.trans ⟨fun htells => ?_, fun heq key row hrow => ?_⟩ hiff
    · obtain ⟨_, input', hlast, heq⟩ := htells _ _ (Function.update_self ..)
      obtain rfl : input' = input := hlast.unique lastOutcome_concat
      exact heq
    · by_cases hkey : key = input.orderKey
      · subst hkey
        have hrow : Function.update t input.orderKey _ input.orderKey = some row := hrow
        rw [Function.update_self] at hrow
        obtain rfl := Option.some.inj hrow
        exact ⟨hinput.shaped (heq m), input, lastOutcome_concat, heq⟩
      · have hrow : Function.update t input.orderKey _ key = some row := hrow
        rw [Function.update_of_ne hkey] at hrow
        obtain ⟨hshaped, input', hlast, heq'⟩ := h key row hrow
        exact ⟨hshaped, input', (lastOutcome_concat_of_ne (Ne.symm hkey)).mpr hlast, heq'⟩

end Write

/-! ## Runs -/

/-- In every run of deliveries, replays and dead letters, the rows tell the last outcomes
after every write if and only if every write keeps them so. -/
theorem ledger_shape_iff {acts : List (List LedgerWrite)} (hacts : ∀ writes ∈ acts, WritesLedger writes) :
    (∀ writes t, writes <+: acts.flatten → StoredAs decimal writes t → TellsOutcomes decimal writes t) ↔
      ∀ writes w t, writes ++ [w] <+: acts.flatten → StoredAs decimal writes t → w.Tells t := by
  have houtcomes {writes : List LedgerWrite} (hfront : writes <+: acts.flatten)
      (input : OrderSyncLogInput) (hinput : .outcome input ∈ writes) : HasOutcome input := by
    obtain ⟨act, hact, hmem⟩ := List.mem_flatten.mp (hfront.subset hinput)
    exact (hacts act hact).hasOutcome hmem
  constructor
  · intro htells writes w t hfront hstored
    obtain ⟨_, _, hexec⟩ := exists_exec_upsert decimal w.input t ⟨0, 0⟩
    have hbefore := htells writes t ((List.prefix_append ..).trans hfront) hstored
    have hafter := htells _ _ hfront (hstored.write w hexec)
    exact (tellsOutcomes_concat_iff hbefore w (houtcomes hfront)).mp hafter
  · intro hkeeps writes t hfront hstored
    induction hstored with
    | start =>
      intro key row hrow
      cases hrow
    | write hstored w hexec ih =>
      obtain ⟨m, _, rfl⟩ := upsert_exec hexec
      have hbefore := ih ((List.prefix_append ..).trans hfront)
      exact (tellsOutcomes_concat_iff hbefore w (houtcomes hfront)).mpr
        (hkeeps _ w _ hfront hstored)

/-! ## An import, and a dead letter of the same order -/

/-- Writes can follow one another. -/
theorem StoredAs.exists_write {writes : List LedgerWrite} {t : LedgerTable}
    (h : StoredAs decimal writes t) (w : LedgerWrite) : ∃ m, StoredAs decimal (writes ++ [w])
      (Function.update t w.input.orderKey
        (some (written decimal w.input m (t w.input.orderKey)))) := by
  obtain ⟨_, _, hexec⟩ := exists_exec_upsert decimal w.input t ⟨0, 0⟩
  exact ⟨⟨0, 0⟩, h.write w hexec⟩

theorem exists_stored (decimal : String → String) (writes : List LedgerWrite) :
    ∃ t, StoredAs decimal writes t := by
  induction writes using List.reverseRecOn with
  | nil => exact ⟨_, .start⟩
  | append_singleton writes w ih =>
    obtain ⟨t, h⟩ := ih
    obtain ⟨_, h⟩ := h.exists_write w
    exact ⟨_, h⟩

namespace Shop

/-- What the delivery of the creation of the order writes. -/
def importWrites : List LedgerWrite := (handled up).1.1.filterMap ledgerWrite

theorem importWrites_writes : WritesLedger importWrites := by
  have hsettles : Settles (handleOrderMessage deps (message none "orders/create").toJs
      order1.attemptCtx) (handled up).1.1 (handled up).1.2 := (handled_performs up).runs
  exact .delivery hsettles

theorem importWrites_imported :
    importWrites.map (fun w => w.outcome?.map (·.status)) = [some .imported] := by
  decide +kernel

def dlqDeps : DlqHandlerDeps where
  environment := .dev
  errorStore := true
  orderAttemptStore := true
  orderSyncLog := true

/-- The ledger row of the imported order. -/
def importedWrite : Option OrderSyncLog :=
  importWrites.head?.map fun w =>
    (written id w.input ⟨1000, 1⟩ none).toRow

/-- Stores that are up, with the ledger row of the import. -/
def dlqAnswers : (o : DlqOp) → o.Resp
  | .io (.findConnection ..) => .ok (some connection)
  | .io (.recordError _) => .ok "err_00000001"
  | .io (.updateStatus ..) => .ok ()
  | .io (.recordAttempt _) => .ok ()
  | .io (.findByOrderGid ..) => .ok importedWrite
  | .io (.upsertSyncLog _) => .ok ()
  | .clock => (2000 : ℤ)

/-- What the dead letter of a message about the order writes, after ten deliveries. -/
def deadLetterWrites : List LedgerWrite :=
  ((handleDeadLetteredOrder dlqDeps (message none "orders/create").toJs
    ⟨none, none, some 10⟩).run.eval dlqAnswers).1.filterMap dlqWrite

theorem deadLetterWrites_writes : WritesLedger deadLetterWrites :=
  .deadLetter (Prog.runs_eval dlqAnswers _)

theorem deadLetterWrites_eq : deadLetterWrites =
    [.bump ⟨"dev", "conn-a", order.id, "1", .imported, 10, 10⟩ .dev] := by
  decide +kernel

end Shop

/-- After the import alone the rows tell it. -/
theorem import_told : ∃ t, StoredAs id Shop.importWrites t ∧ TellsOutcomes id Shop.importWrites t := by
  obtain ⟨t, h⟩ := exists_stored id Shop.importWrites
  have hacts : ∀ writes ∈ [Shop.importWrites], WritesLedger writes := by
    simpa using Shop.importWrites_writes
  refine ⟨t, h, (ledger_shape_iff hacts).mpr ?_ Shop.importWrites t (by simp) h⟩
  intro writes w t hfront _
  have hmem : w ∈ Shop.importWrites := by simpa using hfront.subset (by simp)
  have hstatus : w.outcome?.map (·.status) ∈
      Shop.importWrites.map fun w => w.outcome?.map (·.status) := List.mem_map_of_mem hmem
  rw [Shop.importWrites_imported, List.mem_singleton] at hstatus
  cases w with
  | outcome input => exact .inl (Option.some.inj hstatus)
  | bump dead environment => cases hstatus

/-- A dead letter takes the NetSuite record from the row of an imported order. -/
theorem bumped_import : (∀ writes ∈ [Shop.importWrites, Shop.deadLetterWrites], WritesLedger writes) ∧
    ∃ t row, StoredAs id [Shop.importWrites, Shop.deadLetterWrites].flatten t ∧
      t ⟨.dev, "conn-a", Shop.order.id⟩ = some row ∧ row.status = .imported ∧
      row.nsInternalId = none := by
  constructor
  · simpa using ⟨Shop.importWrites_writes, Shop.deadLetterWrites_writes⟩
  · obtain ⟨t, h⟩ := exists_stored id Shop.importWrites
    obtain ⟨m, h⟩ := h.exists_write (.bump ⟨"dev", "conn-a", Shop.order.id, "1", .imported, 10, 10⟩ .dev)
    have hflatten : [Shop.importWrites, Shop.deadLetterWrites].flatten = Shop.importWrites ++
        [.bump ⟨"dev", "conn-a", Shop.order.id, "1", .imported, 10, 10⟩ .dev] := by
      simp [Shop.deadLetterWrites_eq]
    refine ⟨_, _, hflatten ▸ h, Function.update_self .., ?_⟩
    generalize t _ = old
    cases old with
    | none | some row => exact ⟨rfl, rfl⟩

end DpIntegrator
