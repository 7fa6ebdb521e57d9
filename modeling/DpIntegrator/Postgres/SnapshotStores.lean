import DpIntegrator.Calls
import DpIntegrator.Core.Keys
import DpIntegrator.Js.Map
import DpIntegrator.Sql.Table

/-!
# The snapshots of reconciled days

The stores of the reconciliation, in memory and in Postgres. Both keep one snapshot for each day of
a connection: a later one overwrites it, and keeps the time at which the first one was created.
`decimal` and `jsonb` are what the columns of these types give back for what is written to them.
-/

namespace DpIntegrator

open Effects Sql

/-- The day of a connection that a snapshot is about. -/
structure SnapshotKey where
  environment : Environment
  connectionId : String
  businessDate : String
  deriving DecidableEq

def ReconciliationSnapshotInput.key (input : ReconciliationSnapshotInput) : SnapshotKey where
  environment := input.environment
  connectionId := input.connectionId
  businessDate := input.businessDate

/-- `key`: the text under which the snapshot of a day is kept. -/
def SnapshotKey.text (key : SnapshotKey) : String :=
  key.environment.text ++ "|" ++ key.connectionId ++ "|" ++ key.businessDate

/-- Whatever the ids of connections are, days are kept under different texts, if their dates have
no bars. -/
theorem SnapshotKey.text_inj {key key' : SnapshotKey} (hdate : '|' ∉ key.businessDate.toList)
    (hdate' : '|' ∉ key'.businessDate.toList) (h : key.text = key'.text) : key = key' := by
  have hchars := congrArg String.toList h
  have hbar : "|".toList = ['|'] := rfl
  simp only [text, String.toList_append, hbar] at hchars
  have hname (e : Environment) : '|' ∉ e.text.toList := by cases e <;> decide
  have hdates := Js.append_singleton_append_inj hdate hdate' hchars
  rw [hdates] at hchars
  have hfront := List.append_cancel_right (List.append_cancel_right hchars)
  rw [List.append_assoc, List.append_assoc] at hfront
  obtain ⟨henvironment, hid⟩ := Js.append_cons_inj_of_left (hname _) (hname _) hfront
  obtain ⟨environment, connectionId, businessDate⟩ := key
  obtain rfl := Environment.text_inj (String.toList_inj.mp henvironment)
  obtain rfl := String.toList_inj.mp hid
  obtain rfl := String.toList_inj.mp hdates
  rfl

/-! ## In memory -/

structure InMemoryReconciliationStore where
  rows : Js.Map String ReconciliationSnapshot

/-- `upsert`: the snapshot that is left, and the store. -/
def InMemoryReconciliationStore.upsert (store : InMemoryReconciliationStore)
    (input : ReconciliationSnapshotInput) (now : ℤ) :
    ReconciliationSnapshot × InMemoryReconciliationStore :=
  let k := input.key.text
  let existing := store.rows.get k
  let row : ReconciliationSnapshot :=
    { input with createdAt := (existing.map (·.createdAt)).getD now }
  (row, ⟨store.rows.set k row⟩)

/-! ## In Postgres -/

structure SnapshotRowDb where
  environment : Environment
  connectionId : String
  businessDate : String
  shopifyOrderCount : ℕ
  nsTxnCount : ℕ
  shopifyTotal : String
  nsTotal : String
  discrepancy : Option Js.Fields
  createdAt : ℤ

/-- The table `reconciliation_snapshots`. -/
abbrev SnapshotTable := Table SnapshotKey SnapshotRowDb

def SnapshotRowDb.toRow (row : SnapshotRowDb) : ReconciliationSnapshot where
  environment := row.environment
  connectionId := row.connectionId
  businessDate := row.businessDate
  shopifyOrderCount := row.shopifyOrderCount
  nsTxnCount := row.nsTxnCount
  shopifyTotal := row.shopifyTotal
  nsTotal := row.nsTotal
  discrepancy := row.discrepancy
  createdAt := row.createdAt

namespace PostgresReconciliationStore

/-- The row that `VALUES` proposes; on a conflict it is `EXCLUDED`. -/
def insertedRow (decimal : String → String) (jsonb : Js.Fields → Js.Fields)
    (input : ReconciliationSnapshotInput) (now : ℤ) : SnapshotRowDb where
  environment := input.environment
  connectionId := input.connectionId
  businessDate := input.businessDate
  shopifyOrderCount := input.shopifyOrderCount
  nsTxnCount := input.nsTxnCount
  shopifyTotal := decimal input.shopifyTotal
  nsTotal := decimal input.nsTotal
  discrepancy := input.discrepancy.map jsonb
  createdAt := now

/-- The `SET` clause: `row` is the row that is there. -/
def conflictRow (excluded row : SnapshotRowDb) : SnapshotRowDb :=
  { row with
    shopifyOrderCount := excluded.shopifyOrderCount
    nsTxnCount := excluded.nsTxnCount
    shopifyTotal := excluded.shopifyTotal
    nsTotal := excluded.nsTotal
    discrepancy := excluded.discrepancy }

def upsert (decimal : String → String) (jsonb : Js.Fields → Js.Fields)
    (input : ReconciliationSnapshotInput) :
    Query Thrown ℤ SnapshotKey SnapshotRowDb ReconciliationSnapshot := do
  let rows ← query input.key (.upsert (insertedRow decimal jsonb input) fun now row =>
    conflictRow (insertedRow decimal jsonb input now) row)
  match rows.head? with
  | none => throw (newError "PostgresReconciliationStore.upsert: returned no row")
  | some row => return row.toRow

/-- The row of a day after an upsert, from the row before it. -/
def written (decimal : String → String) (jsonb : Js.Fields → Js.Fields)
    (input : ReconciliationSnapshotInput) (now : ℤ) : Option SnapshotRowDb → SnapshotRowDb
  | none => insertedRow decimal jsonb input now
  | some row => conflictRow (insertedRow decimal jsonb input now) row

section Exec

variable {decimal : String → String} {jsonb : Js.Fields → Js.Fields}
  {input : ReconciliationSnapshotInput} {t t' : SnapshotTable}
  {tr : List (Event (Statement ℤ SnapshotKey SnapshotRowDb) fun _ => List SnapshotRowDb)}
  {res : Except Thrown ReconciliationSnapshot}

/-- An upsert writes the row of its day and never throws. -/
theorem upsert_exec (h : Exec Sql.Step (upsert decimal jsonb input).run t tr res t') :
    ∃ now, res = .ok (written decimal jsonb input now (t input.key)).toRow ∧
      t' = Function.update t input.key (some (written decimal jsonb input now (t input.key))) := by
  obtain ⟨now, tr', h⟩ := exec_query h
  cases hrow : t input.key with
  | none | some row =>
    rw [hrow] at h
    obtain ⟨rfl, rfl⟩ := exec_pure h
    exact ⟨now, rfl, rfl⟩

/-- At any time an upsert can run. -/
theorem exists_exec_upsert (decimal : String → String) (jsonb : Js.Fields → Js.Fields)
    (input : ReconciliationSnapshotInput) (t : SnapshotTable) (now : ℤ) :
    ∃ tr, Exec Sql.Step (upsert decimal jsonb input).run t tr
      (.ok (written decimal jsonb input now (t input.key)).toRow)
      (Function.update t input.key (some (written decimal jsonb input now (t input.key)))) := by
  refine exists_exec_query now ?_
  cases t input.key with
  | none | some old => exact exists_exec_pure

end Exec

end PostgresReconciliationStore

/-! ## Either store -/

/-- The snapshots in memory or in Postgres. -/
inductive SnapshotStore
  | memory (store : InMemoryReconciliationStore)
  | postgres (table : SnapshotTable)

namespace SnapshotStore

/-- The snapshot of a day. -/
def find : SnapshotStore → SnapshotKey → Option ReconciliationSnapshot
  | memory store, key => store.rows.get key.text
  | postgres table, key => (table key).map SnapshotRowDb.toRow

/-- What `upsert` may return and leave. -/
inductive Upserts (decimal : String → String) (jsonb : Js.Fields → Js.Fields) :
    SnapshotStore → ReconciliationSnapshotInput → ReconciliationSnapshot → SnapshotStore → Prop
  | memory (store : InMemoryReconciliationStore) (input : ReconciliationSnapshotInput) (now : ℤ) :
      Upserts decimal jsonb (memory store) input (store.upsert input now).1
        (memory (store.upsert input now).2)
  | postgres {t t' : SnapshotTable} {input : ReconciliationSnapshotInput}
      {row : ReconciliationSnapshot}
      {tr : List (Event (Statement ℤ SnapshotKey SnapshotRowDb) fun _ => List SnapshotRowDb)}
      (h : Exec Sql.Step (PostgresReconciliationStore.upsert decimal jsonb input).run t tr
        (.ok row) t') :
      Upserts decimal jsonb (postgres t) input row (postgres t')

section Upserts

variable {decimal : String → String} {jsonb : Js.Fields → Js.Fields} {store store' : SnapshotStore}
  {input : ReconciliationSnapshotInput} {row : ReconciliationSnapshot} {key : SnapshotKey}

/-- An upsert leaves the snapshot that it returns, and those of other days. -/
theorem Upserts.find_eq (h : Upserts decimal jsonb store input row store')
    (hinput : '|' ∉ input.businessDate.toList) (hkey : '|' ∉ key.businessDate.toList) :
    store'.find key = if key = input.key then some row else store.find key := by
  cases h with
  | memory store _ now =>
    by_cases hsame : key = input.key
    · rw [if_pos hsame, hsame]
      exact Js.Map.get_set_self ..
    · rw [if_neg hsame]
      exact Js.Map.get_set_of_ne (fun heq => hsame (SnapshotKey.text_inj hkey hinput heq)) ..
  | @postgres t _ _ _ _ hexec =>
    obtain ⟨now, hrow, rfl⟩ := PostgresReconciliationStore.upsert_exec hexec
    obtain rfl := Except.ok.inj hrow
    simp only [find, Function.update_apply]
    split <;> rfl

/-- A snapshot keeps the time at which it was created. -/
theorem Upserts.createdAt_eq (h : Upserts decimal jsonb store input row store')
    {old : ReconciliationSnapshot} (hold : store.find input.key = some old) :
    row.createdAt = old.createdAt := by
  cases h with
  | memory store _ now =>
    have hexisting : store.rows.get input.key.text = some old := hold
    simp [InMemoryReconciliationStore.upsert, hexisting]
  | postgres hexec =>
    obtain ⟨now, hrow, rfl⟩ := PostgresReconciliationStore.upsert_exec hexec
    obtain rfl := Except.ok.inj hrow
    obtain ⟨found, hfound, rfl⟩ := Option.map_eq_some_iff.mp hold
    rw [hfound]
    rfl

end Upserts

end SnapshotStore

end DpIntegrator
