import DpIntegrator.Core.Stores
import DpIntegrator.Js.Map

/-!
# The ledger in memory

`InMemoryOrderSyncLogStore` with its listing, whose rows of equal time stay in the order in
which the map holds them.
-/

namespace DpIntegrator

/-- The order that a ledger row is about. -/
structure OrderKey where
  environment : Environment
  connectionId : String
  shopifyOrderGid : String
  deriving DecidableEq, Repr

def OrderSyncLogInput.orderKey (input : OrderSyncLogInput) : OrderKey where
  environment := input.environment
  connectionId := input.connectionId
  shopifyOrderGid := input.shopifyOrderGid

/-- The order that an attempt row is about. -/
def OrderAttemptInput.orderKey (input : OrderAttemptInput) : OrderKey where
  environment := input.environment
  connectionId := input.connectionId
  shopifyOrderGid := input.shopifyOrderGid

/-- `key`: the text under which the row of an order is kept. -/
def OrderKey.text (key : OrderKey) : String :=
  String.intercalate "|" [key.environment.text, key.connectionId, key.shopifyOrderGid]

/-- Orders of one connection under one text have one id. -/
theorem OrderKey.gid_eq_of_text {environment : Environment} {connectionId gid gid' : String}
    (h : OrderKey.text ⟨environment, connectionId, gid⟩ =
      OrderKey.text ⟨environment, connectionId, gid'⟩) : gid = gid' := by
  have hlist := congrArg String.toList h
  unfold OrderKey.text at hlist
  rw [String.toList_intercalate, String.toList_intercalate] at hlist
  simp only [List.intercalate, List.map_cons, List.map_nil, List.intersperse_cons_cons,
    List.intersperse_singleton, List.flatten_cons, List.flatten_nil, List.append_nil,
    List.append_cancel_left_eq] at hlist
  exact String.toList_inj.mp hlist

theorem OrderSyncLogInput.text_orderKey (input : OrderSyncLogInput) :
    input.orderKey.text = input.key := rfl

structure OrderSyncLogListFilter where
  environment : Environment
  connectionId : Option String
  status : Option OrderSyncLogStatus
  limit : Option ℕ
  deriving DecidableEq, Repr

/-- The rows that a filter selects; an empty connection selects every connection. -/
def OrderSyncLogListFilter.selects (filter : OrderSyncLogListFilter) (environment : Environment)
    (connectionId : String) (status : OrderSyncLogStatus) : Bool :=
  environment = filter.environment &&
    (filter.connectionId.filter (· ≠ "")).all (connectionId = ·) && filter.status.all (status = ·)

/-- The time by which a listing is ordered. -/
def OrderSyncLog.listedAt (row : OrderSyncLog) : ℤ := row.syncedAt.getD row.updatedAt

structure InMemoryOrderSyncLogStore where
  rows : Js.Map String OrderSyncLog
  seq : ℕ

namespace InMemoryOrderSyncLogStore

def empty : InMemoryOrderSyncLogStore where
  rows := .empty
  seq := 0

def upsert (store : InMemoryOrderSyncLogStore) (input : OrderSyncLogInput) (now : ℤ) :
    InMemoryOrderSyncLogStore :=
  let k := input.key
  let existing := store.rows.get k
  let seq := if existing.isSome then store.seq else store.seq + 1
  let id := (existing.map (·.id)).getD ("log_" ++ Js.padNumber 8 seq)
  let row : OrderSyncLog :=
    { input with
      id
      createdAt := (existing.map (·.createdAt)).getD now
      updatedAt := now }
  { rows := store.rows.set k row, seq }

/-- The rows that a filter selects, in the order of the map. -/
def selected (store : InMemoryOrderSyncLogStore) (filter : OrderSyncLogListFilter) :
    List OrderSyncLog :=
  store.rows.values.filter fun row => filter.selects row.environment row.connectionId row.status

/-- The selected rows, the newest first. -/
def sorted (store : InMemoryOrderSyncLogStore) (filter : OrderSyncLogListFilter) :
    List OrderSyncLog :=
  (store.selected filter).mergeSort fun a b => b.listedAt ≤ a.listedAt

/-- `list`: a limit of 0 is no limit. -/
def list (store : InMemoryOrderSyncLogStore) (filter : OrderSyncLogListFilter) :
    List OrderSyncLog :=
  match filter.limit with
  | none | some 0 => store.sorted filter
  | some limit => (store.sorted filter).take limit

def findByOrderGid (store : InMemoryOrderSyncLogStore) (parts : OrderKey) : Option OrderSyncLog :=
  store.rows.get parts.text

/-- The rows by key, without their order. -/
def toRows (store : InMemoryOrderSyncLogStore) : SyncLogRows where
  rows := store.rows.get
  seq := store.seq

/-- On the rows by key, an upsert is `SyncLogRows.upsert`. -/
theorem upsert_toRows (store : InMemoryOrderSyncLogStore) (input : OrderSyncLogInput) (now : ℤ) :
    (store.upsert input now).toRows = store.toRows.upsert input now := by
  unfold upsert toRows SyncLogRows.upsert
  cases hrow : store.rows.get input.key with
  | none | some existing => simp [Js.Map.get_set, hrow]

/-- An upsert leaves a row with the fields of its input. -/
theorem get_upsert (store : InMemoryOrderSyncLogStore) (input : OrderSyncLogInput) (now : ℤ) :
    ((store.upsert input now).rows.get input.key).map OrderSyncLog.toOrderSyncLogInput =
      some input := by
  unfold upsert
  rw [Js.Map.get_set_self]
  rfl

/-- An upsert keeps the id and the creation time of the row that is there. -/
theorem get_upsert_of_some {store : InMemoryOrderSyncLogStore} {input : OrderSyncLogInput}
    {existing : OrderSyncLog} (h : store.rows.get input.key = some existing) (now : ℤ) :
    (store.upsert input now).rows.get input.key =
      some { input with id := existing.id, createdAt := existing.createdAt, updatedAt := now } := by
  unfold upsert
  dsimp only
  rw [Js.Map.get_set_self, h]
  rfl

theorem get_upsert_of_ne {key : String} {input : OrderSyncLogInput} (h : key ≠ input.key)
    (store : InMemoryOrderSyncLogStore) (now : ℤ) :
    (store.upsert input now).rows.get key = store.rows.get key := Js.Map.get_set_of_ne h ..

end InMemoryOrderSyncLogStore

end DpIntegrator
