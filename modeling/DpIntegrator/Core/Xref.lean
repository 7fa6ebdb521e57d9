import DpIntegrator.Core.Types
import Mathlib.Logic.Function.Basic

/-!
# The xref store

The ledger of imported entities: at most one row per dedup key, with a status. Each
operation reads and writes the row of one key at once, so it is a function on the
rows; an operation that throws leaves them as they were.
-/

namespace DpIntegrator

inductive XrefStatus
  | pending
  | synced
  | error
  | ignored
  deriving DecidableEq, Repr

structure XrefRow where
  environment : Environment
  connectionId : String
  entityType : EntityType
  sourceSystem : System
  sourceId : String
  targetSystem : System
  targetId : Option String
  targetExternal : String
  sourceHash : Option String
  status : XrefStatus
  lastSyncedAt : Option ℤ
  deriving DecidableEq, Repr

/-- The row without its time; that it has one is kept. -/
def XrefRow.timeless (row : XrefRow) : XrefRow :=
  { row with lastSyncedAt := row.lastSyncedAt.map fun _ => 0 }

/-- The argument of `claim`. -/
structure ClaimInput where
  parts : DedupKeyParts
  targetSystem : System
  targetExternal : String
  sourceHash : Option String := none
  deriving DecidableEq, Repr

/-- The properties of the argument of `claim` besides the parts of the key. -/
def ClaimInput.more (input : ClaimInput) : Js.Fields :=
  [("targetSystem", .str input.targetSystem.text), ("targetExternal", .str input.targetExternal)] ++
    input.sourceHash.toList.map fun hash => ("sourceHash", .str hash)

inductive ClaimOutcome
  | claimed
  | alreadyClaimed
  | alreadySynced
  | ignored
  deriving DecidableEq, Repr

structure ClaimResult where
  outcome : ClaimOutcome
  row : XrefRow
  deriving DecidableEq, Repr

/-- The rows, by dedup key. -/
abbrev XrefRows := String → Option XrefRow

/-- What a claim answers about an existing row. -/
def XrefRow.claimOutcome (row : XrefRow) : ClaimOutcome :=
  match row.status with
  | .synced => .alreadySynced
  | .ignored => .ignored
  | .pending | .error => .alreadyClaimed

/-- A row is never answered with a new claim. -/
theorem XrefRow.claimOutcome_ne_claimed (row : XrefRow) : row.claimOutcome ≠ .claimed := by
  unfold claimOutcome
  split <;> simp

/-- The row that a claim of an absent key writes. -/
def ClaimInput.newRow (input : ClaimInput) : XrefRow where
  environment := input.parts.environment
  connectionId := input.parts.connectionId
  entityType := input.parts.entityType
  sourceSystem := input.parts.sourceSystem
  sourceId := input.parts.sourceId
  targetSystem := input.targetSystem
  targetId := none
  targetExternal := input.targetExternal
  sourceHash := input.sourceHash
  status := .pending
  lastSyncedAt := none

/-- The row that `markIgnored` writes for an absent key. -/
def DedupKeyParts.ignoredRow (parts : DedupKeyParts) : XrefRow where
  environment := parts.environment
  connectionId := parts.connectionId
  entityType := parts.entityType
  sourceSystem := parts.sourceSystem
  sourceId := parts.sourceId
  targetSystem := .netsuite
  targetId := none
  targetExternal := ""
  sourceHash := none
  status := .ignored
  lastSyncedAt := none

namespace XrefRows

/-- Write the row of `key`. -/
def put (rows : XrefRows) (key : String) (row : XrefRow) : XrefRows :=
  Function.update rows key (some row)

/-- Drop the row of `key`. -/
def drop (rows : XrefRows) (key : String) : XrefRows := Function.update rows key none

def claim (rows : XrefRows) (input : ClaimInput) : Except Thrown (ClaimResult × XrefRows) := do
  let key ← dedupKeyWith input.parts input.more
  match rows key with
  | some existing => return (⟨existing.claimOutcome, existing⟩, rows)
  | none => return (⟨.claimed, input.newRow⟩, rows.put key input.newRow)

def recordSuccess (rows : XrefRows) (parts : DedupKeyParts) (targetId externalId : String)
    (now : ℤ) : Except Thrown (XrefRow × XrefRows) := do
  let key ← dedupKey parts
  match rows key with
  | none => throw (newError ("InMemoryXrefStore: cannot record success for unclaimed key " ++ key))
  | some existing =>
    let updated : XrefRow :=
      { existing with
        targetId := some targetId
        targetExternal := externalId
        status := .synced
        lastSyncedAt := some now }
    return (updated, rows.put key updated)

def recordFailure (rows : XrefRows) (parts : DedupKeyParts) (sourceHash : Option String) :
    Except Thrown (XrefRow × XrefRows) := do
  let key ← dedupKey parts
  match rows key with
  | none => throw (newError ("InMemoryXrefStore: cannot record failure for unclaimed key " ++ key))
  | some existing =>
    let updated : XrefRow :=
      { existing with status := .error, sourceHash := sourceHash.or existing.sourceHash }
    return (updated, rows.put key updated)

def markIgnored (rows : XrefRows) (parts : DedupKeyParts) :
    Except Thrown (XrefRow × XrefRows) := do
  let key ← dedupKey parts
  match rows key with
  | some existing =>
    let row : XrefRow := { existing with status := .ignored }
    return (row, rows.put key row)
  | none => return (parts.ignoredRow, rows.put key parts.ignoredRow)

def lookup (rows : XrefRows) (parts : DedupKeyParts) : Except Thrown (Option XrefRow) := do
  let key ← dedupKey parts
  return rows key

def delete (rows : XrefRows) (parts : DedupKeyParts) :
    Except Thrown (Option XrefRow × XrefRows) := do
  let key ← dedupKey parts
  return (rows key, rows.drop key)

@[simp] theorem put_self (rows : XrefRows) (key : String) (row : XrefRow) :
    rows.put key row key = some row := Function.update_self ..

@[simp] theorem drop_self (rows : XrefRows) (key : String) : rows.drop key key = none :=
  Function.update_self ..

theorem put_of_ne {key key' : String} (h : key' ≠ key) (rows : XrefRows) (row : XrefRow) :
    rows.put key row key' = rows key' := Function.update_of_ne h ..

theorem drop_of_ne {key key' : String} (h : key' ≠ key) (rows : XrefRows) :
    rows.drop key key' = rows key' := Function.update_of_ne h ..

section Cases

variable {rows rows' : XrefRows} {input : ClaimInput} {parts : DedupKeyParts} {row : XrefRow}

/-- A claim that succeeds answers about the existing row and changes nothing, or finds no
row and writes a pending one. -/
theorem claim_eq_ok {res : ClaimResult} (h : rows.claim input = .ok (res, rows')) :
    ∃ key, dedupKey input.parts = .ok key ∧
      ((∃ existing, rows key = some existing ∧ res = ⟨existing.claimOutcome, existing⟩ ∧
          rows' = rows) ∨
        (rows key = none ∧ res = ⟨.claimed, input.newRow⟩ ∧ rows' = rows.put key input.newRow)) := by
  obtain ⟨key, hkey, hrest⟩ := bind_eq_ok.mp h
  refine ⟨key, dedupKey_of_dedupKeyWith hkey, ?_⟩
  cases hrow : rows key with
  | some existing =>
    simp only [hrow] at hrest
    cases hrest
    exact .inl ⟨existing, rfl, rfl, rfl⟩
  | none =>
    simp only [hrow] at hrest
    cases hrest
    exact .inr ⟨rfl, rfl, rfl⟩

/-- `recordSuccess` needs a row and leaves it synced with the given target. -/
theorem recordSuccess_eq_ok {targetId externalId : String} {now : ℤ}
    (h : rows.recordSuccess parts targetId externalId now = .ok (row, rows')) :
    ∃ key existing, dedupKey parts = .ok key ∧ rows key = some existing ∧
      row.status = .synced ∧ row.targetId = some targetId ∧ rows' = rows.put key row := by
  obtain ⟨key, hkey, hrest⟩ := bind_eq_ok.mp h
  cases hrow : rows key with
  | none =>
    simp only [hrow] at hrest
    cases hrest
  | some existing =>
    simp only [hrow] at hrest
    cases hrest
    exact ⟨key, existing, hkey, hrow, rfl, rfl, rfl⟩

/-- `recordFailure` needs a row and leaves it in error. -/
theorem recordFailure_eq_ok {sourceHash : Option String}
    (h : rows.recordFailure parts sourceHash = .ok (row, rows')) :
    ∃ key existing, dedupKey parts = .ok key ∧ rows key = some existing ∧
      row.status = .error ∧ rows' = rows.put key row := by
  obtain ⟨key, hkey, hrest⟩ := bind_eq_ok.mp h
  cases hrow : rows key with
  | none =>
    simp only [hrow] at hrest
    cases hrest
  | some existing =>
    simp only [hrow] at hrest
    cases hrest
    exact ⟨key, existing, hkey, hrow, rfl, rfl⟩

/-- `markIgnored` leaves an ignored row, whether there was a row or not. -/
theorem markIgnored_eq_ok (h : rows.markIgnored parts = .ok (row, rows')) :
    ∃ key, dedupKey parts = .ok key ∧ row.status = .ignored ∧ rows' = rows.put key row := by
  obtain ⟨key, hkey, hrest⟩ := bind_eq_ok.mp h
  cases hrow : rows key with
  | none | some existing =>
    simp only [hrow] at hrest
    cases hrest
    exact ⟨key, hkey, rfl, rfl⟩

theorem lookup_eq_ok {found : Option XrefRow} (h : rows.lookup parts = .ok found) :
    ∃ key, dedupKey parts = .ok key ∧ found = rows key := by
  obtain ⟨key, hkey, hrest⟩ := bind_eq_ok.mp h
  cases hrest
  exact ⟨key, hkey, rfl⟩

/-- `delete` returns the row that was there and leaves none. -/
theorem delete_eq_ok {removed : Option XrefRow} (h : rows.delete parts = .ok (removed, rows')) :
    ∃ key, dedupKey parts = .ok key ∧ removed = rows key ∧ rows' = rows.drop key := by
  obtain ⟨key, hkey, hrest⟩ := bind_eq_ok.mp h
  cases hrest
  exact ⟨key, hkey, rfl, rfl⟩

end Cases

end XrefRows

end DpIntegrator
