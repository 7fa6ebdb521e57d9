import DpIntegrator.Sql.Table
import DpIntegrator.Core.Xref

/-!
# The Postgres xref store

The table `entity_xref`, whose primary key is the five parts of a dedup key, and the
operations of the store as queries on it. Of a row the model keeps the columns that
`toXrefRow` reads.
-/

namespace DpIntegrator

open Effects Sql

structure XrefRowDb where
  environment : Environment
  connectionId : String
  entityType : EntityType
  sourceSystem : System
  sourceId : String
  targetSystem : System
  targetId : Option String
  targetExternal : String
  sourceHash : Option String
  status : XrefStatus
  lastSyncedAt : Option ℤ
  deriving DecidableEq, Repr

def toXrefRow (row : XrefRowDb) : XrefRow where
  environment := row.environment
  connectionId := row.connectionId
  entityType := row.entityType
  sourceSystem := row.sourceSystem
  sourceId := row.sourceId
  targetSystem := row.targetSystem
  targetId := row.targetId
  targetExternal := row.targetExternal
  sourceHash := row.sourceHash
  status := row.status
  lastSyncedAt := row.lastSyncedAt

/-- The table `entity_xref`. -/
abbrev XrefTable := Table DedupKeyParts XrefRowDb

abbrev XrefStatement := Statement ℤ DedupKeyParts XrefRowDb

/-- Queries on `entity_xref`. -/
abbrev XrefQuery := Query Thrown ℤ DedupKeyParts XrefRowDb

namespace PostgresXrefStore

/-- Throw that there is no row; the text of the error ends with the key. -/
def throwMissing {α : Type} (text : String) (key : Except Thrown String) : XrefQuery α :=
  match key with
  | .ok key => throw (newError (text ++ key))
  | .error e => throw e

/-- The values that a claim inserts. -/
def pendingRow (input : ClaimInput) : XrefRowDb where
  environment := input.parts.environment
  connectionId := input.parts.connectionId
  entityType := input.parts.entityType
  sourceSystem := input.parts.sourceSystem
  sourceId := input.parts.sourceId
  targetSystem := input.targetSystem
  targetId := none
  targetExternal := input.targetExternal
  sourceHash := input.sourceHash
  status := .pending
  lastSyncedAt := none

/-- The values that `markIgnored` inserts. -/
def ignoredRow (parts : DedupKeyParts) : XrefRowDb where
  environment := parts.environment
  connectionId := parts.connectionId
  entityType := parts.entityType
  sourceSystem := parts.sourceSystem
  sourceId := parts.sourceId
  targetSystem := .netsuite
  targetId := none
  targetExternal := ""
  sourceHash := none
  status := .ignored
  lastSyncedAt := none

def fetch (parts : DedupKeyParts) : XrefQuery (Option XrefRow) := do
  let rows ← query parts .select
  return rows.head?.map toXrefRow

def claim (input : ClaimInput) : XrefQuery ClaimResult := do
  match ← query input.parts (.insertOrNothing fun _ => pendingRow input) with
  | [row] => return ⟨.claimed, toXrefRow row⟩
  | _ =>
    match ← fetch input.parts with
    | none =>
      throwMissing "PostgresXrefStore.claim: row missing after ON CONFLICT for key "
        (dedupKeyWith input.parts input.more)
    | some existing => return ⟨existing.claimOutcome, existing⟩

def recordSuccess (parts : DedupKeyParts) (targetId externalId : String) : XrefQuery XrefRow := do
  let rows ← query parts (.update fun now row =>
    { row with
      targetId := some targetId
      targetExternal := externalId
      status := .synced
      lastSyncedAt := some now })
  match rows.head? with
  | none => throwMissing "PostgresXrefStore.recordSuccess: no xref row for key " (dedupKey parts)
  | some row => return toXrefRow row

def recordFailure (parts : DedupKeyParts) (sourceHash : Option String) : XrefQuery XrefRow := do
  let rows ← query parts (.update fun _ row =>
    { row with status := .error, sourceHash := sourceHash.or row.sourceHash })
  match rows.head? with
  | none => throwMissing "PostgresXrefStore.recordFailure: no xref row for key " (dedupKey parts)
  | some row => return toXrefRow row

def markIgnored (parts : DedupKeyParts) : XrefQuery XrefRow := do
  let rows ← query parts (.upsert (fun _ => ignoredRow parts) fun _ row =>
    { row with status := .ignored })
  match rows.head? with
  | none =>
    throwMissing "PostgresXrefStore.markIgnored: upsert returned no row for key " (dedupKey parts)
  | some row => return toXrefRow row

def lookup (parts : DedupKeyParts) : XrefQuery (Option XrefRow) := fetch parts

def delete (parts : DedupKeyParts) : XrefQuery (Option XrefRow) := do
  let rows ← query parts .delete
  return rows.head?.map toXrefRow

end PostgresXrefStore

end DpIntegrator
