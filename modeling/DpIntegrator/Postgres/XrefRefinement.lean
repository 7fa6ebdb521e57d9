import DpIntegrator.Postgres.XrefStore
import DpIntegrator.Core.Keys
import DpIntegrator.Effects.Interleaving

/-!
# The Postgres xref store refines the in-memory one

One after another, the operations of the two stores answer alike and leave the same rows,
up to the times that they write. Claims of one absent key whose statements interleave are
decided by the first insertion: it alone returns a row.
-/

namespace DpIntegrator

open Effects Sql

/-! ## Operations -/

inductive XrefOp
  | claim (input : ClaimInput)
  | recordSuccess (parts : DedupKeyParts) (targetId externalId : String)
  | recordFailure (parts : DedupKeyParts) (sourceHash : Option String)
  | markIgnored (parts : DedupKeyParts)
  | lookup (parts : DedupKeyParts)
  | delete (parts : DedupKeyParts)

namespace XrefOp

/-- What an operation returns. -/
@[reducible] def Ret : XrefOp → Type
  | claim .. => ClaimResult
  | recordSuccess .. | recordFailure .. | markIgnored .. => XrefRow
  | lookup .. | delete .. => Option XrefRow

/-- The key that an operation is about. -/
def parts : XrefOp → DedupKeyParts
  | claim input => input.parts
  | recordSuccess parts .. | recordFailure parts .. | markIgnored parts | lookup parts
  | delete parts => parts

/-- What an operation returned, without times. -/
def timeless : (op : XrefOp) → op.Ret → op.Ret
  | claim _, result => { result with row := result.row.timeless }
  | recordSuccess .., row | recordFailure .., row | markIgnored _, row => row.timeless
  | lookup _, row | delete _, row => row.map XrefRow.timeless

/-- The operation of the Postgres store. -/
def postgres : (op : XrefOp) → XrefQuery op.Ret
  | claim input => PostgresXrefStore.claim input
  | recordSuccess parts targetId externalId =>
    PostgresXrefStore.recordSuccess parts targetId externalId
  | recordFailure parts sourceHash => PostgresXrefStore.recordFailure parts sourceHash
  | markIgnored parts => PostgresXrefStore.markIgnored parts
  | lookup parts => PostgresXrefStore.lookup parts
  | delete parts => PostgresXrefStore.delete parts

/-- The rows after an operation that returns them; one that throws leaves them. -/
def leave {α : Type} (rows : XrefRows) :
    Except Thrown (α × XrefRows) → Except Thrown α × XrefRows
  | .ok (a, rows') => (.ok a, rows')
  | .error e => (.error e, rows)

/-- The operation of the in-memory store, at the time `now`. -/
def inMemory (rows : XrefRows) (now : ℤ) : (op : XrefOp) → Except Thrown op.Ret × XrefRows
  | claim input => leave rows (rows.claim input)
  | recordSuccess parts targetId externalId =>
    leave rows (rows.recordSuccess parts targetId externalId now)
  | recordFailure parts sourceHash => leave rows (rows.recordFailure parts sourceHash)
  | markIgnored parts => leave rows (rows.markIgnored parts)
  | lookup parts => (rows.lookup parts, rows)
  | delete parts => leave rows (rows.delete parts)

end XrefOp

/-- Operations with their results, in order. -/
abbrev XrefHistory := List (Event XrefOp fun op => Except Thrown op.Ret)

/-- The operations of the Postgres store take the table from `t` to `t'`. -/
abbrev XrefTable.Passes : XrefTable → XrefHistory → XrefTable → Prop :=
  Effects.Steps fun op t res t' => ∃ tr, Exec Sql.Step op.postgres.run t tr res t'

/-- The operations of the in-memory store take the rows from `rows` to `rows'`. -/
abbrev XrefRows.Passes : XrefRows → XrefHistory → XrefRows → Prop :=
  Effects.Steps fun op rows res rows' => ∃ now, op.inMemory rows now = (res, rows')

/-- Both results are errors, or both are values that are equal without times. -/
inductive SameAnswer {α : Type} (timeless : α → α) : Except Thrown α → Except Thrown α → Prop
  | thrown (e e' : Thrown) : SameAnswer timeless (.error e) (.error e')
  | returned {a a' : α} (h : timeless a = timeless a') : SameAnswer timeless (.ok a) (.ok a')

/-- The same operation with results that are alike. -/
inductive AlikeEvents : Event XrefOp (fun op => Except Thrown op.Ret) →
    Event XrefOp (fun op => Except Thrown op.Ret) → Prop
  | intro {op : XrefOp} {res res' : Except Thrown op.Ret} (h : SameAnswer op.timeless res res') :
      AlikeEvents ⟨op, res⟩ ⟨op, res'⟩

/-- The table and the rows in memory hold the same rows, but for times. -/
structure RowsAgree (t : XrefTable) (rows : XrefRows) : Prop where
  /-- Every row of the table is under parts that make a key. -/
  accepted : ∀ parts row, t parts = some row → ∃ key, dedupKey parts = .ok key
  /-- Every row in memory is under the key of some parts. -/
  keyed : ∀ key row, rows key = some row → ∃ parts, dedupKey parts = .ok key
  same : ∀ parts key, dedupKey parts = .ok key →
    (t parts).map (fun row => (toXrefRow row).timeless) = (rows key).map XrefRow.timeless

namespace RowsAgree

variable {t : XrefTable} {rows : XrefRows} {parts : DedupKeyParts} {key : String}

theorem empty : RowsAgree (fun _ => none) fun _ => none where
  accepted := by simp
  keyed := by simp
  same := by simp

/-- Writing the same row under the same key keeps the rows the same. -/
theorem update (h : RowsAgree t rows) (hkey : dedupKey parts = .ok key) {row : Option XrefRowDb}
    {row' : Option XrefRow}
    (hrow : row.map (fun row => (toXrefRow row).timeless) = row'.map XrefRow.timeless) :
    RowsAgree (Function.update t parts row) (Function.update rows key row') where
  accepted := by
    intro parts' found hfound
    by_cases hparts : parts' = parts
    · subst hparts
      exact ⟨key, hkey⟩
    · rw [Function.update_of_ne hparts] at hfound
      exact h.accepted parts' found hfound
  keyed := by
    intro key' found hfound
    by_cases hkey' : key' = key
    · subst hkey'
      exact ⟨parts, hkey⟩
    · rw [Function.update_of_ne hkey'] at hfound
      exact h.keyed key' found hfound
  same := by
    intro parts' key' hparts'
    by_cases hparts : parts' = parts
    · subst hparts
      obtain rfl : key' = key := Except.ok.inj (hparts'.symm.trans hkey)
      rwa [Function.update_self, Function.update_self]
    · have hkey' : key' ≠ key := by
        rintro rfl
        exact hparts (dedupKey_inj hparts' hkey)
      rw [Function.update_of_ne hparts, Function.update_of_ne hkey']
      exact h.same parts' key' hparts'

/-- Under one key there is a row in both or in neither. -/
theorem cases (h : RowsAgree t rows) (hkey : dedupKey parts = .ok key) :
    (t parts = none ∧ rows key = none) ∨ ∃ found row, t parts = some found ∧
      rows key = some row ∧ (toXrefRow found).timeless = row.timeless := by
  have hsame := h.same parts key hkey
  cases hfound : t parts with
  | none =>
    rw [hfound] at hsame
    exact .inl ⟨rfl, by simpa using hsame.symm⟩
  | some found =>
    rw [hfound] at hsame
    obtain ⟨row, hrow, heq⟩ := Option.map_eq_some_iff.mp hsame.symm
    exact .inr ⟨found, row, rfl, hrow, heq.symm⟩

end RowsAgree

/-! ## One operation -/

section Operation

variable {t t' : XrefTable} {rows : XrefRows} {parts : DedupKeyParts} {key : String} {now : ℤ}
  {tr : List (Event XrefStatement fun _ => List XrefRowDb)}

theorem dedupKeyWith_of_dedupKey {more : Js.Fields} (h : dedupKey parts = .ok key) :
    dedupKeyWith parts more = .ok key := dedupKeyWith_eq_ok.mpr (dedupKeyWith_eq_ok.mp h)

theorem throwMissing_exec {α : Type} {text : String} {x : Except Thrown String} {res : Except Thrown α}
    (h : Exec Sql.Step (PostgresXrefStore.throwMissing text x : XrefQuery α).run t tr res t') :
    (∃ e, res = .error e) ∧ t' = t := by
  unfold PostgresXrefStore.throwMissing at h
  split at h
  · exact ⟨⟨_, (exec_throw h).1⟩, (exec_throw h).2⟩
  · exact ⟨⟨_, (exec_throw h).1⟩, (exec_throw h).2⟩

theorem fetch_exec {res : Except Thrown (Option XrefRow)}
    (h : Exec Sql.Step (PostgresXrefStore.fetch parts).run t tr res t') :
    res = .ok ((t parts).map toXrefRow) ∧ t' = t := by
  obtain ⟨now, tr', h⟩ := exec_query h
  obtain ⟨rfl, rfl⟩ := exec_pure h
  cases hrow : t parts with
  | none => exact ⟨rfl, by rw [Action.run, ← hrow, Function.update_eq_self]⟩
  | some row => exact ⟨rfl, by rw [Action.run, ← hrow, Function.update_eq_self]⟩

/-- A claim inserts a row where there is none, and otherwise answers about the row. -/
theorem claim_exec {input : ClaimInput} {res : Except Thrown ClaimResult}
    (h : Exec Sql.Step (PostgresXrefStore.claim input).run t tr res t') :
    (t input.parts = none ∧ res = .ok ⟨.claimed, toXrefRow (PostgresXrefStore.pendingRow input)⟩ ∧
        t' = Function.update t input.parts (some (PostgresXrefStore.pendingRow input))) ∨
      ∃ found, t input.parts = some found ∧
        res = .ok ⟨(toXrefRow found).claimOutcome, toXrefRow found⟩ ∧ t' = t := by
  obtain ⟨now, tr', h⟩ := exec_query h
  cases hrow : t input.parts with
  | none =>
    rw [hrow] at h
    obtain ⟨rfl, rfl⟩ := exec_pure h
    exact .inl ⟨rfl, rfl, rfl⟩
  | some found =>
    rw [hrow] at h
    simp only [Action.run] at h
    rw [← hrow, Function.update_eq_self] at h
    obtain ⟨e, rfl, hfetch⟩ | ⟨existing, t₁, tr₁, tr₂, hfetch, hrest⟩ := exec_bind h
    · cases (fetch_exec hfetch).1
    obtain ⟨hexisting, rfl⟩ := fetch_exec hfetch
    rw [hrow] at hexisting
    cases hexisting
    obtain ⟨rfl, rfl⟩ := exec_pure hrest
    exact .inr ⟨found, rfl, rfl, rfl⟩

/-- An update writes the row of its key, and throws where there is none. -/
theorem update_exec {set : ℤ → XrefRowDb → XrefRowDb} {text : String} {x : Except Thrown String}
    {res : Except Thrown XrefRow}
    (h : Exec Sql.Step (do
      let rows ← query parts (.update set)
      match rows.head? with
      | none => PostgresXrefStore.throwMissing text x
      | some row => return toXrefRow row : XrefQuery XrefRow).run t tr res t') :
    (t parts = none ∧ (∃ e, res = .error e) ∧ t' = t) ∨
      ∃ found now, t parts = some found ∧ res = .ok (toXrefRow (set now found)) ∧
        t' = Function.update t parts (some (set now found)) := by
  obtain ⟨now, tr', h⟩ := exec_query h
  cases hrow : t parts with
  | none =>
    rw [hrow] at h
    obtain ⟨hres, rfl⟩ := throwMissing_exec h
    exact .inl ⟨rfl, hres, by rw [Action.run, ← hrow, Function.update_eq_self]⟩
  | some found =>
    rw [hrow] at h
    obtain ⟨rfl, rfl⟩ := exec_pure h
    exact .inr ⟨found, now, rfl, rfl, rfl⟩

/-- `markIgnored` writes the row of its key, whether there is one or not. -/
theorem markIgnored_exec {res : Except Thrown XrefRow}
    (h : Exec Sql.Step (PostgresXrefStore.markIgnored parts).run t tr res t') :
    ∃ row, res = .ok (toXrefRow row) ∧ t' = Function.update t parts (some row) ∧
      row = ((t parts).map fun found => { found with status := .ignored }).getD
        (PostgresXrefStore.ignoredRow parts) := by
  obtain ⟨now, tr', h⟩ := exec_query h
  cases hrow : t parts with
  | none | some found =>
    rw [hrow] at h
    obtain ⟨rfl, rfl⟩ := exec_pure h
    exact ⟨_, rfl, rfl, rfl⟩

theorem delete_exec {res : Except Thrown (Option XrefRow)}
    (h : Exec Sql.Step (PostgresXrefStore.delete parts).run t tr res t') :
    res = .ok ((t parts).map toXrefRow) ∧ t' = Function.update t parts none := by
  obtain ⟨now, tr', h⟩ := exec_query h
  obtain ⟨rfl, rfl⟩ := exec_pure h
  cases hrow : t parts with
  | none | some row => exact ⟨rfl, rfl⟩

/-! ## The operations refined -/

theorem claim_refines {input : ClaimInput} {res : Except Thrown ClaimResult}
    {res' : Except Thrown ClaimResult} {rows' : XrefRows} (hkey : dedupKey input.parts = .ok key)
    (hsame : RowsAgree t rows) (hexec : Exec Sql.Step (PostgresXrefStore.claim input).run t tr res t')
    (hmem : (XrefOp.claim input).inMemory rows now = (res', rows')) :
    SameAnswer (XrefOp.claim input).timeless res res' ∧ RowsAgree t' rows' := by
  have hwith : dedupKeyWith input.parts input.more = .ok key := dedupKeyWith_of_dedupKey hkey
  obtain ⟨hnone, hrow⟩ | ⟨found, row, hfound, hrow, hsameRow⟩ := hsame.cases hkey
  · simp only [XrefOp.inMemory, XrefRows.claim, hwith, bind, Except.bind, hrow, pure, Except.pure,
      XrefOp.leave, Prod.mk.injEq] at hmem
    obtain ⟨rfl, rfl⟩ := hmem
    obtain ⟨_, rfl, rfl⟩ | ⟨found, hfound, _⟩ := claim_exec hexec
    · exact ⟨.returned rfl, hsame.update hkey rfl⟩
    · cases hnone.symm.trans hfound
  · simp only [XrefOp.inMemory, XrefRows.claim, hwith, bind, Except.bind, hrow, pure, Except.pure,
      XrefOp.leave, Prod.mk.injEq] at hmem
    obtain ⟨rfl, rfl⟩ := hmem
    obtain ⟨hnone, _⟩ | ⟨found', hfound', rfl, rfl⟩ := claim_exec hexec
    · cases hfound.symm.trans hnone
    · cases hfound.symm.trans hfound'
      have hstatus : (toXrefRow found).status = row.status :=
        (XrefRow.mk.inj hsameRow).2.2.2.2.2.2.2.2.2.1
      have houtcome : (toXrefRow found).claimOutcome = row.claimOutcome := by
        unfold XrefRow.claimOutcome
        rw [hstatus]
      refine ⟨.returned ?_, hsame⟩
      simp only [XrefOp.timeless, houtcome, hsameRow]

/-- An operation that writes the row of its key anew, and throws where there is none, refines
one that does so in memory. -/
theorem update_refines {set : ℤ → XrefRowDb → XrefRowDb} {set' : XrefRow → XrefRow} {text : String}
    {x : Except Thrown String} {res : Except Thrown XrefRow} {e : Thrown}
    (hkey : dedupKey parts = .ok key) (hsame : RowsAgree t rows)
    (hexec : Exec Sql.Step (do
      let rows ← query parts (.update set)
      match rows.head? with
      | none => PostgresXrefStore.throwMissing text x
      | some row => return toXrefRow row : XrefQuery XrefRow).run t tr res t')
    (hset : ∀ now found row, (toXrefRow found).timeless = row.timeless →
      (toXrefRow (set now found)).timeless = (set' row).timeless) :
    (rows key = none ∧ SameAnswer XrefRow.timeless res (.error e) ∧ RowsAgree t' rows) ∨
      ∃ row, rows key = some row ∧ SameAnswer XrefRow.timeless res (.ok (set' row)) ∧
        RowsAgree t' (rows.put key (set' row)) := by
  obtain ⟨hnone, hrow⟩ | ⟨found, row, hfound, hrow, hsameRow⟩ := hsame.cases hkey
  · obtain ⟨_, ⟨e', rfl⟩, rfl⟩ | ⟨found, now, hfound, _⟩ := update_exec hexec
    · exact .inl ⟨hrow, .thrown e' e, hsame⟩
    · cases hnone.symm.trans hfound
  · obtain ⟨hnone, _⟩ | ⟨found', now, hfound', rfl, rfl⟩ := update_exec hexec
    · cases hfound.symm.trans hnone
    · cases hfound.symm.trans hfound'
      have hwritten := hset now found row hsameRow
      exact .inr ⟨row, hrow, .returned hwritten, hsame.update hkey (congrArg some hwritten)⟩

theorem recordSuccess_refines {targetId externalId : String} {res res' : Except Thrown XrefRow}
    {rows' : XrefRows} (hkey : dedupKey parts = .ok key) (hsame : RowsAgree t rows)
    (hexec : Exec Sql.Step (PostgresXrefStore.recordSuccess parts targetId externalId).run t tr res t')
    (hmem : (XrefOp.recordSuccess parts targetId externalId).inMemory rows now = (res', rows')) :
    SameAnswer XrefRow.timeless res res' ∧ RowsAgree t' rows' := by
  have hset (now' : ℤ) (found : XrefRowDb) (row : XrefRow)
      (h : (toXrefRow found).timeless = row.timeless) :
      (toXrefRow { found with
          targetId := some targetId, targetExternal := externalId, status := .synced
          lastSyncedAt := some now' }).timeless =
        { row with
          targetId := some targetId, targetExternal := externalId, status := .synced
          lastSyncedAt := some now : XrefRow }.timeless := by
    simp only [XrefRow.timeless, toXrefRow, XrefRow.mk.injEq] at h ⊢
    simp [h]
  obtain ⟨hrow, hres, hsame'⟩ | ⟨row, hrow, hres, hsame'⟩ := update_refines hkey hsame hexec hset
  · simp only [XrefOp.inMemory, XrefRows.recordSuccess, hkey, bind, Except.bind, hrow, throw,
      throwThe, MonadExceptOf.throw, XrefOp.leave, Prod.mk.injEq] at hmem
    obtain ⟨rfl, rfl⟩ := hmem
    exact ⟨hres, hsame'⟩
  · simp only [XrefOp.inMemory, XrefRows.recordSuccess, hkey, bind, Except.bind, hrow, pure,
      Except.pure, XrefOp.leave, Prod.mk.injEq] at hmem
    obtain ⟨rfl, rfl⟩ := hmem
    exact ⟨hres, hsame'⟩

theorem recordFailure_refines {sourceHash : Option String} {res res' : Except Thrown XrefRow}
    {rows' : XrefRows} (hkey : dedupKey parts = .ok key) (hsame : RowsAgree t rows)
    (hexec : Exec Sql.Step (PostgresXrefStore.recordFailure parts sourceHash).run t tr res t')
    (hmem : (XrefOp.recordFailure parts sourceHash).inMemory rows now = (res', rows')) :
    SameAnswer XrefRow.timeless res res' ∧ RowsAgree t' rows' := by
  have hset (now' : ℤ) (found : XrefRowDb) (row : XrefRow)
      (h : (toXrefRow found).timeless = row.timeless) :
      (toXrefRow { found with
          status := .error, sourceHash := sourceHash.or found.sourceHash }).timeless =
        { row with status := .error, sourceHash := sourceHash.or row.sourceHash : XrefRow }.timeless := by
    simp only [XrefRow.timeless, toXrefRow, XrefRow.mk.injEq] at h ⊢
    simp [h]
  obtain ⟨hrow, hres, hsame'⟩ | ⟨row, hrow, hres, hsame'⟩ := update_refines hkey hsame hexec hset
  · simp only [XrefOp.inMemory, XrefRows.recordFailure, hkey, bind, Except.bind, hrow, throw,
      throwThe, MonadExceptOf.throw, XrefOp.leave, Prod.mk.injEq] at hmem
    obtain ⟨rfl, rfl⟩ := hmem
    exact ⟨hres, hsame'⟩
  · simp only [XrefOp.inMemory, XrefRows.recordFailure, hkey, bind, Except.bind, hrow, pure,
      Except.pure, XrefOp.leave, Prod.mk.injEq] at hmem
    obtain ⟨rfl, rfl⟩ := hmem
    exact ⟨hres, hsame'⟩

theorem markIgnored_refines {res res' : Except Thrown XrefRow} {rows' : XrefRows}
    (hkey : dedupKey parts = .ok key) (hsame : RowsAgree t rows)
    (hexec : Exec Sql.Step (PostgresXrefStore.markIgnored parts).run t tr res t')
    (hmem : (XrefOp.markIgnored parts).inMemory rows now = (res', rows')) :
    SameAnswer XrefRow.timeless res res' ∧ RowsAgree t' rows' := by
  obtain ⟨written, rfl, rfl, hwritten⟩ := markIgnored_exec hexec
  obtain ⟨hnone, hrow⟩ | ⟨found, row, hfound, hrow, hsameRow⟩ := hsame.cases hkey
  · simp only [XrefOp.inMemory, XrefRows.markIgnored, hkey, bind, Except.bind, hrow, pure,
      Except.pure, XrefOp.leave, Prod.mk.injEq] at hmem
    obtain ⟨rfl, rfl⟩ := hmem
    rw [hnone] at hwritten
    subst hwritten
    exact ⟨.returned rfl, hsame.update hkey rfl⟩
  · simp only [XrefOp.inMemory, XrefRows.markIgnored, hkey, bind, Except.bind, hrow, pure,
      Except.pure, XrefOp.leave, Prod.mk.injEq] at hmem
    obtain ⟨rfl, rfl⟩ := hmem
    rw [hfound] at hwritten
    subst hwritten
    have hset : (toXrefRow { found with status := .ignored }).timeless =
        { row with status := .ignored : XrefRow }.timeless := by
      simp only [XrefRow.timeless, toXrefRow, XrefRow.mk.injEq] at hsameRow ⊢
      simp [hsameRow]
    exact ⟨.returned hset, hsame.update hkey (congrArg some hset)⟩

/-- An operation on an accepted key does alike in both stores, and keeps the rows the same. -/
theorem XrefOp.refines (op : XrefOp) {res res' : Except Thrown op.Ret} {rows' : XrefRows}
    (hkey : dedupKey op.parts = .ok key) (hsame : RowsAgree t rows)
    (hexec : Exec Sql.Step op.postgres.run t tr res t') (hmem : op.inMemory rows now = (res', rows')) :
    SameAnswer op.timeless res res' ∧ RowsAgree t' rows' := by
  cases op with
  | claim input => exact claim_refines hkey hsame hexec hmem
  | recordSuccess parts targetId externalId => exact recordSuccess_refines hkey hsame hexec hmem
  | recordFailure parts sourceHash => exact recordFailure_refines hkey hsame hexec hmem
  | markIgnored parts => exact markIgnored_refines hkey hsame hexec hmem
  | lookup parts =>
    have hkey : dedupKey parts = .ok key := hkey
    simp only [XrefOp.inMemory, XrefRows.lookup, hkey, bind, Except.bind, pure, Except.pure,
      Prod.mk.injEq] at hmem
    obtain ⟨rfl, rfl⟩ := hmem
    obtain ⟨rfl, rfl⟩ := fetch_exec hexec
    refine ⟨.returned ?_, hsame⟩
    simpa [XrefOp.timeless, Function.comp_def] using hsame.same parts key hkey
  | delete parts =>
    have hkey : dedupKey parts = .ok key := hkey
    simp only [XrefOp.inMemory, XrefRows.delete, hkey, bind, Except.bind, pure, Except.pure,
      XrefOp.leave, Prod.mk.injEq] at hmem
    obtain ⟨rfl, rfl⟩ := hmem
    obtain ⟨rfl, rfl⟩ := delete_exec hexec
    refine ⟨.returned ?_, hsame.update hkey rfl⟩
    simpa [XrefOp.timeless, Function.comp_def] using hsame.same parts key hkey

end Operation

/-- One after another, operations on accepted keys do alike in both stores. -/
theorem passes_alike {t t' : XrefTable} {rows rows' : XrefRows} {h h' : XrefHistory}
    (hsame : RowsAgree t rows) (hops : h.map Sigma.fst = h'.map Sigma.fst)
    (hkeys : ∀ ev ∈ h, ∃ key, dedupKey ev.1.parts = .ok key) (hpostgres : t.Passes h t')
    (hmem : rows.Passes h' rows') : List.Forall₂ AlikeEvents h h' ∧ RowsAgree t' rows' := by
  induction h generalizing t rows h' with
  | nil =>
    obtain rfl : h' = [] := List.map_eq_nil_iff.mp hops.symm
    obtain rfl := steps_nil.mp hpostgres
    obtain rfl := steps_nil.mp hmem
    exact ⟨.nil, hsame⟩
  | cons ev h ih =>
    obtain ⟨ev', h', rfl, hev, htail⟩ := List.map_eq_cons_iff.mp hops.symm
    obtain ⟨op, res⟩ := ev
    obtain ⟨op', res'⟩ := ev'
    obtain rfl : op' = op := hev
    obtain ⟨t₁, ⟨tr, hexec⟩, hpostgres⟩ := steps_cons.mp hpostgres
    obtain ⟨rows₁, ⟨now, hop⟩, hmem⟩ := steps_cons.mp hmem
    obtain ⟨key, hkey⟩ := hkeys _ (List.mem_cons_self ..)
    obtain ⟨halike, hsame⟩ := XrefOp.refines op' hkey hsame hexec hop
    obtain ⟨hrest, hsame⟩ := ih hsame htail.symm (fun ev hev => hkeys ev (List.mem_cons_of_mem _ hev))
      hpostgres hmem
    exact ⟨.cons (.intro halike) hrest, hsame⟩

/-! ## Concurrent claims -/

section Claims

variable {parts : DedupKeyParts} {input : ClaimInput} {t t' : XrefTable}
  {tr : List (Event XrefStatement fun _ => List XrefRowDb)} {res : Except Thrown ClaimResult}

/-- The statement with which a claim starts. -/
def insertion (input : ClaimInput) : XrefStatement :=
  ⟨input.parts, .insertOrNothing fun _ => PostgresXrefStore.pendingRow input⟩

/-- The statements of a claim, and its result: the insertion returns the new row, or the row
that is there is selected. -/
inductive ClaimRun (input : ClaimInput) :
    List (Event XrefStatement fun _ => List XrefRowDb) → Except Thrown ClaimResult → Prop
  | inserted (row : XrefRowDb) :
      ClaimRun input [⟨insertion input, [row]⟩] (.ok ⟨.claimed, toXrefRow row⟩)
  | found {rows : List XrefRowDb} (hrows : ∀ row, rows ≠ [row]) (row : XrefRowDb)
      (rest : List XrefRowDb) :
      ClaimRun input [⟨insertion input, rows⟩, ⟨⟨input.parts, .select⟩, row :: rest⟩]
        (.ok ⟨(toXrefRow row).claimOutcome, toXrefRow row⟩)
  | missing {rows : List XrefRowDb} (hrows : ∀ row, rows ≠ [row]) (e : Thrown) :
      ClaimRun input [⟨insertion input, rows⟩, ⟨⟨input.parts, .select⟩, []⟩] (.error e)

theorem claimRun_of_settles (h : Settles (PostgresXrefStore.claim input) tr res) :
    ClaimRun input tr res := by
  obtain ⟨e, rfl, hinsert⟩ | ⟨rows, t₁, t₂, rfl, hinsert, hrest⟩ := settles_bind.mp h
  · obtain ⟨_, _, he⟩ := settles_observe.mp hinsert
    cases he
  obtain ⟨_, rfl, hrows⟩ := settles_observe.mp hinsert
  cases hrows
  split at hrest
  · obtain ⟨rfl, rfl⟩ := settles_pure.mp hrest
    exact .inserted _
  · next hrows =>
    obtain ⟨e, rfl, hfetch⟩ | ⟨existing, t₃, t₄, rfl, hfetch, hends⟩ := settles_bind.mp hrest
    · obtain ⟨e, he, hselect⟩ | ⟨_, t₅, t₆, rfl, hselect, hpure⟩ := settles_bind.mp hfetch
      · obtain ⟨_, _, he⟩ := settles_observe.mp hselect
        cases he
      · cases (settles_pure.mp hpure).2
    · obtain ⟨e, he, hselect⟩ | ⟨selected, t₅, t₆, rfl, hselect, hpure⟩ := settles_bind.mp hfetch
      · cases he
      obtain ⟨_, rfl, hselected⟩ := settles_observe.mp hselect
      cases hselected
      obtain ⟨rfl, hexisting⟩ := settles_pure.mp hpure
      cases hexisting
      cases selected with
      | nil =>
        have hends : Settles (PostgresXrefStore.throwMissing _ _) _ _ := hends
        unfold PostgresXrefStore.throwMissing at hends
        split at hends
        · obtain ⟨rfl, rfl⟩ := settles_throw.mp hends
          exact .missing hrows _
        · obtain ⟨rfl, rfl⟩ := settles_throw.mp hends
          exact .missing hrows _
      | cons row rest =>
        obtain ⟨rfl, rfl⟩ := settles_pure.mp hends
        exact .found hrows row rest

/-- A statement of a claim of the key `parts`. -/
def OfClaim (parts : DedupKeyParts) (s : XrefStatement) : Prop :=
  (∃ input, input.parts = parts ∧ s = insertion input) ∨ s = ⟨parts, .select⟩

theorem ClaimRun.ofClaim (h : ClaimRun input tr res) : ∀ ev ∈ tr, OfClaim input.parts ev.1 := by
  have hinsertion : OfClaim input.parts (insertion input) := .inl ⟨input, rfl, rfl⟩
  cases h with
  | inserted row => simpa using hinsertion
  | found hrows row rest => simpa using ⟨hinsertion, .inr rfl⟩
  | missing hrows e => simpa using ⟨hinsertion, .inr rfl⟩

/-- The statement finds the pending row of another claim. -/
def Loses (parts : DedupKeyParts) (ev : Event XrefStatement fun _ => List XrefRowDb) : Prop :=
  ((∃ input, ev.1 = insertion input) → ev.2 = []) ∧
    (ev.1 = ⟨parts, .select⟩ → ∃ row, row.status = .pending ∧ ev.2 = [row])

/-- Where there is a pending row, a statement of a claim finds it and leaves it. -/
theorem loses_of_step {s : XrefStatement} {rows : List XrefRowDb} {row : XrefRowDb}
    (hs : OfClaim parts s) (hrow : t parts = some row) (hpending : row.status = .pending)
    (h : Sql.Step s t rows t') : Loses parts ⟨s, rows⟩ ∧ t' parts = some row := by
  obtain ⟨now, rfl, rfl⟩ := step_iff.mp h
  obtain ⟨input, rfl, rfl⟩ | rfl := hs
  · have hrow : t (insertion input).key = some row := hrow
    rw [hrow]
    refine ⟨⟨fun _ => rfl, fun hselect => ?_⟩, Function.update_self ..⟩
    cases congrArg Statement.action hselect
  · have hrow : t (Statement.mk parts .select : XrefStatement).key = some row := hrow
    rw [hrow]
    refine ⟨⟨fun hinsertion => ?_, fun _ => ⟨row, hpending, rfl⟩⟩, Function.update_self ..⟩
    obtain ⟨input, hinsertion⟩ := hinsertion
    cases congrArg Statement.action hinsertion

theorem loses_of_steps {row : XrefRowDb} (htr : ∀ ev ∈ tr, OfClaim parts ev.1)
    (hrow : t parts = some row) (hpending : row.status = .pending) (h : Sql.Steps t tr t') :
    ∀ ev ∈ tr, Loses parts ev := by
  induction h with
  | nil t => simp
  | cons hstep _ ih =>
    obtain ⟨hloses, hrow⟩ := loses_of_step (htr _ (List.mem_cons_self ..)) hrow hpending hstep
    exact List.forall_mem_cons.mpr ⟨hloses, ih (fun ev hev => htr ev (List.mem_cons_of_mem _ hev)) hrow⟩

/-- A claim whose statements all lose is told that the row is claimed. -/
theorem ClaimRun.alreadyClaimed (h : ClaimRun input tr res)
    (hloses : ∀ ev ∈ tr, Loses input.parts ev) : ∃ row, res = .ok ⟨.alreadyClaimed, row⟩ := by
  cases h with
  | inserted row =>
    have hinsert := hloses _ (List.mem_cons_self ..)
    cases hinsert.1 ⟨input, rfl⟩
  | found hrows row rest =>
    have hselect := hloses ⟨⟨input.parts, .select⟩, row :: rest⟩ (by simp)
    obtain ⟨row', hpending, heq⟩ := hselect.2 rfl
    obtain ⟨rfl, _⟩ := List.cons.inj heq
    have houtcome : (toXrefRow row).claimOutcome = .alreadyClaimed := by
      have hstatus : (toXrefRow row).status = .pending := hpending
      unfold XrefRow.claimOutcome
      rw [hstatus]
    exact ⟨toXrefRow row, by rw [houtcome]⟩
  | missing hrows e =>
    have hselect := hloses ⟨⟨input.parts, .select⟩, []⟩ (by simp)
    obtain ⟨row', _, heq⟩ := hselect.2 rfl
    cases heq

theorem ClaimRun.first {ev : Event XrefStatement fun _ => List XrefRowDb}
    (h : ClaimRun input (ev :: tr) res) : ev.1 = insertion input := by
  cases h <;> rfl

/-- A claim whose insertion returned its row has claimed the key. -/
theorem ClaimRun.claimed {row : XrefRowDb} {ev : Event XrefStatement fun _ => List XrefRowDb}
    (h : ClaimRun input (ev :: tr) res) (hrow : ev.2 = [row]) :
    res = .ok ⟨.claimed, toXrefRow row⟩ := by
  cases h with
  | inserted row' =>
    obtain ⟨rfl, _⟩ := List.cons.inj hrow
    rfl
  | found hrows => exact absurd hrow (hrows row)
  | missing hrows => exact absurd hrow (hrows row)

end Claims

section Interleaved

variable {ι : Type} [DecidableEq ι] [Nonempty ι] {input : ι → ClaimInput}
  {results : ι → Except Thrown ClaimResult} {parts : DedupKeyParts} {t t' : XrefTable}
  {log : List (ι × Event XrefStatement fun _ => List XrefRowDb)}

/-- Of interleaved claims of one absent key exactly one is new; the others are told that the
row is claimed. -/
theorem one_claims (hparts : ∀ i, (input i).parts = parts) (habsent : t parts = none)
    (h : Interleaves Sql.Step
      (fun i tr => Settles (PostgresXrefStore.claim (input i)) tr (results i)) t log t') :
    ∃ i, (∃ row, results i = .ok ⟨.claimed, row⟩) ∧
      ∀ j, j ≠ i → ∃ row, results j = .ok ⟨.alreadyClaimed, row⟩ := by
  have hruns (i : ι) : ClaimRun (input i) (callsOf i log) (results i) :=
    claimRun_of_settles (h.local_ i)
  have hkind : ∀ entry ∈ log, OfClaim parts entry.2.1 := by
    rintro ⟨i, ev⟩ hentry
    exact hparts i ▸ (hruns i).ofClaim ev (mem_callsOf hentry)
  cases log with
  | nil =>
    obtain ⟨i⟩ : Nonempty ι := inferInstance
    cases hruns i
  | cons entry log =>
    obtain ⟨i, ev⟩ := entry
    obtain ⟨t₁, hfirst, hrest⟩ := steps_cons.mp h.steps
    have hfirst : Sql.Step ev.1 t ev.2 t₁ := hfirst
    have hrun := hruns i
    rw [callsOf_cons_self] at hrun
    -- the first statement of all is the insertion of a claim, which finds no row
    have hinsertion : ev.1 = insertion (input i) := hrun.first
    have hkey : t ev.1.key = none := by
      rw [hinsertion]
      exact (congrArg t (hparts i)).trans habsent
    obtain ⟨now, hreturned, rfl⟩ := step_iff.mp hfirst
    rw [hkey, hinsertion] at hreturned
    have hrow : Function.update t ev.1.key (ev.1.action.run now (t ev.1.key)).2 parts =
        some (PostgresXrefStore.pendingRow (input i)) := by
      rw [hkey, hinsertion, ← hparts i]
      exact Function.update_self ..
    refine ⟨i, ⟨_, hrun.claimed hreturned.symm⟩, fun j hj => (hruns j).alreadyClaimed ?_⟩
    rw [callsOf_cons_of_ne (Ne.symm hj), hparts j]
    intro ev' hev'
    have hmem : ev' ∈ log.map Prod.snd := List.mem_map.mpr ⟨_, mem_of_mem_callsOf hev', rfl⟩
    refine loses_of_steps ?_ hrow rfl hrest ev' hmem
    intro ev'' hev''
    obtain ⟨entry, hentry, rfl⟩ := List.mem_map.mp hev''
    exact hkind entry (List.mem_cons_of_mem _ hentry)

end Interleaved

/-! ## The store -/

/-- The Postgres store refines the in-memory one: from empty stores, any operations on keys
that `dedupKey` accepts do alike in both and leave the same rows. Of claims of one absent key
whose statements interleave exactly one is new, and the others are told so. -/
theorem postgres_refines_inMemory :
    (∀ (h h' : XrefHistory) (t : XrefTable) (rows : XrefRows),
      h.map Sigma.fst = h'.map Sigma.fst →
      (∀ ev ∈ h, ∃ key, dedupKey ev.1.parts = .ok key) →
      XrefTable.Passes (fun _ => none) h t → XrefRows.Passes (fun _ => none) h' rows →
      List.Forall₂ AlikeEvents h h' ∧ RowsAgree t rows) ∧
    ∀ (ι : Type) [DecidableEq ι] [Nonempty ι] (input : ι → ClaimInput)
      (results : ι → Except Thrown ClaimResult) (parts : DedupKeyParts) (t t' : XrefTable)
      (log : List (ι × Event XrefStatement fun _ => List XrefRowDb)),
      (∀ i, (input i).parts = parts) → t parts = none →
      Interleaves Sql.Step
        (fun i tr => Settles (PostgresXrefStore.claim (input i)) tr (results i)) t log t' →
      ∃ i, (∃ row, results i = .ok ⟨.claimed, row⟩) ∧
        ∀ j, j ≠ i → ∃ row, results j = .ok ⟨.alreadyClaimed, row⟩ :=
  ⟨fun _ _ _ _ hops hkeys hpostgres hmem => passes_alike .empty hops hkeys hpostgres hmem,
    fun _ _ _ _ _ _ _ _ _ hparts habsent h => one_claims hparts habsent h⟩

/-- A claim of an order. -/
def orderClaim : ClaimInput where
  parts := ⟨.dev, "conn-a", .order, .shopify, "gid://shopify/Order/1"⟩
  targetSystem := .netsuite
  targetExternal := "gid://shopify/Order/1"

theorem orderClaim_key : dedupKey orderClaim.parts =
    .ok "dev|conn-a|order|shopify|gid://shopify/Order/1" := by
  have hvalid : ∀ v ∈ orderClaim.parts.values, v ≠ "" ∧ Js.includes v "|" = false := by
    decide +kernel
  exact dedupKeyWith_eq_ok.mpr ⟨hvalid, by decide +kernel⟩

theorem orderClaim_inserted :
    Settles (PostgresXrefStore.claim orderClaim)
      [⟨insertion orderClaim, [PostgresXrefStore.pendingRow orderClaim]⟩]
      (.ok ⟨.claimed, toXrefRow (PostgresXrefStore.pendingRow orderClaim)⟩) :=
  settles_bind.mpr (.inr ⟨_, [_], [], rfl, settles_observe.mpr ⟨_, rfl, rfl⟩,
    settles_pure.mpr ⟨rfl, rfl⟩⟩)

theorem orderClaim_found :
    Settles (PostgresXrefStore.claim orderClaim)
      [⟨insertion orderClaim, []⟩,
        ⟨⟨orderClaim.parts, .select⟩, [PostgresXrefStore.pendingRow orderClaim]⟩]
      (.ok ⟨.alreadyClaimed, toXrefRow (PostgresXrefStore.pendingRow orderClaim)⟩) := by
  have hfetch : Settles (PostgresXrefStore.fetch orderClaim.parts)
      [⟨⟨orderClaim.parts, .select⟩, [PostgresXrefStore.pendingRow orderClaim]⟩]
      (.ok (some (toXrefRow (PostgresXrefStore.pendingRow orderClaim)))) :=
    settles_bind.mpr (.inr ⟨_, [_], [], rfl, settles_observe.mpr ⟨_, rfl, rfl⟩,
      settles_pure.mpr ⟨rfl, rfl⟩⟩)
  refine settles_bind.mpr (.inr ⟨_, [_], [_], rfl, settles_observe.mpr ⟨_, rfl, rfl⟩, ?_⟩)
  exact settles_bind.mpr (.inr ⟨_, [_], [], rfl, hfetch, settles_pure.mpr ⟨rfl, rfl⟩⟩)

/-- The table after the insertion of the claim. -/
def orderClaimed : XrefTable :=
  Function.update (fun _ => none) orderClaim.parts (some (PostgresXrefStore.pendingRow orderClaim))

theorem orderClaim_insertion : Sql.Step (insertion orderClaim) (fun _ => none)
    [PostgresXrefStore.pendingRow orderClaim] orderClaimed := ⟨0, rfl⟩

/-- One claim in each store, and two claims at once of which the second loses. -/
theorem orderClaim_refines : (∃ h h' t rows, h.map Sigma.fst = [XrefOp.claim orderClaim] ∧
      List.Forall₂ AlikeEvents h h' ∧ RowsAgree t rows) ∧
    ∃ results : Bool → Except Thrown ClaimResult,
      ∃ i, (∃ row, results i = .ok ⟨.claimed, row⟩) ∧
        ∀ j, j ≠ i → ∃ row, results j = .ok ⟨.alreadyClaimed, row⟩ := by
  constructor
  · have hpostgres : XrefTable.Passes (fun _ => none)
        [⟨.claim orderClaim, .ok ⟨.claimed, toXrefRow (PostgresXrefStore.pendingRow orderClaim)⟩⟩]
        orderClaimed :=
      .cons ⟨_, orderClaim_inserted, .cons orderClaim_insertion (.nil _)⟩ (.nil _)
    have hmem : XrefRows.Passes (fun _ => none)
        [⟨.claim orderClaim, ((XrefOp.claim orderClaim).inMemory (fun _ => none) 0).1⟩] _ :=
      .cons ⟨0, rfl⟩ (.nil _)
    obtain ⟨halike, hsame⟩ := postgres_refines_inMemory.1 _ _ _ _ rfl
      (by simpa using ⟨_, orderClaim_key⟩) hpostgres hmem
    exact ⟨_, _, _, _, rfl, halike, hsame⟩
  · obtain ⟨results, hfirst, hsecond⟩ : ∃ results : Bool → Except Thrown ClaimResult,
        Settles (PostgresXrefStore.claim orderClaim)
          [⟨insertion orderClaim, [PostgresXrefStore.pendingRow orderClaim]⟩] (results true) ∧
        Settles (PostgresXrefStore.claim orderClaim)
          [⟨insertion orderClaim, []⟩,
            ⟨⟨orderClaim.parts, .select⟩, [PostgresXrefStore.pendingRow orderClaim]⟩]
          (results false) :=
      ⟨fun i => if i then _ else _, orderClaim_inserted, orderClaim_found⟩
    have hrow : orderClaimed orderClaim.parts = some (PostgresXrefStore.pendingRow orderClaim) :=
      Function.update_self ..
    have hstay (s : XrefStatement) (rows : List XrefRowDb) (hkey : s.key = orderClaim.parts)
        (hrun : s.action.run 0 (some (PostgresXrefStore.pendingRow orderClaim)) =
          (rows, some (PostgresXrefStore.pendingRow orderClaim))) :
        Sql.Step s orderClaimed rows orderClaimed := by
      refine step_iff.mpr ⟨0, ?_⟩
      rw [hkey, hrow, hrun]
      exact ⟨rfl, by rw [← hrow, Function.update_eq_self]⟩
    have hsteps : Interleaves Sql.Step
        (fun i tr => Settles (PostgresXrefStore.claim orderClaim) tr (results i)) (fun _ => none)
        [(true, ⟨insertion orderClaim, [PostgresXrefStore.pendingRow orderClaim]⟩),
          (false, ⟨insertion orderClaim, []⟩),
          (false, ⟨⟨orderClaim.parts, .select⟩, [PostgresXrefStore.pendingRow orderClaim]⟩)]
        orderClaimed := by
      refine ⟨.cons orderClaim_insertion ?_, ?_⟩
      · exact .cons (hstay _ _ rfl rfl) (.cons (hstay _ _ rfl rfl) (.nil _))
      · intro i
        cases i with
        | false => exact hsecond
        | true => exact hfirst
    exact ⟨results, postgres_refines_inMemory.2 Bool (fun _ => orderClaim) results _ _ _ _
      (fun _ => rfl) rfl hsteps⟩

end DpIntegrator
