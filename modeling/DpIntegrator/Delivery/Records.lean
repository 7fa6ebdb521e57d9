import DpIntegrator.World
import DpIntegrator.Delivery.Exits

/-!
# What deliveries do to the records

The xref rows, the error records and the ledger depend on the main calls only. This
file projects executions to their main calls and collects what store calls do to the
rows: which row they write, and that a row stays until it is deleted.
-/

namespace DpIntegrator

open Effects

namespace World

/-- The world without its attempt rows, which no main call reads or writes. -/
def forget (w : World) : World := { w with attempts := [] }

@[simp] theorem forget_xref (w : World) : w.forget.xref = w.xref := rfl
@[simp] theorem forget_errors (w : World) : w.forget.errors = w.errors := rfl
@[simp] theorem forget_syncLog (w : World) : w.forget.syncLog = w.syncLog := rfl
@[simp] theorem forget_status (w : World) (key : String) : w.forget.status key = w.status key := rfl

theorem storeXref_forget {α : Type} {w w' : World} {x : Except Thrown (α × XrefRows)}
    {r : Except Thrown α} (h : w.storeXref x = (r, w')) :
    w.forget.storeXref x = (r, w'.forget) := by
  unfold storeXref at h ⊢
  split at h <;> (cases h; rfl)

/-- Calls other than the attempt row neither read nor write attempt rows. -/
theorem Step.forget {c : Call} {w w' : World} {r : Except Thrown c.Ret}
    (h : Step (.io c) w r w') (hbest : c.isBestEffort = false) :
    Step (.io c) w.forget r w'.forget := by
  cases h with
  | failed e => exact .failed e
  | outside hout => exact .outside hout r
  | @served _ _ _ now _ h =>
    suffices hserve : w.forget.serve now c = some (r, w'.forget) from .served hserve
    cases c
    case recordAttempt => simp [Call.isBestEffort] at hbest
    all_goals simp only [serve, Option.some.injEq, Prod.mk.injEq, reduceCtorEq] at h ⊢
    all_goals first
      | exact storeXref_forget h
      | (obtain ⟨rfl, rfl⟩ := h; exact ⟨rfl, rfl⟩)

/-- What is not a main call leaves all but the attempt rows as they are. -/
theorem Step.forget_eq {ev : Ev} {w w' : World} (h : Step ev.1 w ev.2 w')
    (hmain : isMain ev = false) : w'.forget = w.forget := by
  obtain ⟨o, r⟩ := ev
  cases o with
  | clock | track => cases h; rfl
  | io c =>
    cases r with
    | error e => rw [h.eq_of_error]
    | ok r =>
      cases c
      case recordAttempt input =>
        obtain ⟨now, rfl⟩ := h.recordAttempt_ok
        rfl
      all_goals first
        | rw [h.eq_of_outside rfl]
        | simp [isMain, Call.isBestEffort, Call.isPreparatory] at hmain

/-- An execution does to the records what its main calls do. -/
theorem Steps.main {tr : List Ev} {w w' : World} (h : Steps w tr w') :
    Steps w.forget (main tr) w'.forget := by
  induction h with
  | nil w => exact .nil _
  | @cons o r w w₁ w' tr hstep _ ih =>
    cases hmain : isMain ⟨o, r⟩ with
    | false =>
      rw [main_cons_of_not hmain, ← Step.forget_eq hstep hmain]
      exact ih
    | true =>
      rw [main_cons_of_main hmain]
      obtain ⟨c, rfl⟩ : ∃ c, o = .io c := by
        cases o with
        | io c => exact ⟨c, rfl⟩
        | clock | track => simp [isMain] at hmain
      have hbest : c.isBestEffort = false := by
        simp only [isMain, Bool.and_eq_true, Bool.not_eq_true'] at hmain
        exact hmain.1
      exact .cons (hstep.forget hbest) ih

/-! ## Rows -/

/-- The key whose row an answered call wrote, and the row that it left there. -/
def rowWritten : Ev → Option (DedupKeyParts × Option XrefRow)
  | ⟨.io (.claim input), .ok res⟩ =>
    if res.outcome = .claimed then some (input.parts, some res.row) else none
  | ⟨.io (.recordSuccess parts _ _), .ok row⟩ | ⟨.io (.recordFailure parts), .ok row⟩
  | ⟨.io (.markIgnored parts), .ok row⟩ => some (parts, some row)
  | ⟨.io (.deleteXref parts), .ok _⟩ => some (parts, none)
  | _ => none

/-- A call that failed wrote nothing. -/
theorem rowWritten_error {c : Call} {e : Thrown} : rowWritten (answered c (.error e)) = none := by
  cases c <;> rfl

/-- What one answered operation can do to the rows: nothing, or one of the five changes
that the store makes, each to the row of one key. -/
inductive XrefChange (rows : XrefRows) : Ev → XrefRows → Prop
  | same {ev : Ev} (hquiet : rowWritten ev = none) : XrefChange rows ev rows
  | claimed {input : ClaimInput} {key : String} (hkey : dedupKey input.parts = .ok key)
      (hrow : rows key = none) :
      XrefChange rows (answered (.claim input) (.ok ⟨.claimed, input.newRow⟩))
        (rows.put key input.newRow)
  | synced {parts : DedupKeyParts} {targetId externalId key : String} {row : XrefRow}
      (hkey : dedupKey parts = .ok key) (hrow : rows key ≠ none) (hstatus : row.status = .synced)
      (htarget : row.targetId = some targetId) :
      XrefChange rows (answered (.recordSuccess parts targetId externalId) (.ok row))
        (rows.put key row)
  | failed {parts : DedupKeyParts} {key : String} {row : XrefRow}
      (hkey : dedupKey parts = .ok key) (hrow : rows key ≠ none) (hstatus : row.status = .error) :
      XrefChange rows (answered (.recordFailure parts) (.ok row)) (rows.put key row)
  | ignored {parts : DedupKeyParts} {key : String} {row : XrefRow}
      (hkey : dedupKey parts = .ok key) (hstatus : row.status = .ignored) :
      XrefChange rows (answered (.markIgnored parts) (.ok row)) (rows.put key row)
  | deleted {parts : DedupKeyParts} {key : String} (hkey : dedupKey parts = .ok key) :
      XrefChange rows (answered (.deleteXref parts) (.ok (rows key))) (rows.drop key)

theorem Step.xrefChange {ev : Ev} {w w' : World} (h : Step ev.1 w ev.2 w') :
    XrefChange w.xref ev w'.xref := by
  obtain ⟨o, r⟩ := ev
  cases o with
  | clock | track => cases h; exact .same rfl
  | io c =>
    cases r with
    | error e =>
      rw [h.eq_of_error]
      exact .same rowWritten_error
    | ok r =>
      cases c
      case claim input =>
        obtain ⟨key, hkey, ⟨row, hrow, hr, rfl⟩ | ⟨hrow, hr, rfl⟩⟩ := h.claim_ok
        · exact .same (by simp [rowWritten, hr, row.claimOutcome_ne_claimed])
        · subst hr
          exact .claimed hkey hrow
      case recordSuccess =>
        obtain ⟨key, hkey, hrow, hstatus, htarget, rfl⟩ := h.recordSuccess_ok
        exact .synced hkey hrow hstatus htarget
      case recordFailure =>
        obtain ⟨key, hkey, hrow, hstatus, rfl⟩ := h.recordFailure_ok
        exact .failed hkey hrow hstatus
      case markIgnored =>
        obtain ⟨key, hkey, hstatus, rfl⟩ := h.markIgnored_ok
        exact .ignored hkey hstatus
      case deleteXref =>
        obtain ⟨key, hkey, hr, rfl⟩ := h.deleteXref_ok
        subst hr
        exact .deleted hkey
      all_goals first
        | (rw [h.eq_of_outside rfl]; exact .same rfl)
        | (obtain ⟨now, h⟩ := h.served_of_ok rfl
           simp only [serve, Option.some.injEq, Prod.mk.injEq] at h
           obtain rfl := h.2
           exact .same rfl)

/-- The parts of the key whose row an operation may write. -/
def rowOf : Ev → Option DedupKeyParts
  | ⟨.io (.claim input), _⟩ => some input.parts
  | ⟨.io (.recordSuccess parts _ _), _⟩ | ⟨.io (.recordFailure parts), _⟩
  | ⟨.io (.markIgnored parts), _⟩ | ⟨.io (.deleteXref parts), _⟩ => some parts
  | _ => none

section Change

variable {ev : Ev} {rows rows' : XrefRows} {key : String}

theorem put_ne_none {k : String} {row : XrefRow} (hrow : rows key ≠ none) :
    rows.put k row key ≠ none := by
  by_cases hk : key = k
  · subst hk
    simp
  · rwa [XrefRows.put_of_ne hk]

/-- A row that is present stays present, unless it is deleted. -/
theorem XrefChange.row_ne_none (h : XrefChange rows ev rows')
    (hdelete : ∀ parts r, ev ≠ answered (.deleteXref parts) r) (hrow : rows key ≠ none) :
    rows' key ≠ none := by
  cases h with
  | same => exact hrow
  | claimed | synced | failed | ignored => exact put_ne_none hrow
  | deleted => exact absurd rfl (hdelete _ _)

/-- A change writes the row of the key of its call, and no other. -/
theorem XrefChange.eq_or_key (h : XrefChange rows ev rows') (key : String) :
    rows' key = rows key ∨ ∃ parts, rowOf ev = some parts ∧ dedupKey parts = .ok key := by
  have hput {k : String} {parts : DedupKeyParts} (hkey : dedupKey parts = .ok k)
      (hev : rowOf ev = some parts) (value : Option XrefRow) :
      Function.update rows k value key = rows key ∨
        ∃ parts, rowOf ev = some parts ∧ dedupKey parts = .ok key := by
    by_cases hk : key = k
    · subst hk
      exact .inr ⟨parts, hev, hkey⟩
    · exact .inl (Function.update_of_ne hk ..)
  cases h with
  | same => exact .inl rfl
  | claimed hkey => exact hput hkey rfl _
  | synced hkey => exact hput hkey rfl _
  | failed hkey => exact hput hkey rfl _
  | ignored hkey => exact hput hkey rfl _
  | deleted hkey => exact hput hkey rfl _

end Change

/-- Calls that write the rows of other keys leave the row of a key as it is. -/
theorem Steps.row_eq {tr : List Ev} {w w' : World} {key : String} (h : Steps w tr w')
    (hrow : ∀ ev ∈ tr, ∀ parts, rowOf ev = some parts → dedupKey parts ≠ .ok key) :
    w'.xref key = w.xref key := by
  refine h.frame (f := fun w => w.xref key) fun ev hev w w' hs => ?_
  obtain heq | ⟨parts, hparts, hkey⟩ := hs.xrefChange.eq_or_key key
  · exact heq
  · exact absurd hkey (hrow ev hev parts hparts)

/-- Calls that write no row leave all rows as they are. -/
theorem Steps.xref_eq {tr : List Ev} {w w' : World} (h : Steps w tr w')
    (hrow : ∀ ev ∈ tr, rowOf ev = none) : w'.xref = w.xref := by
  funext key
  refine h.row_eq fun ev hev parts hparts => ?_
  simp [hrow ev hev] at hparts

/-- A row that is present stays present through calls that delete nothing. -/
theorem Steps.row_ne_none {tr : List Ev} {w w' : World} {key : String} (h : Steps w tr w')
    (hdelete : ∀ parts r, answered (.deleteXref parts) r ∉ tr) (hrow : w.xref key ≠ none) :
    w'.xref key ≠ none :=
  h.preserves (P := fun w => w.xref key ≠ none) (fun _ hev _ _ hs hw =>
    hs.xrefChange.row_ne_none (fun parts r heq => hdelete parts r (heq ▸ hev)) hw) hrow

end World

end DpIntegrator
