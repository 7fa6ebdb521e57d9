import DpIntegrator.Effects.World
import DpIntegrator.Calls

/-!
# The world behind the calls

The stores as they are between calls, and how they answer. A store call is answered
with what its in-memory implementation computes, or fails and leaves the stores as
they are. Calls outside are answered in any way.
-/

namespace DpIntegrator

open Effects

/-- The stores. -/
structure World where
  connections : List Connection
  xref : XrefRows
  errors : ErrorRows
  syncLog : SyncLogRows
  attempts : List OrderAttempt
  queue : Queue
  watermarks : WatermarkRows

namespace World

/-- `findById`. -/
def findById (w : World) (environment : Environment) (connectionId : String) :
    Option Connection :=
  w.connections.find? fun c => c.environment = environment && c.connectionId = connectionId

/-- `findByShopDomain`. -/
def findByShopDomain (w : World) (environment : Environment) (shopDomain : String) :
    Option Connection :=
  w.connections.find? fun c => c.environment = environment &&
    Js.toLowerCase c.shopifyStore = Js.toLowerCase shopDomain

/-- Keep the rows that an operation on the xref store wrote. -/
def storeXref {α : Type} (w : World) : Except Thrown (α × XrefRows) → Except Thrown α × World
  | .ok (a, rows) => (.ok a, { w with xref := rows })
  | .error e => (.error e, w)

/-- How the stores answer a call at the time `now`; `none` for calls outside. -/
def serve (w : World) (now : ℤ) : (c : Call) → Option (Except Thrown c.Ret × World)
  | .findConnection environment connectionId => some (.ok (w.findById environment connectionId), w)
  | .findByShopDomain environment shopDomain =>
    some (.ok (w.findByShopDomain environment shopDomain), w)
  | .listEnabled environment =>
    some (.ok (w.connections.filter fun c => c.environment = environment && c.enabled), w)
  | .lookupXref parts => some (w.xref.lookup parts, w)
  | .claim input => some (w.storeXref (w.xref.claim input))
  | .recordSuccess parts targetId externalId =>
    some (w.storeXref (w.xref.recordSuccess parts targetId externalId now))
  | .recordFailure parts => some (w.storeXref (w.xref.recordFailure parts none))
  | .markIgnored parts => some (w.storeXref (w.xref.markIgnored parts))
  | .deleteXref parts => some (w.storeXref (w.xref.delete parts))
  | .recordError input => some (.ok (), { w with errors := w.errors.record input now })
  | .upsertSyncLog input => some (.ok (), { w with syncLog := w.syncLog.upsert input now })
  | .recordAttempt input =>
    some (.ok (), { w with attempts := recordAttemptRow w.attempts input now })
  | .enqueue sessionId body =>
    some (.ok (), { w with queue := w.queue.enqueue (some sessionId) body now })
  | .getWatermark parts => some (.ok (w.watermarks parts.text), w)
  | .setWatermark parts cursor =>
    some (.ok (), { w with watermarks := w.watermarks.set parts cursor now })
  | .putPayload .. | .resolveLookup .. | .getOrder .. | .tagOrder .. | .listOrdersUpdatedSince ..
  | .upsertByExternalId .. | .findByExternalId .. | .getCustomerAddressbook ..
  | .resolveItemId .. | .getSecret .. | .putEnvelope .. | .getDailyOrderAggregate ..
  | .listSyncLog .. | .upsertSnapshot .. => none

/-- One answered operation. -/
inductive Step : (o : Op) → World → o.Resp → World → Prop
  | served {c : Call} {w w' : World} {now : ℤ} {res : Except Thrown c.Ret}
      (h : w.serve now c = some (res, w')) : Step (.io c) w res w'
  | failed {c : Call} {w : World} (e : Thrown) : Step (.io c) w (.error e) w
  | outside {c : Call} {w : World} (h : c.isStore = false) (res : Except Thrown c.Ret) :
      Step (.io c) w res w
  | clock {w : World} (t : ℤ) : Step .clock w t w
  | track {w : World} (metric : Metric) : Step (.track metric) w () w

/-- A list of answered operations. -/
abbrev Steps : World → List Ev → World → Prop := Effects.Steps Step

/-- The status of the row of `key`, if there is a row. -/
def status (w : World) (key : String) : Option XrefStatus := (w.xref key).map XrefRow.status

/-! ## What one answered operation does -/

section Step

variable {w w' : World} {parts : DedupKeyParts}

theorem isStore_of_serve {c : Call} {now : ℤ} {out : Except Thrown c.Ret × World}
    (h : w.serve now c = some out) : c.isStore = true := by
  cases c <;> first | rfl | (simp [serve] at h)

theorem isStore_of_serve_none {c : Call} {now : ℤ} (h : w.serve now c = none) :
    c.isStore = false := by
  cases c <;> first | rfl | (simp [serve] at h)

/-- A call that fails leaves the stores as they are. -/
theorem Step.eq_of_error {c : Call} {e : Thrown} (h : Step (.io c) w (.error e) w') : w' = w := by
  cases h with
  | failed => rfl
  | outside => rfl
  | served h =>
    cases c <;> simp only [serve, Option.some.injEq, Prod.mk.injEq, reduceCtorEq, false_and] at h
    case lookupXref => exact h.2.symm
    all_goals
      unfold storeXref at h
      split at h
      · cases h
      · exact (Prod.mk.inj h).2.symm

/-- A store call that succeeds was served. -/
theorem Step.served_of_ok {c : Call} {r : c.Ret} (h : Step (.io c) w (.ok r) w')
    (hstore : c.isStore = true) : ∃ now, w.serve now c = some (.ok r, w') := by
  cases h with
  | served h => exact ⟨_, h⟩
  | outside hout => simp [hstore] at hout

/-- A call outside leaves the stores as they are. -/
theorem Step.eq_of_outside {c : Call} {res : Except Thrown c.Ret} (h : Step (.io c) w res w')
    (hout : c.isStore = false) : w' = w := by
  cases h with
  | served h => simp [isStore_of_serve h] at hout
  | failed => rfl
  | outside => rfl

theorem storeXref_eq_ok {α : Type} {x : Except Thrown (α × XrefRows)} {a : α}
    (h : w.storeXref x = (.ok a, w')) : ∃ rows, x = .ok (a, rows) ∧ w' = { w with xref := rows } := by
  unfold storeXref at h
  split at h
  · next a' rows =>
    simp only [Prod.mk.injEq, Except.ok.injEq] at h
    obtain ⟨rfl, rfl⟩ := h
    exact ⟨rows, rfl, rfl⟩
  · cases h

theorem Step.findConnection_ok {environment : Environment} {connectionId : String}
    {found : Option Connection}
    (h : Step (.io (.findConnection environment connectionId)) w (.ok found) w') :
    found = w.findById environment connectionId ∧ w' = w := by
  obtain ⟨now, h⟩ := h.served_of_ok rfl
  simp only [serve, Option.some.injEq, Prod.mk.injEq, Except.ok.injEq] at h
  exact ⟨h.1.symm, h.2.symm⟩

theorem Step.findByShopDomain_ok {environment : Environment} {shopDomain : String}
    {found : Option Connection}
    (h : Step (.io (.findByShopDomain environment shopDomain)) w (.ok found) w') :
    found = w.findByShopDomain environment shopDomain ∧ w' = w := by
  obtain ⟨now, h⟩ := h.served_of_ok rfl
  simp only [serve, Option.some.injEq, Prod.mk.injEq, Except.ok.injEq] at h
  exact ⟨h.1.symm, h.2.symm⟩

theorem Step.lookupXref_ok {found : Option XrefRow}
    (h : Step (.io (.lookupXref parts)) w (.ok found) w') :
    ∃ key, dedupKey parts = .ok key ∧ found = w.xref key ∧ w' = w := by
  obtain ⟨now, h⟩ := h.served_of_ok rfl
  simp only [serve, Option.some.injEq, Prod.mk.injEq] at h
  obtain ⟨key, hkey, hfound⟩ := XrefRows.lookup_eq_ok h.1
  exact ⟨key, hkey, hfound, h.2.symm⟩

/-- A claim that succeeds answers about the row or writes a pending one. -/
theorem Step.claim_ok {input : ClaimInput} {res : ClaimResult}
    (h : Step (.io (.claim input)) w (.ok res) w') :
    ∃ key, dedupKey input.parts = .ok key ∧
      ((∃ row, w.xref key = some row ∧ res = ⟨row.claimOutcome, row⟩ ∧ w' = w) ∨
        (w.xref key = none ∧ res = ⟨.claimed, input.newRow⟩ ∧
          w' = { w with xref := w.xref.put key input.newRow })) := by
  obtain ⟨now, h⟩ := h.served_of_ok rfl
  obtain ⟨rows, hrows, rfl⟩ := storeXref_eq_ok (Option.some.inj h)
  obtain ⟨key, hkey, ⟨row, hrow, hres, rfl⟩ | ⟨hrow, hres, rfl⟩⟩ := XrefRows.claim_eq_ok hrows
  · exact ⟨key, hkey, .inl ⟨row, hrow, hres, rfl⟩⟩
  · exact ⟨key, hkey, .inr ⟨hrow, hres, rfl⟩⟩

theorem Step.recordSuccess_ok {targetId externalId : String} {row : XrefRow}
    (h : Step (.io (.recordSuccess parts targetId externalId)) w (.ok row) w') :
    ∃ key, dedupKey parts = .ok key ∧ w.xref key ≠ none ∧ row.status = .synced ∧
      row.targetId = some targetId ∧ w' = { w with xref := w.xref.put key row } := by
  obtain ⟨now, h⟩ := h.served_of_ok rfl
  obtain ⟨rows, hrows, rfl⟩ := storeXref_eq_ok (Option.some.inj h)
  obtain ⟨key, existing, hkey, hrow, hstatus, htarget, rfl⟩ := XrefRows.recordSuccess_eq_ok hrows
  exact ⟨key, hkey, by simp [hrow], hstatus, htarget, rfl⟩

theorem Step.recordFailure_ok {row : XrefRow}
    (h : Step (.io (.recordFailure parts)) w (.ok row) w') :
    ∃ key, dedupKey parts = .ok key ∧ w.xref key ≠ none ∧ row.status = .error ∧
      w' = { w with xref := w.xref.put key row } := by
  obtain ⟨now, h⟩ := h.served_of_ok rfl
  obtain ⟨rows, hrows, rfl⟩ := storeXref_eq_ok (Option.some.inj h)
  obtain ⟨key, existing, hkey, hrow, hstatus, rfl⟩ := XrefRows.recordFailure_eq_ok hrows
  exact ⟨key, hkey, by simp [hrow], hstatus, rfl⟩

theorem Step.markIgnored_ok {row : XrefRow}
    (h : Step (.io (.markIgnored parts)) w (.ok row) w') :
    ∃ key, dedupKey parts = .ok key ∧ row.status = .ignored ∧
      w' = { w with xref := w.xref.put key row } := by
  obtain ⟨now, h⟩ := h.served_of_ok rfl
  obtain ⟨rows, hrows, rfl⟩ := storeXref_eq_ok (Option.some.inj h)
  obtain ⟨key, hkey, hstatus, rfl⟩ := XrefRows.markIgnored_eq_ok hrows
  exact ⟨key, hkey, hstatus, rfl⟩

theorem Step.deleteXref_ok {removed : Option XrefRow}
    (h : Step (.io (.deleteXref parts)) w (.ok removed) w') :
    ∃ key, dedupKey parts = .ok key ∧ removed = w.xref key ∧
      w' = { w with xref := w.xref.drop key } := by
  obtain ⟨now, h⟩ := h.served_of_ok rfl
  obtain ⟨rows, hrows, rfl⟩ := storeXref_eq_ok (Option.some.inj h)
  obtain ⟨key, hkey, hremoved, rfl⟩ := XrefRows.delete_eq_ok hrows
  exact ⟨key, hkey, hremoved, rfl⟩

theorem Step.recordError_ok {input : NewErrorInput} {u : Unit}
    (h : Step (.io (.recordError input)) w (.ok u) w') :
    ∃ now, w' = { w with errors := w.errors.record input now } := by
  obtain ⟨now, h⟩ := h.served_of_ok rfl
  simp only [serve, Option.some.injEq, Prod.mk.injEq] at h
  exact ⟨now, h.2.symm⟩

theorem Step.upsertSyncLog_ok {input : OrderSyncLogInput} {u : Unit}
    (h : Step (.io (.upsertSyncLog input)) w (.ok u) w') :
    ∃ now, w' = { w with syncLog := w.syncLog.upsert input now } := by
  obtain ⟨now, h⟩ := h.served_of_ok rfl
  simp only [serve, Option.some.injEq, Prod.mk.injEq] at h
  exact ⟨now, h.2.symm⟩

theorem Step.recordAttempt_ok {input : OrderAttemptInput} {u : Unit}
    (h : Step (.io (.recordAttempt input)) w (.ok u) w') :
    ∃ now, w' = { w with attempts := recordAttemptRow w.attempts input now } := by
  obtain ⟨now, h⟩ := h.served_of_ok rfl
  simp only [serve, Option.some.injEq, Prod.mk.injEq] at h
  exact ⟨now, h.2.symm⟩

theorem Step.enqueue_ok {sessionId : String} {body : OrderWebhookMessage} {u : Unit}
    (h : Step (.io (.enqueue sessionId body)) w (.ok u) w') :
    ∃ now, w' = { w with queue := w.queue.enqueue (some sessionId) body now } := by
  obtain ⟨now, h⟩ := h.served_of_ok rfl
  simp only [serve, Option.some.injEq, Prod.mk.injEq] at h
  exact ⟨now, h.2.symm⟩

end Step

/-! ## What every answered operation keeps -/

/-- No operation changes the connections. -/
theorem Step.connections_eq {o : Op} {w w' : World} {res : o.Resp} (h : Step o w res w') :
    w'.connections = w.connections := by
  cases h with
  | @served c _ _ _ res h =>
    cases c <;> simp only [serve, Option.some.injEq, reduceCtorEq] at h
    all_goals first
      | (obtain rfl := (Prod.mk.inj h).2; rfl)
      | (unfold storeXref at h; split at h <;> (obtain rfl := (Prod.mk.inj h).2; rfl))
  | failed | outside | clock | track => rfl

theorem Steps.connections_eq {tr : List Ev} {w w' : World} (h : Steps w tr w') :
    w'.connections = w.connections :=
  Effects.Steps.frame h fun _ _ _ _ hs => hs.connections_eq

/-- Other calls write no attempt row. -/
theorem Step.attempts_same {c : Call} {w w' : World} {r : Except Thrown c.Ret}
    (h : Step (.io c) w r w') (hc : ∀ input, c ≠ .recordAttempt input) :
    w'.attempts = w.attempts := by
  cases h with
  | @served _ _ _ _ _ h =>
    cases c <;> simp only [serve, Option.some.injEq, reduceCtorEq] at h
    case recordAttempt input => exact absurd rfl (hc input)
    all_goals first
      | (obtain rfl := (Prod.mk.inj h).2; rfl)
      | (unfold storeXref at h; split at h <;> (obtain rfl := (Prod.mk.inj h).2; rfl))
  | failed | outside => rfl

/-- Other calls write no ledger row. -/
theorem Step.syncLog_same {c : Call} {w w' : World} {r : Except Thrown c.Ret}
    (h : Step (.io c) w r w') (hc : ∀ input, c ≠ .upsertSyncLog input) :
    w'.syncLog = w.syncLog := by
  cases h with
  | @served _ _ _ _ _ h =>
    cases c <;> simp only [serve, Option.some.injEq, reduceCtorEq] at h
    case upsertSyncLog input => exact absurd rfl (hc input)
    all_goals first
      | (obtain rfl := (Prod.mk.inj h).2; rfl)
      | (unfold storeXref at h; split at h <;> (obtain rfl := (Prod.mk.inj h).2; rfl))
  | failed | outside => rfl

end World

end DpIntegrator
