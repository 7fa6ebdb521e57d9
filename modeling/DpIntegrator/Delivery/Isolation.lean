import DpIntegrator.Delivery.Import
import DpIntegrator.Delivery.TwoRuns

/-!
# Isolation of orders

A message is handled without regard to other orders. A pattern fixes which store calls fail
and how Shopify, NetSuite and the archives answer; under one pattern, stores that agree on
the rows of the order make the handler do the same and leave the same rows of the order.
-/

namespace DpIntegrator

open Effects

variable {k : OrderKey} {d : Delivery} {w w' w₁ w₂ w₁' w₂' : World} {parts : DedupKeyParts}

/-! ## Rows of an order, times aside -/

/-- A ledger row without its id and its times. -/
def OrderSyncLog.timeless (row : OrderSyncLog) : OrderSyncLog :=
  { row with
    toOrderSyncLogInput := row.toOrderSyncLogInput.timeless
    id := "", createdAt := 0, updatedAt := 0 }

/-- An attempt row without its id and its times. -/
def OrderAttempt.timeless (row : OrderAttempt) : OrderAttempt :=
  { row with toOrderAttemptInput := row.toOrderAttemptInput.timeless, id := "", createdAt := 0 }

/-- The rows of one order in two xref stores are the same. -/
def SameRow (parts : DedupKeyParts) (rows₁ rows₂ : XrefRows) : Prop :=
  ∀ key, dedupKey parts = .ok key →
    (rows₁ key).map XrefRow.timeless = (rows₂ key).map XrefRow.timeless

/-- Two worlds agree on the order `k`: on its connection and on its rows. -/
structure SameOrder (k : OrderKey) (w₁ w₂ : World) : Prop where
  connection : w₁.findById k.environment k.connectionId = w₂.findById k.environment k.connectionId
  xref : SameRow k.parts w₁.xref w₂.xref
  ledger : (w₁.ledgerRow k).map OrderSyncLog.timeless = (w₂.ledgerRow k).map OrderSyncLog.timeless
  attempts : (w₁.attemptsOf k).map OrderAttempt.timeless =
    (w₂.attemptsOf k).map OrderAttempt.timeless

/-! ## Operations on the xref rows -/

section Xref

variable {α : Type} {rows₁ rows₂ : XrefRows}

/-- Two results of an operation on the xref rows, of which only one row matters. -/
inductive SameRows (parts : DedupKeyParts) (aside : α → α) :
    Except Thrown (α × XrefRows) → Except Thrown (α × XrefRows) → Prop
  | error (e : Thrown) : SameRows parts aside (.error e) (.error e)
  | ok {a b : α} {rows₁ rows₂ : XrefRows} (h : aside a = aside b) (hrow : SameRow parts rows₁ rows₂) :
      SameRows parts aside (.ok (a, rows₁)) (.ok (b, rows₂))

theorem SameRow.put {key : String} {a b : XrefRow} (hkey : dedupKey parts = .ok key)
    (h : a.timeless = b.timeless) : SameRow parts (rows₁.put key a) (rows₂.put key b) := by
  intro key' hkey'
  obtain rfl : key' = key := Except.ok.inj (hkey'.symm.trans hkey)
  simp [h]

theorem SameRow.drop {key : String} (hkey : dedupKey parts = .ok key) :
    SameRow parts (rows₁.drop key) (rows₂.drop key) := by
  intro key' hkey'
  obtain rfl : key' = key := Except.ok.inj (hkey'.symm.trans hkey)
  simp

/-- There is no row, or there are two that differ in their times only. -/
theorem SameRow.cases_on {key : String} (h : SameRow parts rows₁ rows₂)
    (hkey : dedupKey parts = .ok key) :
    (rows₁ key = none ∧ rows₂ key = none) ∨
      ∃ a b, rows₁ key = some a ∧ rows₂ key = some b ∧ a.timeless = b.timeless := by
  have hrow := h key hkey
  cases h₁ : rows₁ key with
  | none =>
    rw [h₁] at hrow
    exact .inl ⟨rfl, Option.map_eq_none_iff.mp hrow.symm⟩
  | some a =>
    rw [h₁] at hrow
    obtain ⟨b, h₂, hb⟩ := Option.map_eq_some_iff.mp hrow.symm
    exact .inr ⟨a, b, rfl, h₂, hb.symm⟩

theorem XrefRow.claimOutcome_timeless (row : XrefRow) :
    row.timeless.claimOutcome = row.claimOutcome := rfl

theorem sameRows_lookup (h : SameRow parts rows₁ rows₂) :
    (rows₁.lookup parts).map (Option.map XrefRow.timeless) =
      (rows₂.lookup parts).map (Option.map XrefRow.timeless) := by
  unfold XrefRows.lookup
  cases hkey : dedupKey parts with
  | error e => rfl
  | ok key => exact congrArg Except.ok (h key hkey)

theorem sameRows_claim {input : ClaimInput} (h : SameRow input.parts rows₁ rows₂) :
    SameRows input.parts ClaimResult.timeless (rows₁.claim input) (rows₂.claim input) := by
  unfold XrefRows.claim
  cases hkey : dedupKeyWith input.parts input.more with
  | error e => exact .error e
  | ok key =>
    have hkey' : dedupKey input.parts = .ok key := dedupKey_of_dedupKeyWith hkey
    obtain ⟨h₁, h₂⟩ | ⟨a, b, h₁, h₂, hab⟩ := h.cases_on hkey'
    · simp only [bind, Except.bind, h₁, h₂]
      exact .ok rfl (.put hkey' rfl)
    · have houtcome : a.claimOutcome = b.claimOutcome := by
        rw [← a.claimOutcome_timeless, hab, b.claimOutcome_timeless]
      simp only [bind, Except.bind, h₁, h₂]
      refine .ok ?_ h
      simp [ClaimResult.timeless, hab, houtcome]

theorem sameRows_recordSuccess {targetId externalId : String} {now now' : ℤ}
    (h : SameRow parts rows₁ rows₂) :
    SameRows parts XrefRow.timeless (rows₁.recordSuccess parts targetId externalId now)
      (rows₂.recordSuccess parts targetId externalId now') := by
  unfold XrefRows.recordSuccess
  cases hkey : dedupKey parts with
  | error e => exact .error e
  | ok key =>
    obtain ⟨h₁, h₂⟩ | ⟨a, b, h₁, h₂, hab⟩ := h.cases_on hkey
    · simp only [bind, Except.bind, h₁, h₂]
      exact .error _
    · have hrow : XrefRow.timeless { a with
          targetId := some targetId, targetExternal := externalId, status := .synced
          lastSyncedAt := some now } = XrefRow.timeless { b with
          targetId := some targetId, targetExternal := externalId, status := .synced
          lastSyncedAt := some now' } := by
        simp only [XrefRow.timeless, XrefRow.mk.injEq] at hab ⊢
        simp [hab]
      simp only [bind, Except.bind, h₁, h₂]
      exact .ok hrow (.put hkey hrow)

theorem sameRows_recordFailure (h : SameRow parts rows₁ rows₂) :
    SameRows parts XrefRow.timeless (rows₁.recordFailure parts none)
      (rows₂.recordFailure parts none) := by
  unfold XrefRows.recordFailure
  cases hkey : dedupKey parts with
  | error e => exact .error e
  | ok key =>
    obtain ⟨h₁, h₂⟩ | ⟨a, b, h₁, h₂, hab⟩ := h.cases_on hkey
    · simp only [bind, Except.bind, h₁, h₂]
      exact .error _
    · have hrow : XrefRow.timeless { a with status := .error, sourceHash := none.or a.sourceHash } =
          XrefRow.timeless { b with status := .error, sourceHash := none.or b.sourceHash } := by
        simp only [XrefRow.timeless, XrefRow.mk.injEq] at hab ⊢
        simp [hab]
      simp only [bind, Except.bind, h₁, h₂]
      exact .ok hrow (.put hkey hrow)

theorem sameRows_markIgnored (h : SameRow parts rows₁ rows₂) :
    SameRows parts XrefRow.timeless (rows₁.markIgnored parts) (rows₂.markIgnored parts) := by
  unfold XrefRows.markIgnored
  cases hkey : dedupKey parts with
  | error e => exact .error e
  | ok key =>
    obtain ⟨h₁, h₂⟩ | ⟨a, b, h₁, h₂, hab⟩ := h.cases_on hkey
    · simp only [bind, Except.bind, h₁, h₂]
      exact .ok rfl (.put hkey rfl)
    · have hrow : XrefRow.timeless { a with status := .ignored } =
          XrefRow.timeless { b with status := .ignored } := by
        simp only [XrefRow.timeless, XrefRow.mk.injEq] at hab ⊢
        simp [hab]
      simp only [bind, Except.bind, h₁, h₂]
      exact .ok hrow (.put hkey hrow)

/-- Storing the rows that an operation leaves keeps the worlds agreeing. -/
theorem SameOrder.storeXref (hS : SameOrder k w₁ w₂) {aside : α → α}
    {x₁ x₂ : Except Thrown (α × XrefRows)} (h : SameRows k.parts aside x₁ x₂) :
    (w₁.storeXref x₁).1.map aside = (w₂.storeXref x₂).1.map aside ∧
      SameOrder k (w₁.storeXref x₁).2 (w₂.storeXref x₂).2 := by
  cases h with
  | error e => exact ⟨rfl, hS⟩
  | ok h hrow => exact ⟨congrArg Except.ok h, { hS with xref := hrow }⟩

end Xref

/-! ## Patterns of results -/

/-- Which store calls fail, and what is answered outside, by the number of operations before. -/
structure Pattern where
  fails : ℕ → Option Thrown
  answers : ℕ → (c : Call) → Except Thrown c.Ret

namespace Pattern

/-- One operation, answered by the stores and the pattern; the time and the clock are free. -/
inductive Step (p : Pattern) : (o : Op) → ℕ × World → o.Resp → ℕ × World → Prop
  | served {c : Call} {n : ℕ} {w w' : World} {now : ℤ} {res : Except Thrown c.Ret}
      (hfails : p.fails n = none) (h : w.serve now c = some (res, w')) :
      Step p (.io c) (n, w) res (n + 1, w')
  | failed {c : Call} {n : ℕ} {w : World} {e : Thrown} (hstore : c.isStore = true)
      (h : p.fails n = some e) : Step p (.io c) (n, w) (.error e) (n + 1, w)
  | outside {c : Call} {n : ℕ} {w : World} (h : c.isStore = false) :
      Step p (.io c) (n, w) (p.answers n c) (n + 1, w)
  | clock {n : ℕ} {w : World} (t : ℤ) : Step p .clock (n, w) t (n + 1, w)
  | track {n : ℕ} {w : World} (metric : Metric) : Step p (.track metric) (n, w) () (n + 1, w)

/-- An execution under a pattern, from its start. -/
def Exec {α : Type} (p : Pattern) (x : Async α) (w : World) (tr : List Ev) (res : Except Thrown α)
    (w' : World) : Prop :=
  ∃ n, Effects.Exec p.Step x.run (0, w) tr res (n, w')

variable {p : Pattern}

/-- What is answered under a pattern, the world may answer. -/
theorem Step.world {o : Op} {s s' : ℕ × World} {res : o.Resp} (h : p.Step o s res s') :
    World.Step o s.2 res s'.2 := by
  cases h with
  | served _ h => exact .served h
  | failed _ _ => exact .failed _
  | outside h => exact .outside h _
  | clock t => exact .clock t
  | track metric => exact .track metric

/-- A pattern answers every operation. -/
theorem total (p : Pattern) (o : Op) (s : ℕ × World) : ∃ res s', p.Step o s res s' := by
  obtain ⟨n, w⟩ := s
  cases o with
  | clock => exact ⟨_, _, .clock (0 : ℤ)⟩
  | track metric => exact ⟨_, _, .track metric⟩
  | io c =>
    cases hserve : w.serve 0 c with
    | none => exact ⟨_, _, .outside (World.isStore_of_serve_none hserve)⟩
    | some out =>
      cases hfails : p.fails n with
      | none => exact ⟨_, _, .served hfails hserve⟩
      | some e => exact ⟨_, _, .failed (World.isStore_of_serve hserve) hfails⟩

theorem steps_world {tr : List Ev} {s s' : ℕ × World} (h : Effects.Steps p.Step s tr s') :
    s.2.Steps tr s'.2 := by
  induction h with
  | nil s => exact .nil _
  | cons hstep _ ih => exact .cons hstep.world ih

open Classical in
/-- The pattern of given answers. -/
noncomputable def of (tr : List Ev) : Pattern where
  fails n := match tr[n]? with
    | some ⟨.io _, .error e⟩ => some e
    | _ => none
  answers n c := match tr[n]? with
    | some ⟨.io c', r⟩ => if h : c' = c then h ▸ r else .error .null
    | _ => .error .null

theorem answers_of (before : List Ev) {c : Call} (r : Except Thrown c.Ret) (tr : List Ev) :
    (of (before ++ answered c r :: tr)).answers before.length c = r := by simp [of]

theorem Step.of_answers {n : ℕ} {c : Call} {r : Except Thrown c.Ret} (hout : c.isStore = false)
    (h : p.answers n c = r) : p.Step (.io c) (n, w) r (n + 1, w) := by
  subst h
  exact .outside hout

/-- Whatever the world answers follows a pattern: induction on the calls. -/
theorem steps_of {tr : List Ev} (h : w.Steps tr w') (before : List Ev) :
    Effects.Steps (of (before ++ tr)).Step (before.length, w) tr
      (before.length + tr.length, w') := by
  induction h generalizing before with
  | nil w => exact .nil _
  | @cons o r w w₁ w' tr hstep _ ih =>
    have hrest := ih (before ++ [⟨o, r⟩])
    rw [List.append_assoc, List.singleton_append, List.length_append, List.length_singleton]
      at hrest
    rw [List.length_cons, ← Nat.add_assoc, Nat.add_right_comm]
    refine .cons ?_ hrest
    cases hstep with
    | @served c _ _ now res hserve =>
      cases res with
      | ok a => exact .served (by simp [of]) hserve
      | error e =>
        obtain rfl := World.Step.eq_of_error (.served hserve)
        exact .failed (World.isStore_of_serve hserve) (by simp [of])
    | @failed c _ e =>
      cases hstore : c.isStore with
      | true => exact .failed hstore (by simp [of])
      | false => exact .of_answers hstore (answers_of before _ tr)
    | outside hout res => exact .of_answers hout (answers_of before res tr)
    | clock t => exact .clock t
    | track metric => exact .track metric

end Pattern

/-- Every execution follows a pattern. -/
theorem exists_pattern {α : Type} {x : Async α} {tr : List Ev} {res : Except Thrown α}
    (h : Exec World.Step x.run w tr res w') : ∃ p : Pattern, p.Exec x w tr res w' := by
  obtain ⟨hruns, hsteps⟩ := h
  exact ⟨Pattern.of tr, _, hruns, Pattern.steps_of hsteps []⟩

/-! ## One call -/

/-- The calls of the handler for the order `k`. -/
inductive HandlerCall (k : OrderKey) : Call → Prop
  | find : HandlerCall k (.findConnection k.environment k.connectionId)
  | deliver {d : Delivery} {c : Call} (hd : d.orderKey = k) (h : DeliveryCall d c) :
      HandlerCall k c

/-- A ledger row at another time, over a ledger that agrees on the order. -/
theorem SameOrder.upsert (hS : SameOrder k w₁ w₂) {input input' : OrderSyncLogInput}
    (hk : input.orderKey = k) (h : input.timeless = input'.timeless) (now now' : ℤ) :
    SameOrder k { w₁ with syncLog := w₁.syncLog.upsert input now }
      { w₂ with syncLog := w₂.syncLog.upsert input' now' } := by
  have hk' : input'.orderKey = k := by
    rw [← hk]
    exact (congrArg OrderSyncLogInput.orderKey h).symm
  have hrow (log : SyncLogRows) (input : OrderSyncLogInput) (hk : input.orderKey = k) (now : ℤ) :
      ((log.upsert input now).rows k.text).map OrderSyncLog.timeless =
        some { input.timeless with id := "", createdAt := 0, updatedAt := 0 } := by
    rw [← hk, OrderSyncLogInput.text_orderKey]
    unfold SyncLogRows.upsert
    split <;> simp [OrderSyncLog.timeless]
  refine { hS with ledger := ?_ }
  exact (hrow _ _ hk now).trans (h ▸ (hrow _ _ hk' now').symm)

/-- An attempt row at another time. -/
theorem SameOrder.attempt (hS : SameOrder k w₁ w₂) {input input' : OrderAttemptInput}
    (h : input.timeless = input'.timeless) (now now' : ℤ) :
    SameOrder k { w₁ with attempts := recordAttemptRow w₁.attempts input now }
      { w₂ with attempts := recordAttemptRow w₂.attempts input' now' } := by
  refine { hS with attempts := ?_ }
  have hkey : input.timeless.orderKey = input'.timeless.orderKey :=
    congrArg OrderAttemptInput.orderKey h
  change input.orderKey = input'.orderKey at hkey
  have hattempts := hS.attempts
  simp only [World.attemptsOf, recordAttemptRow, List.filter_append, List.map_append] at hattempts ⊢
  rw [hattempts]
  by_cases hk : input.orderKey = k
  · simp [← hkey, hk, OrderAttempt.timeless, h]
  · simp [← hkey, hk]

/-- Stores that agree on an order answer the handler alike and go on agreeing. -/
theorem serve_alike {c : Call} (hcall : HandlerCall k c) (hS : SameOrder k w₁ w₂) {now now' : ℤ}
    {r r' : Except Thrown c.Ret} (h₁ : w₁.serve now c = some (r, w₁'))
    (h₂ : w₂.serve now' c = some (r', w₂')) :
    SameEv (answered c r) (answered c r') ∧ SameOrder k w₁' w₂' := by
  have hxref {α : Type} {aside : α → α} {x₁ x₂ : Except Thrown (α × XrefRows)}
      {a b : Except Thrown α} (h : SameRows k.parts aside x₁ x₂)
      (h₁ : some (w₁.storeXref x₁) = some (a, w₁')) (h₂ : some (w₂.storeXref x₂) = some (b, w₂')) :
      a.map aside = b.map aside ∧ SameOrder k w₁' w₂' := by
    have halike := hS.storeXref h
    rw [Option.some.inj h₁, Option.some.inj h₂] at halike
    exact halike
  have hev {aside : c.Ret → c.Ret} (haside : ∀ r, timeless (answered c r) = answered c (r.map aside))
      (h : r.map aside = r'.map aside) : SameEv (answered c r) (answered c r') := by
    rw [SameEv, haside, haside, h]
  cases hcall with
  | find =>
    simp only [World.serve, Option.some.injEq, Prod.mk.injEq] at h₁ h₂
    obtain ⟨rfl, rfl⟩ := h₁
    obtain ⟨rfl, rfl⟩ := h₂
    rw [hS.connection]
    exact ⟨rfl, hS⟩
  | @deliver d _ hd hcall =>
    subst hd
    have hrow : SameRow d.parts w₁.xref w₂.xref := hS.xref
    cases hcall with
    | lookup =>
      simp only [World.serve, Option.some.injEq, Prod.mk.injEq] at h₁ h₂
      obtain ⟨rfl, rfl⟩ := h₁
      obtain ⟨rfl, rfl⟩ := h₂
      exact ⟨hev (fun _ => rfl) (sameRows_lookup hrow), hS⟩
    | claim =>
      simp only [World.serve] at h₁ h₂
      have hclaim := @sameRows_claim w₁.xref w₂.xref d.claimInput hrow
      obtain ⟨hres, hworld⟩ := hxref hclaim h₁ h₂
      exact ⟨hev (fun _ => rfl) hres, hworld⟩
    | success =>
      simp only [World.serve] at h₁ h₂
      obtain ⟨hres, hworld⟩ := hxref (sameRows_recordSuccess hrow) h₁ h₂
      exact ⟨hev (fun _ => rfl) hres, hworld⟩
    | failure =>
      simp only [World.serve] at h₁ h₂
      obtain ⟨hres, hworld⟩ := hxref (sameRows_recordFailure hrow) h₁ h₂
      exact ⟨hev (fun _ => rfl) hres, hworld⟩
    | ignore =>
      simp only [World.serve] at h₁ h₂
      obtain ⟨hres, hworld⟩ := hxref (sameRows_markIgnored hrow) h₁ h₂
      exact ⟨hev (fun _ => rfl) hres, hworld⟩
    | error =>
      simp only [World.serve, Option.some.injEq, Prod.mk.injEq] at h₁ h₂
      obtain ⟨rfl, rfl⟩ := h₁
      obtain ⟨rfl, rfl⟩ := h₂
      exact ⟨rfl, { hS with }⟩
    | @ledger shape _ =>
      simp only [World.serve, Option.some.injEq, Prod.mk.injEq] at h₁ h₂
      obtain ⟨rfl, rfl⟩ := h₁
      obtain ⟨rfl, rfl⟩ := h₂
      exact ⟨rfl, hS.upsert rfl rfl now now'⟩
    | attempt =>
      simp only [World.serve, Option.some.injEq, Prod.mk.injEq] at h₁ h₂
      obtain ⟨rfl, rfl⟩ := h₁
      obtain ⟨rfl, rfl⟩ := h₂
      exact ⟨rfl, hS.attempt rfl now now'⟩
    | payload | order | tag | upsert => cases h₁
    | prepare h => cases h <;> cases h₁

theorem Call.timeless_cases (c : Call) :
    (∃ input, c = .upsertSyncLog input) ∨ (∃ input, c = .recordAttempt input) ∨
      (Op.timeless (.io c) = .io c ∧ (∀ input, c ≠ .upsertSyncLog input) ∧
        ∀ input, c ≠ .recordAttempt input) := by
  cases c <;> simp [Op.timeless]

theorem Op.io_of_timeless {o : Op} {c : Call} (h : Op.timeless (.io c) = o.timeless) :
    ∃ c', o = .io c' := by
  cases o with
  | io c' => exact ⟨c', rfl⟩
  | clock | track => obtain ⟨_, rfl⟩ | ⟨_, rfl⟩ | ⟨hc, _⟩ := c.timeless_cases <;> simp_all [Op.timeless]

/-- A call and the same call at another time. -/
theorem SameOp.io_cases {c : Call} {o : Op} (h : SameOp (.io c) o) :
    o = .io c ∨
      (∃ input input', c = .upsertSyncLog input ∧ o = .io (.upsertSyncLog input') ∧
        input.timeless = input'.timeless) ∨
      ∃ input input', c = .recordAttempt input ∧ o = .io (.recordAttempt input') ∧
        input.timeless = input'.timeless := by
  obtain ⟨c', rfl⟩ := Op.io_of_timeless h
  unfold SameOp at h
  obtain ⟨input, rfl⟩ | ⟨input, rfl⟩ | ⟨hc, hlog, hattempt⟩ := c.timeless_cases <;>
    obtain ⟨input', rfl⟩ | ⟨input', rfl⟩ | ⟨hc', hlog', hattempt'⟩ := c'.timeless_cases
  · exact .inr (.inl ⟨input, input', rfl, rfl, by simpa [Op.timeless] using h⟩)
  · simp [Op.timeless] at h
  · exact absurd (Op.io.inj (h.trans hc')).symm (hlog' _)
  · simp [Op.timeless] at h
  · exact .inr (.inr ⟨input, input', rfl, rfl, by simpa [Op.timeless] using h⟩)
  · exact absurd (Op.io.inj (h.trans hc')).symm (hattempt' _)
  · exact absurd (Op.io.inj (hc.symm.trans h)) (hlog _)
  · exact absurd (Op.io.inj (hc.symm.trans h)) (hattempt _)
  · exact .inl (hc'.symm.trans (h.symm.trans hc))

/-- A store call is served, or fails as the pattern has it. -/
theorem Pattern.Step.store_cases {p : Pattern} {n : ℕ} {c : Call} {r : Except Thrown c.Ret}
    {s : ℕ × World} (h : p.Step (.io c) (n, w) r s) (hstore : c.isStore = true) :
    (p.fails n = none ∧ ∃ now w', w.serve now c = some (r, w') ∧ s = (n + 1, w')) ∨
      ∃ e, p.fails n = some e ∧ r = .error e ∧ s = (n + 1, w) := by
  cases h with
  | served hfails hserve => exact .inl ⟨hfails, _, _, hserve, rfl⟩
  | failed _ hfails => exact .inr ⟨_, hfails, rfl, rfl⟩
  | outside hout => simp [hstore] at hout

/-- One operation of two runs under one pattern. -/
theorem Pattern.Step.alike {p : Pattern} {n : ℕ} {ev ev' : Ev} {s₁ s₂ : ℕ × World}
    (hop : SameOp ev.1 ev'.1) (hcall : ∀ c r, ev = answered c r → HandlerCall k c)
    (hS : SameOrder k w₁ w₂) (h₁ : p.Step ev.1 (n, w₁) ev.2 s₁)
    (h₂ : p.Step ev'.1 (n, w₂) ev'.2 s₂) :
    SameEv ev ev' ∧ s₁.1 = s₂.1 ∧ SameOrder k s₁.2 s₂.2 := by
  obtain ⟨o, r⟩ := ev
  obtain ⟨o', r'⟩ := ev'
  dsimp only at hop h₁ h₂
  cases o with
  | clock =>
    obtain rfl : o' = .clock := by
      cases o' with
      | clock => rfl
      | track metric => simp [SameOp, Op.timeless] at hop
      | io c => obtain ⟨_, hc⟩ := Op.io_of_timeless hop.symm; cases hc
    cases h₁
    cases h₂
    exact ⟨rfl, rfl, hS⟩
  | track metric =>
    obtain ⟨metric', rfl⟩ : ∃ metric', o' = .track metric' := by
      cases o' with
      | track metric' => exact ⟨metric', rfl⟩
      | clock => simp [SameOp, Op.timeless] at hop
      | io c => obtain ⟨_, hc⟩ := Op.io_of_timeless hop.symm; cases hc
    have hmetric : metric.timeless = metric'.timeless := by simpa [SameOp, Op.timeless] using hop
    cases h₁
    cases h₂
    exact ⟨by simp [SameEv, timeless, hmetric], rfl, hS⟩
  | io c =>
    have hc : HandlerCall k c := hcall c r rfl
    obtain rfl | ⟨input, input', rfl, rfl, hinput⟩ | ⟨input, input', rfl, rfl, hinput⟩ :=
      hop.io_cases
    · cases h₁ with
      | served hfails hserve =>
        cases h₂ with
        | served _ hserve' =>
          obtain ⟨hev, hworld⟩ := serve_alike hc hS hserve hserve'
          exact ⟨hev, rfl, hworld⟩
        | failed _ hfails' => simp [hfails] at hfails'
        | outside hout => simp [World.isStore_of_serve hserve] at hout
      | failed hstore hfails =>
        cases h₂ with
        | served hfails' => simp [hfails] at hfails'
        | failed _ hfails' =>
          obtain rfl := Option.some.inj (hfails.symm.trans hfails')
          exact ⟨rfl, rfl, hS⟩
        | outside hout => simp [hstore] at hout
      | outside hout =>
        cases h₂ with
        | served _ hserve => simp [World.isStore_of_serve hserve] at hout
        | failed hstore => simp [hstore] at hout
        | outside => exact ⟨rfl, rfl, hS⟩
    · have hk : input.orderKey = k := by
        cases hc with
        | deliver hd hcall =>
          cases hcall with
          | ledger => exact hd
          | prepare h => cases h
      obtain ⟨hfails, now, v₁, hserve, rfl⟩ | ⟨e, hfails, rfl, rfl⟩ := h₁.store_cases rfl <;>
        obtain ⟨hfails', now', v₂, hserve', rfl⟩ | ⟨e', hfails', rfl, rfl⟩ := h₂.store_cases rfl
      · simp only [World.serve, Option.some.injEq, Prod.mk.injEq] at hserve hserve'
        obtain ⟨rfl, rfl⟩ := hserve
        obtain ⟨rfl, rfl⟩ := hserve'
        exact ⟨by simp [SameEv, timeless, hinput], rfl, hS.upsert hk hinput now now'⟩
      · simp [hfails] at hfails'
      · simp [hfails] at hfails'
      · obtain rfl := Option.some.inj (hfails.symm.trans hfails')
        exact ⟨by simp [SameEv, timeless, hinput], rfl, hS⟩
    · obtain ⟨hfails, now, v₁, hserve, rfl⟩ | ⟨e, hfails, rfl, rfl⟩ := h₁.store_cases rfl <;>
        obtain ⟨hfails', now', v₂, hserve', rfl⟩ | ⟨e', hfails', rfl, rfl⟩ := h₂.store_cases rfl
      · simp only [World.serve, Option.some.injEq, Prod.mk.injEq] at hserve hserve'
        obtain ⟨rfl, rfl⟩ := hserve
        obtain ⟨rfl, rfl⟩ := hserve'
        exact ⟨by simp [SameEv, timeless, hinput], rfl, hS.attempt hinput now now'⟩
      · simp [hfails] at hfails'
      · simp [hfails] at hfails'
      · obtain rfl := Option.some.inj (hfails.symm.trans hfails')
        exact ⟨by simp [SameEv, timeless, hinput], rfl, hS⟩

/-! ## Whole runs -/

/-- The order that a message is about, in the environment of the handler. -/
def OrderHandlerDeps.orderKey (deps : OrderHandlerDeps) (msg : ReceivedMessage) : OrderKey where
  environment := deps.environment
  connectionId := msg.connectionId
  shopifyOrderGid := msg.orderGid

section Handler

variable {deps : OrderHandlerDeps} {message : Js.Value} {attemptCtx : Option AttemptContext}
  {msg : ReceivedMessage} {tr tr' : List Ev} {res res' : Except Thrown OrderHandlerOutcome}

/-- What a handling does: nothing but looking up the connection, or a delivery of the order. -/
theorem handler_cases (hmsg : parseOrderWebhookMessage message = .ok msg)
    (h : Exec World.Step (handleOrderMessage deps message attemptCtx).run w tr res w') :
    (w' = w ∧ ∀ ev ∈ tr, ∃ r, ev = connectionFound deps msg.connectionId r) ∨
      ∃ (d : Delivery) (t : List Ev), d.orderKey = deps.orderKey msg ∧
        w.findById deps.environment msg.connectionId = some d.connection ∧
        tr = connectionFound deps msg.connectionId (.ok (some d.connection)) :: t ∧
        Settles (deliver d) t res ∧ w.Steps t w' := by
  obtain ⟨hruns, hsteps⟩ := h
  have hsettles : Settles (handleOrderMessage deps message attemptCtx) tr res := hruns
  simp only [handleOrderMessage, hmsg] at hsettles
  split at hsettles
  · obtain ⟨rfl, rfl⟩ := settles_pure.mp hsettles
    exact .inl ⟨steps_nil.mp hsteps, by simp⟩
  · obtain ⟨e, rfl, hfind⟩ | ⟨found, t₁, t₂, rfl, hfind, hrest⟩ := settles_bind.mp hsettles
    · obtain rfl := settles_io.mp hfind
      obtain ⟨w₁, hstep, hnil⟩ := steps_cons.mp hsteps
      obtain rfl := steps_nil.mp hnil
      exact .inl ⟨World.Step.eq_of_error hstep, by simp⟩
    obtain rfl := settles_io.mp hfind
    obtain ⟨w₁, hstep, hrest'⟩ := steps_cons.mp hsteps
    obtain ⟨rfl, rfl⟩ := World.Step.findConnection_ok hstep
    split at hrest
    · obtain ⟨rfl, rfl⟩ := settles_pure.mp hrest
      exact .inl ⟨steps_nil.mp hrest', by simp⟩
    · next connection hfound =>
      split at hrest
      · have hid := List.find?_some hfound
        simp only [Bool.and_eq_true, decide_eq_true_eq] at hid
        refine .inr ⟨_, t₂, ?_, hfound, by rw [hfound]; rfl, hrest, hrest'⟩
        simp [Delivery.orderKey, OrderHandlerDeps.orderKey, hid.2]
      · obtain ⟨rfl, rfl⟩ := settles_pure.mp hrest
        exact .inl ⟨steps_nil.mp hrest', by simp⟩

/-- Without a dedup key a delivery writes nothing. -/
theorem deliver_unkeyed (hkey : ∀ key, dedupKey d.parts ≠ .ok key) (h : Settles (deliver d) tr res)
    (hsteps : w.Steps tr w') : w' = w := by
  have hclaim {t : List Ev} (h : Settles (claimAndImport d) t res) (hsteps : w.Steps t w') :
      w' = w := by
    unfold claimAndImport at h
    obtain ⟨e, rfl, hclaim⟩ | ⟨claim, t₁, t₂, rfl, hclaim, _⟩ := settles_bind.mp h
    · obtain rfl := settles_io.mp hclaim
      obtain ⟨w₁, hstep, hnil⟩ := steps_cons.mp hsteps
      obtain rfl := steps_nil.mp hnil
      exact World.Step.eq_of_error hstep
    · obtain rfl := settles_io.mp hclaim
      obtain ⟨w₁, hstep, _⟩ := steps_cons.mp hsteps
      obtain ⟨key, hparts, _⟩ := World.Step.claim_ok hstep
      exact absurd hparts (hkey key)
  unfold deliver at h
  split at h
  · obtain ⟨e, rfl, hlookup⟩ | ⟨found, t₁, t₂, rfl, hlookup, _⟩ := settles_bind.mp h
    · obtain rfl := settles_io.mp hlookup
      obtain ⟨w₁, hstep, hnil⟩ := steps_cons.mp hsteps
      obtain rfl := steps_nil.mp hnil
      exact World.Step.eq_of_error hstep
    · obtain rfl := settles_io.mp hlookup
      obtain ⟨w₁, hstep, _⟩ := steps_cons.mp hsteps
      obtain ⟨key, hparts, _⟩ := World.Step.lookupXref_ok hstep
      exact absurd hparts (hkey key)
  · exact hclaim h hsteps

/-- A delivery leaves every other ledger row, of an order with a dedup key or not: the text of its
own order is the text of no other. -/
theorem World.Steps.ledgerRow_same {other : OrderKey} (h : w.Steps tr w')
    (hmakes : Only (Makes d) tr) (hvalid : d.orderKey.parts.Valid) (hne : other ≠ d.orderKey) :
    w'.ledgerRow other = w.ledgerRow other := by
  refine h.frame (f := fun v => v.ledgerRow other) fun ev hev v v' hs => ?_
  obtain ⟨o, r⟩ := ev
  cases o with
  | clock | track =>
    cases hs
    rfl
  | io c =>
    have hcall : DeliveryCall d c := hmakes _ hev c r rfl
    by_cases hlog : ∃ shape, c = .upsertSyncLog (d.syncLogInput shape)
    · obtain ⟨shape, rfl⟩ := hlog
      cases r with
      | error e => rw [World.Step.eq_of_error hs]
      | ok u =>
        obtain ⟨now, rfl⟩ := World.Step.upsertSyncLog_ok hs
        have htext : other.text ≠ (d.syncLogInput shape).key := fun heq =>
          hne (OrderKey.eq_of_text hvalid heq.symm).symm
        exact SyncLogRows.upsert_of_ne htext
    · refine congrArg (fun log => log.rows other.text) (World.Step.syncLog_same hs fun input heq => ?_)
      subst heq
      cases hcall with
      | ledger => exact hlog ⟨_, rfl⟩
      | prepare h => cases h

/-- The calls of a handling are about the order of its message. -/
theorem handler_calls (hmsg : parseOrderWebhookMessage message = .ok msg)
    (h : Exec World.Step (handleOrderMessage deps message attemptCtx).run w tr res w') :
    ∀ ev ∈ tr, ∀ c r, ev = answered c r → HandlerCall (deps.orderKey msg) c := by
  intro ev hev c r heq
  obtain ⟨_, hfind⟩ | ⟨d, t, hd, _, rfl, hdeliver, _⟩ := handler_cases hmsg h
  · obtain ⟨r', hr'⟩ := hfind ev hev
    obtain rfl := Op.io.inj (Sigma.mk.inj (heq.symm.trans hr')).1
    exact .find
  · obtain rfl | hev := List.mem_cons.mp hev
    · obtain rfl := Op.io.inj (Sigma.mk.inj heq).1
      exact .find
    · exact .deliver hd (makes_deliver _ _ hdeliver ev hev c r heq)

/-- The NetSuite account that a call goes to. -/
def Call.nsAccount : Call → Option String
  | .upsertByExternalId args => some args.nsAccountId
  | .findByExternalId args => some args.nsAccountId
  | .getCustomerAddressbook args => some args.nsAccountId
  | .resolveItemId nsAccountId _ => some nsAccountId
  | _ => none

theorem DeliveryCall.nsAccount_eq {c : Call} {account : String} (h : DeliveryCall d c)
    (haccount : c.nsAccount = some account) : account = d.connection.nsAccountId := by
  cases h with
  | upsert => exact (Option.some.inj haccount).symm
  | prepare h =>
    cases h with
    | lookup => cases haccount
    | item => exact (Option.some.inj haccount).symm
    | find h | addressbook h | customer h => exact (Option.some.inj haccount).symm.trans h
  | _ => cases haccount

/-- What a handling does to the order `k` and to no other. -/
structure Isolated (k : OrderKey) (w : World) (tr : List Ev) (w' : World) : Prop where
  xref : ∀ key, dedupKey k.parts ≠ .ok key → w'.xref key = w.xref key
  ledger : ∀ other, other ≠ k → w'.ledgerRow other = w.ledgerRow other
  attempts : ∀ other, other ≠ k → w'.attemptsOf other = w.attemptsOf other
  account : ∀ c r account, answered c r ∈ tr → c.nsAccount = some account →
    ∃ connection, w.findById k.environment k.connectionId = some connection ∧
      account = connection.nsAccountId

theorem isolated_of_handled (hmsg : parseOrderWebhookMessage message = .ok msg)
    (h : Exec World.Step (handleOrderMessage deps message attemptCtx).run w tr res w') :
    Isolated (deps.orderKey msg) w tr w' := by
  obtain ⟨rfl, hfind⟩ | ⟨d, t, hd, hfound, rfl, hdeliver, hsteps⟩ := handler_cases hmsg h
  · refine ⟨fun _ _ => rfl, fun _ _ => rfl, fun _ _ => rfl, fun c r account hc haccount => ?_⟩
    obtain ⟨r', hr'⟩ := hfind _ hc
    obtain rfl := Op.io.inj (Sigma.mk.inj hr').1
    cases haccount
  · have hmakes : Only (Makes d) t := makes_deliver _ _ hdeliver
    have helse : SameElsewhere (deps.orderKey msg) w w' := hd ▸ World.Steps.sameElsewhere hsteps hmakes
    refine ⟨helse.xref, fun other hne => ?_, helse.attempts, fun c r account hc haccount => ?_⟩
    · by_cases hkey : ∃ key, dedupKey d.parts = .ok key
      · obtain ⟨key, hkey⟩ := hkey
        have hvalid : d.orderKey.parts.Valid := (dedupKeyWith_eq_ok.mp hkey).1
        exact World.Steps.ledgerRow_same hsteps hmakes hvalid (hd ▸ hne)
      · rw [deliver_unkeyed (fun key hok => hkey ⟨key, hok⟩) hdeliver hsteps]
    · refine ⟨d.connection, hfound, ?_⟩
      obtain heq | hc := List.mem_cons.mp hc
      · obtain rfl := Op.io.inj (Sigma.mk.inj heq).1
        cases haccount
      · exact DeliveryCall.nsAccount_eq (hmakes _ hc c r rfl) haccount

/-- A message for no order of the environment of the handler is rejected without a call. -/
theorem handler_silent
    (hother : ∀ msg, parseOrderWebhookMessage message = .ok msg →
      msg.environment ≠ deps.environment.text)
    (h : Settles (handleOrderMessage deps message attemptCtx) tr res) : tr = [] := by
  unfold handleOrderMessage at h
  split at h
  · exact (settles_pure.mp h).1
  · next msg hmsg =>
    rw [if_pos (hother msg hmsg)] at h
    exact (settles_pure.mp h).1

/-- Two handlings of one message under one pattern of results, from stores that agree on its
order. -/
theorem handled_alike {p : Pattern} (hmsg : parseOrderWebhookMessage message = .ok msg)
    (hS : SameOrder (deps.orderKey msg) w₁ w₂)
    (h₁ : p.Exec (handleOrderMessage deps message attemptCtx) w₁ tr res w₁')
    (h₂ : p.Exec (handleOrderMessage deps message attemptCtx) w₂ tr' res' w₂') :
    res = res' ∧ tr.map timeless = tr'.map timeless ∧ SameOrder (deps.orderKey msg) w₁' w₂' := by
  obtain ⟨n, hexec⟩ := h₁
  obtain ⟨n', hexec'⟩ := h₂
  have hcalls := handler_calls hmsg ⟨hexec.runs, Pattern.steps_world hexec.steps⟩
  obtain ⟨hres, htr, _, hS'⟩ := (steady_handleOrderMessage deps message attemptCtx).exec
    (S := fun s₁ s₂ => s₁.1 = s₂.1 ∧ SameOrder (deps.orderKey msg) s₁.2 s₂.2) hexec hexec'
    ⟨rfl, hS⟩ (by
      rintro ev hev ev' _ ⟨m, v₁⟩ ⟨m', v₂⟩ s₁ s₂ hop ⟨rfl, hv⟩ hstep hstep'
      exact Pattern.Step.alike hop (hcalls ev hev) hv hstep hstep')
  have htimeless : tr.map timeless = tr'.map timeless := by
    rw [← List.forall₂_eq_eq_eq, List.forall₂_map_left_iff, List.forall₂_map_right_iff]
    exact htr
  exact ⟨hres.eq, htimeless, hS'⟩

end Handler

/-- Orders are handled in isolation: every run for a message changes the rows of its order only
and calls NetSuite for the account of its connection only, a message of another environment
causes no call at all, and what other orders' rows hold makes no difference. -/
theorem orders_isolated {deps : OrderHandlerDeps} {message : Js.Value}
    {attemptCtx : Option AttemptContext} :
    (∀ w tr res w', Exec World.Step (handleOrderMessage deps message attemptCtx).run w tr res w' →
      (∀ msg, parseOrderWebhookMessage message = .ok msg → Isolated (deps.orderKey msg) w tr w') ∧
      ((∀ msg, parseOrderWebhookMessage message = .ok msg →
        msg.environment ≠ deps.environment.text) → tr = [])) ∧
    ∀ msg, parseOrderWebhookMessage message = .ok msg → ∀ (p : Pattern) (w₁ w₂ : World),
      SameOrder (deps.orderKey msg) w₁ w₂ → ∀ tr res w₁' tr' res' w₂',
        p.Exec (handleOrderMessage deps message attemptCtx) w₁ tr res w₁' →
        p.Exec (handleOrderMessage deps message attemptCtx) w₂ tr' res' w₂' →
          res = res' ∧ tr.map timeless = tr'.map timeless ∧
            SameOrder (deps.orderKey msg) w₁' w₂' := by
  refine ⟨fun w tr res w' h => ⟨fun msg hmsg => isolated_of_handled hmsg h, fun hother => ?_⟩, ?_⟩
  · exact handler_silent hother h.runs
  · intro msg hmsg p w₁ w₂ hS tr res w₁' tr' res' w₂' h₁ h₂
    exact handled_alike hmsg hS h₁ h₂

namespace Shop

/-- The message about the creation of the order. -/
def createdMessage : OrderWebhookMessage := message none "orders/create"

/-- Stores in which every other order has a row. -/
def crowded : World :=
  { world with xref := fun k => if k = key then none else some createdMessage.parts.ignoredRow }

theorem crowded_sameOrder : SameOrder (deps.orderKey createdMessage.received) world crowded where
  connection := rfl
  ledger := rfl
  attempts := rfl
  xref := by
    intro k hk
    have hkey : dedupKey (deps.orderKey createdMessage.received).parts = .ok key :=
      @dedupKey_parts createdMessage rfl
    obtain rfl : k = key := Except.ok.inj (hk.symm.trans hkey)
    simp [world, crowded]

/-- The handling of the message in the shop. -/
def lone : (Activity.handle deps createdMessage.toJs none).Record × World :=
  up.perform (.handle deps createdMessage.toJs none) world

end Shop

/-- The order of the shop is imported in the same way where all other orders have rows. -/
theorem orders_isolated_shop :
    Isolated (Shop.deps.orderKey Shop.createdMessage.received) Shop.world Shop.lone.1.1
        Shop.lone.2 ∧
      ∃ (p : Pattern) (tr : List Ev) (w' : World),
        p.Exec (handleOrderMessage Shop.deps Shop.createdMessage.toJs none) Shop.crowded tr
          Shop.lone.1.2 w' ∧
        Shop.lone.1.1.map timeless = tr.map timeless ∧
        SameOrder (Shop.deps.orderKey Shop.createdMessage.received) Shop.lone.2 w' := by
  have hmsg : parseOrderWebhookMessage Shop.createdMessage.toJs = .ok Shop.createdMessage.received :=
    parseOrderWebhookMessage_toJs (Shop.message_wellFormed none (by decide))
  have hlone : Exec World.Step (handleOrderMessage Shop.deps Shop.createdMessage.toJs none).run
      Shop.world Shop.lone.1.1 Shop.lone.1.2 Shop.lone.2 :=
    Shop.up.performs (.handle Shop.deps Shop.createdMessage.toJs none) Shop.world
  obtain ⟨p, hp⟩ := exists_pattern hlone
  obtain ⟨tr, res, ⟨n, w'⟩, hexec⟩ := exists_exec p.total
    (handleOrderMessage Shop.deps Shop.createdMessage.toJs none).run (0, Shop.crowded)
  have hcrowded : p.Exec (handleOrderMessage Shop.deps Shop.createdMessage.toJs none) Shop.crowded
      tr res w' := ⟨n, hexec⟩
  have hisolated := orders_isolated.1 _ _ _ _ hlone
  obtain ⟨rfl, htr, hsame⟩ := orders_isolated.2 _ hmsg p _ _ Shop.crowded_sameOrder _ _ _ _ _ _ hp
    hcrowded
  exact ⟨hisolated.1 _ hmsg, p, tr, w', hcrowded, htr, hsame⟩

end DpIntegrator
