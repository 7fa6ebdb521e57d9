import DpIntegrator.Core.Keys
import DpIntegrator.Delivery.CallsMade
import DpIntegrator.Delivery.Producers

/-!
# Other orders

A delivery leaves the rows of all other orders as they are: its xref row, its ledger row
and its attempt rows are its own. The ledger joins its key without a check, so this needs
that a text without separators in its components determines them.
-/

namespace DpIntegrator

open Effects

variable {d : Delivery} {w w' : World} {tr : List Ev} {k k' : OrderKey}

/-! ## Orders and their rows -/

/-- The parts of the dedup key of an order. -/
def OrderKey.parts (k : OrderKey) : DedupKeyParts :=
  orderParts k.environment k.connectionId k.shopifyOrderGid

/-- The order of a delivery. -/
def Delivery.orderKey (d : Delivery) : OrderKey where
  environment := d.deps.environment
  connectionId := d.connection.connectionId
  shopifyOrderGid := d.msg.orderGid

theorem OrderKey.eq_of_parts (h : k.parts = k'.parts) : k = k' := by
  obtain ⟨e, c, o⟩ := k
  obtain ⟨e', c', o'⟩ := k'
  simp only [OrderKey.parts, orderParts, DedupKeyParts.mk.injEq, true_and] at h
  obtain ⟨rfl, rfl, rfl⟩ := h
  rfl

theorem OrderKey.eq_of_dedupKey {key : String} (h : dedupKey k.parts = .ok key)
    (h' : dedupKey k'.parts = .ok key) : k = k' := OrderKey.eq_of_parts (dedupKey_inj h h')

theorem Environment.not_mem_text (environment : Environment) : '|' ∉ environment.text.toList := by
  cases environment <;> decide

/-- The text of an order with a dedup key is the text of no other order. -/
theorem OrderKey.eq_of_text (hvalid : k.parts.Valid) (h : k.text = k'.text) : k = k' := by
  have hnot {v : String} (hv : v ∈ k.parts.values) : '|' ∉ v.toList := by
    intro hmem
    have hincludes : Js.includes v "|" = true := Js.occurs_singleton.mpr hmem
    rw [(hvalid v hv).2] at hincludes
    cases hincludes
  have hid : '|' ∉ k.connectionId.toList :=
    hnot (by simp [OrderKey.parts, orderParts, DedupKeyParts.values])
  have hgid : '|' ∉ k.shopifyOrderGid.toList :=
    hnot (by simp [OrderKey.parts, orderParts, DedupKeyParts.values])
  -- Both texts have the same number of separators, and the first has two.
  have hcount := congrArg (fun s : String => s.toList.count '|') h
  simp [OrderKey.text, List.count_eq_zero_of_not_mem hid, List.count_eq_zero_of_not_mem hgid,
    List.count_eq_zero_of_not_mem (Environment.not_mem_text _)] at hcount
  have hid' : '|' ∉ k'.connectionId.toList := List.count_eq_zero.mp (by omega)
  have hgid' : '|' ∉ k'.shopifyOrderGid.toList := List.count_eq_zero.mp (by omega)
  have hlists : [k.environment.text, k.connectionId, k.shopifyOrderGid] =
      [k'.environment.text, k'.connectionId, k'.shopifyOrderGid] := by
    refine @Js.intercalate_inj '|' _ _ ?_ ?_ (by simp) (by simp) h
    · simp [hid, hgid, Environment.not_mem_text]
    · simp [hid', hgid', Environment.not_mem_text]
  obtain ⟨e, c, o⟩ := k
  obtain ⟨e', c', o'⟩ := k'
  simp only [List.cons.injEq, and_true] at hlists
  obtain ⟨henv, rfl, rfl⟩ := hlists
  rw [Environment.text_inj henv]

/-- The ledger row of an order. -/
def World.ledgerRow (w : World) (k : OrderKey) : Option OrderSyncLog := w.syncLog.rows k.text

/-- The attempt rows of an order. -/
def World.attemptsOf (w : World) (k : OrderKey) : List OrderAttempt :=
  w.attempts.filter fun row => row.orderKey = k

@[simp] theorem World.forget_ledgerRow (w : World) (k : OrderKey) :
    w.forget.ledgerRow k = w.ledgerRow k := rfl

/-! ## What one call leaves as it is -/

section Step

variable {c : Call} {r : Except Thrown c.Ret}

theorem SyncLogRows.upsert_of_ne {log : SyncLogRows} {input : OrderSyncLogInput} {now : ℤ}
    {key : String} (h : key ≠ input.key) : (log.upsert input now).rows key = log.rows key := by
  unfold SyncLogRows.upsert
  split <;> exact Function.update_of_ne h ..

/-- An upsert leaves a row with the fields of its input. -/
theorem SyncLogRows.upsert_self (log : SyncLogRows) (input : OrderSyncLogInput) (now : ℤ) :
    ((log.upsert input now).rows input.key).map OrderSyncLog.toOrderSyncLogInput = some input := by
  unfold SyncLogRows.upsert
  split <;> simp

/-- A write of the ledger row of another order leaves the row of an order with a key. -/
theorem World.Step.ledgerRow_eq (h : Step (.io c) w r w') (hvalid : k.parts.Valid)
    (hc : ∀ input, c = .upsertSyncLog input → input.orderKey ≠ k) :
    w'.ledgerRow k = w.ledgerRow k := by
  by_cases hupsert : ∃ input, c = .upsertSyncLog input
  · obtain ⟨input, rfl⟩ := hupsert
    cases r with
    | error e => rw [h.eq_of_error]
    | ok u =>
      obtain ⟨now, rfl⟩ := h.upsertSyncLog_ok
      refine SyncLogRows.upsert_of_ne fun heq => hc input rfl ?_
      exact (OrderKey.eq_of_text hvalid (heq.trans input.text_orderKey.symm)).symm
  · exact congrArg (fun log => log.rows k.text) (h.syncLog_same fun input heq => hupsert ⟨input, heq⟩)

/-- An attempt row of another order leaves the attempt rows of an order. -/
theorem World.Step.attemptsOf_eq (h : Step (.io c) w r w')
    (hc : ∀ input, c = .recordAttempt input → input.orderKey ≠ k) :
    w'.attemptsOf k = w.attemptsOf k := by
  by_cases hattempt : ∃ input, c = .recordAttempt input
  · obtain ⟨input, rfl⟩ := hattempt
    cases r with
    | error e => rw [h.eq_of_error]
    | ok u =>
      obtain ⟨now, rfl⟩ := h.recordAttempt_ok
      have hne : input.orderKey ≠ k := hc input rfl
      simp only [World.attemptsOf, recordAttemptRow, List.filter_append]
      simpa [List.filter_cons] using hne
  · rw [World.attemptsOf, h.attempts_same fun input heq => hattempt ⟨input, heq⟩, World.attemptsOf]

end Step

/-! ## Whole deliveries -/

/-- The rows of all orders but `k` are the same in both worlds. -/
structure SameElsewhere (k : OrderKey) (w w' : World) : Prop where
  xref : ∀ key, dedupKey k.parts ≠ .ok key → w'.xref key = w.xref key
  ledger : ∀ other : OrderKey, other.parts.Valid → other ≠ k → w'.ledgerRow other = w.ledgerRow other
  attempts : ∀ other, other ≠ k → w'.attemptsOf other = w.attemptsOf other

namespace SameElsewhere

theorem refl (w : World) : SameElsewhere k w w := ⟨fun _ _ => rfl, fun _ _ _ => rfl, fun _ _ => rfl⟩

theorem trans {w₁ : World} (h : SameElsewhere k w w₁) (h' : SameElsewhere k w₁ w') :
    SameElsewhere k w w' where
  xref key hkey := (h'.xref key hkey).trans (h.xref key hkey)
  ledger other hvalid hne := (h'.ledger other hvalid hne).trans (h.ledger other hvalid hne)
  attempts other hne := (h'.attempts other hne).trans (h.attempts other hne)

end SameElsewhere

/-- The row that a call of a delivery writes is its own. -/
theorem DeliveryCall.rowOf_eq {c : Call} (h : DeliveryCall d c) (r : Except Thrown c.Ret)
    {parts : DedupKeyParts} (hparts : World.rowOf (answered c r) = some parts) :
    parts = d.parts := by
  cases h with
  | claim | success | failure | ignore => exact (Option.some.inj hparts).symm
  | prepare h => cases h <;> cases hparts
  | _ => cases hparts

/-- One call of a delivery leaves the rows of all other orders. -/
theorem World.Step.sameElsewhere {ev : Ev} (h : World.Step ev.1 w ev.2 w') (hmakes : Makes d ev) :
    SameElsewhere d.orderKey w w' := by
  obtain ⟨o, r⟩ := ev
  cases o with
  | clock | track =>
    cases h
    exact .refl _
  | io c =>
    have hcall : DeliveryCall d c := hmakes c r rfl
    refine ⟨fun key hkey => ?_, fun other hvalid hne => ?_, fun other hne => ?_⟩
    · obtain heq | ⟨parts, hparts, hkey'⟩ := h.xrefChange.eq_or_key key
      · exact heq
      · rw [hcall.rowOf_eq r hparts] at hkey'
        exact absurd hkey' hkey
    · refine h.ledgerRow_eq hvalid fun input heq => ?_
      subst heq
      cases hcall with
      | ledger => exact hne.symm
      | prepare h => cases h
    · refine h.attemptsOf_eq fun input heq => ?_
      subst heq
      cases hcall with
      | attempt henv hconnection horder =>
        rw [OrderAttemptInput.orderKey, henv, hconnection, horder]
        exact hne.symm
      | prepare h => cases h

/-- Induction on the calls. -/
theorem World.Steps.sameElsewhere (h : w.Steps tr w') (hmakes : Only (Makes d) tr) :
    SameElsewhere d.orderKey w w' :=
  h.preserves (P := SameElsewhere d.orderKey w)
    (fun ev hev _ _ hs hw => hw.trans (World.Step.sameElsewhere hs (hmakes ev hev))) (.refl w)

end DpIntegrator
