import DpIntegrator.NetSuite.Money

/-!
# Discounted orders that add up

The discounts of an order are split between its lines and the order. The amounts of the
lines are reduced by the discounts of their own already, and the balancing takes all
discounts off; so the totals differ by the discounts of the lines.
-/

namespace DpIntegrator

open Effects

section

variable {dates : Dates} {args : BuildOrderPayloadArgs} {payload header : Js.Fields}
  {tr : List Ev}

/-- The amounts of a line in cents, before and after the discount of its own. -/
structure LineBreakdown where
  unitPrice : ℤ
  quantity : ℤ
  lineDiscount : ℤ

def LineBreakdown.gross (l : LineBreakdown) : ℤ := l.unitPrice * l.quantity

def LineBreakdown.net (l : LineBreakdown) : ℤ := l.gross - l.lineDiscount

/-- What an order is made of, in cents. -/
structure Breakdown where
  lines : List LineBreakdown
  orderDiscount : ℤ
  shipping : List ℤ
  tax : ℤ

/-- The discounts of the lines. -/
def Breakdown.lineDiscounts (b : Breakdown) : ℤ := (b.lines.map LineBreakdown.lineDiscount).sum

/-- The amounts of the order by Shopify's identities. -/
def Breakdown.totals (b : Breakdown) : OrderCents where
  totalPrice := (b.lines.map LineBreakdown.gross).sum - (b.lineDiscounts + b.orderDiscount) +
    b.shipping.sum + b.tax
  totalTax := b.tax
  totalDiscounts := b.lineDiscounts + b.orderDiscount
  lines := b.lines.map LineBreakdown.net
  shipping := b.shipping

/-- The amounts of an order add up to those of a breakdown. -/
structure ShopifyOrder.AddsUp (order : ShopifyOrder) (b : Breakdown) : Prop where
  totals : order.cents? = some b.totals
  lines : List.Forall₂ (fun line l => line.originalUnitPrice.cents? = some l.unitPrice ∧
    line.quantity = .fin (l.quantity : ℚ)) order.lineItems b.lines

/-- Induction on the lines. -/
theorem sum_net (lines : List LineBreakdown) : (lines.map LineBreakdown.net).sum =
    (lines.map LineBreakdown.gross).sum - (lines.map LineBreakdown.lineDiscount).sum := by
  induction lines with
  | nil => rfl
  | cons l lines ih =>
    simp only [List.map_cons, List.sum_cons, ih, LineBreakdown.net]
    ring

/-- What the balancing finds is what the lines have taken off themselves. -/
theorem Breakdown.difference_eq (b : Breakdown) : b.totals.difference = b.lineDiscounts := by
  have hnet := sum_net b.lines
  unfold OrderCents.difference Breakdown.totals Breakdown.lineDiscounts
  rw [hnet]
  ring

/-! ## The shipping of the header -/

/-- The shipping charge that a header writes onto an order without shipping lines. -/
def extraShipping (order : ShopifyOrder) (header : Js.Fields) : Except Thrown Js.Number :=
  if order.shippingLines = [] then do shippingTotal (← headerShipping header) else .ok 0

theorem shippingTotal_congr {payload' : NsOrderPayload}
    (h : payload.get? "shipping" = payload'.get? "shipping") :
    shippingTotal payload = shippingTotal payload' := by
  unfold shippingTotal shippingLines
  rw [h]

/-- Without extra mappings for shipping there is no such charge. -/
theorem extraShipping_eq_zero {order : ShopifyOrder}
    (h : order.shippingLines ≠ [] ∨ header.get? "shipping" = none) :
    extraShipping order header = .ok 0 := by
  unfold extraShipping
  split
  · next hnil =>
    have hnone : header.get? "shipping" = none := h.resolve_left (not_not.mpr hnil)
    have htotal : shippingTotal [] = .ok (.ofCents 0) :=
      @shippingTotal_eq _ _ [] rfl .nil
    rw [headerShipping, hnone]
    exact htotal.trans (by rw [Js.Number.ofCents_zero])
  · rfl

/-! ## The difference -/

@[simp] theorem round2_ofCents (c : ℤ) : round2 (.ofCents c) = .ofCents c :=
  Js.Number.round_ofCents c

theorem round2_inf (s : Bool) : round2 (.inf s) = .inf s := by
  cases s <;> rfl

/-- Rounding gives whole cents, or an infinity, or no number. -/
theorem round2_cases (n : Js.Number) :
    (∃ c, round2 n = .ofCents c) ∨ (∃ s, round2 n = .inf s) ∨ round2 n = .nan := by
  cases n with
  | fin q =>
    refine .inl ⟨⌊q * 100 + 1 / 2⌋, ?_⟩
    change Js.Number.div (.fin (⌊q * (100 : ℕ) + 1 / 2⌋ : ℤ)) (.fin (100 : ℕ)) = _
    simp [Js.Number.div, Js.Number.ofCents]
  | inf s => exact .inr (.inl ⟨s, round2_inf s⟩)
  | nan => exact .inr (.inr rfl)

theorem sumAmounts_cases {values : List Js.Value} {n : Js.Number}
    (h : sumAmounts values = .ok n) : (∃ c, n = .ofCents c) ∨ (∃ s, n = .inf s) ∨ n = .nan := by
  obtain ⟨total, _, hret⟩ := bind_eq_ok.mp h
  cases hret
  exact round2_cases total

/-- The difference vanishes for one sum of the shipping lines only. -/
theorem difference_eq_zero_iff (price lines tax discounts : ℤ) {n : Js.Number}
    (hn : (∃ c, n = .ofCents c) ∨ (∃ s, n = .inf s) ∨ n = .nan) :
    round2 (.ofCents price - round2 (.ofCents lines + n + .ofCents tax - .ofCents discounts)) = 0 ↔
      n = .ofCents (price - (lines + tax - discounts)) := by
  rcases hn with ⟨c, rfl⟩ | ⟨s, rfl⟩ | rfl
  · simp only [Js.Number.ofCents_add, Js.Number.ofCents_sub, round2_ofCents,
      Js.Number.ofCents_eq_zero, Js.Number.ofCents_inj]
    omega
  · have hsum : Js.Number.ofCents lines + .inf s + .ofCents tax - .ofCents discounts = .inf s := rfl
    have hdiff : Js.Number.ofCents price - .inf s = .inf (!s) := rfl
    rw [hsum, round2_inf, hdiff, round2_inf]
    constructor <;> intro h <;> cases h
  · have hdiff : round2 (.ofCents price - round2 (.ofCents lines + .nan + .ofCents tax -
        .ofCents discounts)) = .nan := rfl
    rw [hdiff]
    constructor <;> intro h <;> cases h

/-- A payload is balanced as it is if and only if there is no difference. -/
theorem applyBalancing_unchanged_iff {order : ShopifyOrder} :
    (∃ balanced, applyBalancing payload order defaultBalancing = .ok (.ok balanced) ∧
      balanced.payload = payload) ↔
      ∃ d, balancingDiagnostics payload order = .ok d ∧ d.diff = 0 := by
  constructor
  · rintro ⟨balanced, hbalanced, hsame⟩
    obtain ⟨hd, _, ⟨hzero, _⟩ | ⟨_, lines, hlines, hpayload⟩⟩ := applyBalancing_eq_ok hbalanced
    · exact ⟨_, hd, hzero⟩
    · have hmore := itemLines_withItems payload
        (lines ++ [balancingLine defaultBalancing balanced.diagnostics.diff])
      rw [← hpayload, hsame, hlines, Except.ok.injEq] at hmore
      have hlength := congrArg List.length hmore
      simp at hlength
  · rintro ⟨d, hd, hzero⟩
    have htolerance : defaultBalancing.toleranceAmount.lt (Js.Number.abs 0) = false := by
      decide +kernel
    refine ⟨⟨payload, d⟩, ?_, rfl⟩
    unfold applyBalancing
    rw [hd]
    change (if _ then _ else _) = _
    rw [hzero, htolerance]
    rfl

/-- The difference of the draft of an order that adds up vanishes if and only if the shipping
of the header makes up for the discounts of the lines. -/
theorem Drafted.difference_iff {breakdown : Breakdown} (hdrafted : Drafted args header payload)
    (haddsUp : args.order.AddsUp breakdown) :
    (∃ d, balancingDiagnostics payload args.order = .ok d ∧ d.diff = 0) ↔
      extraShipping args.order header = .ok (.ofCents breakdown.lineDiscounts) := by
  obtain ⟨_, _, _, hlines, hshipping⟩ := ShopifyOrder.cents?_eq_some haddsUp.totals
  have hitems : itemLines payload = .ok (args.order.lineItems.map draftLine) := by
    unfold itemLines
    rw [hdrafted.items]
    rfl
  have hpriced := Priced.of_draftLines hlines
  by_cases hnil : args.order.shippingLines = []
  · obtain ⟨fields, hfields, hget⟩ := hdrafted.header_shipping hnil
    have hextra : extraShipping args.order header = shippingTotal payload := by
      rw [extraShipping, if_pos hnil, hfields, shippingTotal_congr hget]
      rfl
    have hnone : breakdown.shipping = [] := by
      rw [hnil] at hshipping
      exact List.forall₂_nil_left_iff.mp hshipping
    rw [hextra]
    cases htotal : shippingTotal payload with
    | error e =>
      have herror := balancingDiagnostics_error haddsUp.totals htotal
      simp [herror]
    | ok n =>
      obtain ⟨d, hd, hdiff⟩ :=
        balancingDiagnostics_of_shipping haddsUp.totals hitems hpriced htotal
      obtain ⟨shipping, hlinesOf, hsum⟩ := bind_eq_ok.mp htotal
      obtain ⟨amounts, _, hsum⟩ := bind_eq_ok.mp hsum
      have hzero := difference_eq_zero_iff breakdown.totals.totalPrice breakdown.totals.lines.sum
        breakdown.totals.totalTax breakdown.totals.totalDiscounts (sumAmounts_cases hsum)
      have hgap : breakdown.totals.totalPrice - (breakdown.totals.lines.sum +
          breakdown.totals.totalTax - breakdown.totals.totalDiscounts) =
          breakdown.lineDiscounts := by
        have hdifference := breakdown.difference_eq
        have hship : breakdown.totals.shipping = [] := hnone
        rw [OrderCents.difference, hship, List.sum_nil] at hdifference
        omega
      rw [hd, Except.ok.injEq, ← hgap, ← hzero]
      simp [hdiff]
  · have hship : shippingLines payload =
        .ok (args.order.shippingLines.map (draftShippingLine args.connection)) := by
      unfold shippingLines
      rw [hdrafted.shipping hnil]
      rfl
    obtain ⟨d, hd, hdiff⟩ := balancingDiagnostics_eq haddsUp.totals hitems hpriced hship
      (.of_draftShippingLines args.connection hshipping)
    rw [breakdown.difference_eq] at hdiff
    rw [extraShipping_eq_zero (.inl hnil), hd]
    simp [hdiff, eq_comm]

/-! ## Discounted orders -/

theorem exists_mapOrderDiscount {connection : Connection} {item : String} (order : ShopifyOrder)
    (hitem : truthy connection.defaultDiscountItemId = some item) :
    ∃ fields, mapOrderDiscount connection order = .ok fields := by
  unfold mapOrderDiscount
  dsimp only
  split
  · exact ⟨_, rfl⟩
  · rw [hitem]
    exact ⟨_, rfl⟩

/-- An order with lines is drafted, if the header's shipping can be. -/
theorem exists_draft {item : String}
    (hderives : (args.context dates).derives = defaultDeriveRegistry dates)
    (hheader : Settles (evaluate args.order args.headerMappings (args.context dates)) tr
      (.ok (.ok header)))
    (hfields : missingHeaderField header = none)
    (hitem : truthy args.connection.defaultDiscountItemId = some item)
    (hlines : args.order.lineItems ≠ []) (hwraps : ShippingWraps args.order header) :
    ∃ draft, Settles (buildOrderPayload dates args) tr (.ok (.ok draft)) := by
  obtain ⟨discount, hdiscount⟩ := exists_mapOrderDiscount args.order hitem
  obtain ⟨draft, hdraft⟩ := (exists_wrap_iff (distinct_evaluate hheader) hdiscount).mpr hwraps
  obtain ⟨line, rest, hcons⟩ := List.exists_cons_of_ne_nil hlines
  refine ⟨draft, ?_⟩
  rw [buildOrderPayload_eq hderives]
  refine settles_bind_ok.mpr ⟨_, tr, [], (List.append_nil tr).symm, hheader, ?_⟩
  refine settles_ofExcept.mpr ⟨rfl, ?_⟩
  unfold draftFrom assemblePayload
  simp only [hcons, hfields, hdiscount, rawPayload_eq, hdraft]
  rfl

/-- An order that is built and balanced as it is has a line, and its lines have no discounts. -/
theorem extraShipping_of_booked {breakdown : Breakdown} {draft : NsOrderPayload}
    {balanced : BalancedPayload}
    (hderives : (args.context dates).derives = defaultDeriveRegistry dates)
    (hheader : Settles (evaluate args.order args.headerMappings (args.context dates)) tr
      (.ok (.ok header)))
    (haddsUp : args.order.AddsUp breakdown)
    (hbuild : Settles (buildOrderPayload dates args) tr (.ok (.ok draft)))
    (hbalance : applyBalancing draft args.order defaultBalancing = .ok (.ok balanced))
    (hsame : balanced.payload = draft) :
    args.order.lineItems ≠ [] ∧
      extraShipping args.order header = .ok (.ofCents breakdown.lineDiscounts) := by
  obtain ⟨header', hheader', hdrafted⟩ := drafted_of_build hderives hbuild
  have hheaders : header' = header := by
    have hresult := Runs.unique hheader' hheader
    rwa [Except.ok.injEq, MappingResult.ok.injEq] at hresult
  rw [hheaders] at hdrafted
  exact ⟨hdrafted.nonempty, (hdrafted.difference_iff haddsUp).mp
    (applyBalancing_unchanged_iff.mp ⟨balanced, hbalance, hsame⟩)⟩

end

namespace Sale

/-- The sale without the odd cent: all its amounts add up, and the discount is the order's. -/
def rounded : ShopifyOrder := { order with totalPrice := ⟨"24.60", "USD"⟩ }

/-- The rounded sale with the discount on its line. -/
def marked : ShopifyOrder :=
  { rounded with
    lineItems := rounded.lineItems.map fun line =>
      { line with discountedTotal := ⟨"18.00", "USD"⟩ } }

/-- The amounts of the sale, with a discount on its line and one on the order. -/
def breakdown (lineDiscount orderDiscount : ℤ) : Breakdown where
  lines := [⟨1000, 2, lineDiscount⟩]
  orderDiscount
  shipping := [500]
  tax := 160

/-- The header of an order of the connection. -/
def header (order : ShopifyOrder) : Js.Fields :=
  (built ((evaluate order (args order).headerMappings ((args order).context dates)).run.eval
    answers).2).getD []

theorem header_settles {order : ShopifyOrder}
    (h : (built ((evaluate order (args order).headerMappings
      ((args order).context dates)).run.eval answers).2).isSome = true) :
    Settles (evaluate order (args order).headerMappings ((args order).context dates))
      ((evaluate order (args order).headerMappings ((args order).context dates)).run.eval answers).1
      (.ok (.ok (header order))) := by
  obtain ⟨fields, hfields⟩ := Option.isSome_iff_exists.mp h
  have hheader : ((evaluate order (args order).headerMappings
      ((args order).context dates)).run.eval answers).2 = .ok (.ok (header order)) := by
    unfold header
    rw [hfields]
    exact built_eq_some.mp hfields
  rw [← hheader]
  exact Prog.runs_eval ..

/-- What is checked of a sale: it has a header with all its fields, it may be booked with a discount,
and its amounts are those of its breakdown. -/
abbrev Checks (order : ShopifyOrder) (b : Breakdown) : Prop :=
  (built ((evaluate order (args order).headerMappings
    ((args order).context dates)).run.eval answers).2).isSome = true ∧
  missingHeaderField (header order) = none ∧
  truthy (args order).connection.defaultDiscountItemId = some "31" ∧
  (order.lineItems ≠ [] ∧ order.shippingLines ≠ []) ∧
  order.cents? = some b.totals ∧
  (order.lineItems.zip b.lines).all fun (line, l) =>
    line.originalUnitPrice.cents? = some l.unitPrice ∧ line.quantity = .fin (l.quantity : ℚ)

theorem addsUp_of_checks {order : ShopifyOrder} {b : Breakdown} (h : Checks order b)
    (hlength : order.lineItems.length = b.lines.length) : order.AddsUp b := by
  obtain ⟨_, _, _, _, htotals, hlines⟩ := h
  refine ⟨htotals, List.forall₂_iff_zip.mpr ⟨hlength, fun {line l} hmem => ?_⟩⟩
  exact of_decide_eq_true (List.all_eq_true.mp hlines (line, l) hmem)

theorem sales_check :
    Checks rounded (breakdown 0 200) ∧ Checks marked (breakdown 200 0) := by decide +kernel

end Sale

end DpIntegrator
