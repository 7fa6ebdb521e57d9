import DpIntegrator.NetSuite.Money

/-!
# Adding up

Balancing sums the amounts of a payload and compares them with the total of the order. It
passes over what is no amount, and a sum without a number exceeds no tolerance.
-/

namespace DpIntegrator

open Js (Number)

/-! ## Amounts -/

/-- The value is a finite number, or a text that is one. -/
def finiteAmount : Js.Value → Bool
  | .num n => n.isFinite
  | .str s => (Js.toNumber s).isFinite
  | _ => false

/-- The number that a value counts as, if it counts. -/
def counted : Js.Value → Option Number
  | .num n => some n
  | .str s => some (Js.parseFloat s)
  | _ => none

/-- The texts among some values. -/
def texts (values : List Js.Value) : List String :=
  values.filterMap fun
    | .str s => some s
    | _ => none

/-- A text that no number can be read from stops the balancing. -/
def Readable (s : String) : Prop := (Js.parseFloat s).isNaN = false

theorem parseAmount_eq_ok {s : String} {n : Number} :
    parseAmount s = .ok n ↔ Readable s ∧ n = round2 (Js.parseFloat s) := by
  unfold parseAmount Readable
  dsimp only
  split
  · next hnan => simp [hnan]
  · next hnan => simp [hnan, eq_comm]

/-- The amounts that count, in cents. -/
def countedCents (values : List Js.Value) : List Number := (values.filterMap counted).map round2

theorem addAmounts_of_readable {values : List Js.Value} {total : Number}
    (h : ∀ s ∈ texts values, Readable s) :
    addAmounts values total = .ok ((countedCents values).foldl (· + ·) total) := by
  induction values generalizing total with
  | nil => rfl
  | cons v values ih =>
    cases v with
    | str s =>
      have hparse := parseAmount_eq_ok.mpr ⟨h s (List.mem_cons_self ..), rfl⟩
      rw [addAmounts, hparse]
      exact ih fun s' hs' => h s' (List.mem_cons_of_mem _ hs')
    | num n => exact ih h
    | _ => exact ih h

theorem readable_of_addAmounts {values : List Js.Value} {total n : Number}
    (h : addAmounts values total = .ok n) : ∀ s ∈ texts values, Readable s := by
  induction values generalizing total with
  | nil => exact fun s hs => absurd hs List.not_mem_nil
  | cons v values ih =>
    cases v with
    | str s =>
      rw [addAmounts] at h
      obtain ⟨m, hm, hrest⟩ := bind_eq_ok.mp h
      exact List.forall_mem_cons.mpr ⟨(parseAmount_eq_ok.mp hm).1, ih hrest⟩
    | num n => exact ih h
    | _ => exact ih h

theorem inCents_round2 (n : Number) : (round2 n).InCents := Number.inCents_round n

theorem inCents_countedCents {values : List Js.Value} :
    ∀ n ∈ countedCents values, n.InCents := by
  intro n hn
  obtain ⟨m, _, rfl⟩ := List.mem_map.mp hn
  exact inCents_round2 m

/-- The sum of the amounts, or an error where one of the texts is no number. -/
theorem sumAmounts_eq_ok {values : List Js.Value} {n : Number} :
    sumAmounts values = .ok n ↔
      (∀ s ∈ texts values, Readable s) ∧ n = Number.total (countedCents values) := by
  unfold sumAmounts
  constructor
  · intro h
    obtain ⟨total, htotal, hret⟩ := bind_eq_ok.mp h
    have hread := readable_of_addAmounts htotal
    rw [addAmounts_of_readable hread, Except.ok.injEq] at htotal
    cases hret
    refine ⟨hread, ?_⟩
    rw [← htotal]
    exact (Number.InCents.total inCents_countedCents).round_eq
  · rintro ⟨hread, rfl⟩
    rw [addAmounts_of_readable hread]
    exact congrArg Except.ok (Number.InCents.total inCents_countedCents).round_eq

/-! ## The difference -/

/-- The amounts of the item lines and the shipping lines of a payload. -/
def lineAmounts (payload : NsOrderPayload) : Except Thrown (List Js.Value) := do
  let shipping ← amountsOf (← shippingLines payload)
  let items ← amountsOf (← itemLines payload)
  return items ++ shipping

/-- The totals of the order that the payload is compared with. -/
def ShopifyOrder.comparedTotals (order : ShopifyOrder) : List String :=
  [order.totalPrice.amount, order.totalTax.amount, order.totalDiscounts.amount]

/-- How far the amounts that count miss the total of the order. -/
def missedBy (order : ShopifyOrder) (amounts : List Js.Value) : Number :=
  round2 (Js.parseFloat order.totalPrice.amount) -
    (Number.total (countedCents amounts) + round2 (Js.parseFloat order.totalTax.amount) -
      round2 (Js.parseFloat order.totalDiscounts.amount))

variable {payload : NsOrderPayload} {order : ShopifyOrder} {options : BalancingOptions}
  {amounts : List Js.Value}

theorem countedCents_append (values values' : List Js.Value) :
    countedCents (values ++ values') = countedCents values ++ countedCents values' := by
  simp [countedCents, List.filterMap_append]

theorem texts_append (values values' : List Js.Value) :
    texts (values ++ values') = texts values ++ texts values' := List.filterMap_append ..

/-- Rounding on the way leaves the difference alone: its terms are in cents. -/
theorem round2_difference (items shipping : List Js.Value) :
    round2 (round2 (Js.parseFloat order.totalPrice.amount) -
      round2 (Number.total (countedCents items) + Number.total (countedCents shipping) +
        round2 (Js.parseFloat order.totalTax.amount) -
        round2 (Js.parseFloat order.totalDiscounts.amount))) = missedBy order (items ++ shipping) := by
  have hsum : (Number.total (countedCents items) + Number.total (countedCents shipping) +
      round2 (Js.parseFloat order.totalTax.amount) -
      round2 (Js.parseFloat order.totalDiscounts.amount)).InCents :=
    (((Number.InCents.total inCents_countedCents).add
      (Number.InCents.total inCents_countedCents)).add (inCents_round2 _)).sub (inCents_round2 _)
  have hround : round2 (Number.total (countedCents items) + Number.total (countedCents shipping) +
      round2 (Js.parseFloat order.totalTax.amount) -
      round2 (Js.parseFloat order.totalDiscounts.amount)) = _ := hsum.round_eq
  rw [hround]
  unfold missedBy
  rw [countedCents_append, Number.total_append]
  exact ((inCents_round2 _).sub hsum).round_eq

/-- The balancing computes a difference if and only if it can read every line and every text. -/
theorem balancingDiagnostics_eq_ok {n : Number} :
    (∃ d, balancingDiagnostics payload order = .ok d ∧ d.diff = n) ↔
      ∃ amounts, lineAmounts payload = .ok amounts ∧
        (∀ s ∈ order.comparedTotals ++ texts amounts, Readable s) ∧ n = missedBy order amounts := by
  constructor
  · rintro ⟨d, h, rfl⟩
    unfold balancingDiagnostics at h
    obtain ⟨price, hprice, h⟩ := bind_eq_ok.mp h
    obtain ⟨tax, htax, h⟩ := bind_eq_ok.mp h
    obtain ⟨ship, hship, h⟩ := bind_eq_ok.mp h
    obtain ⟨shipping, hshipping, h⟩ := bind_eq_ok.mp h
    obtain ⟨shippingTotal, hshippingTotal, h⟩ := bind_eq_ok.mp h
    obtain ⟨lines, hlines, h⟩ := bind_eq_ok.mp h
    obtain ⟨items, hitems, h⟩ := bind_eq_ok.mp h
    obtain ⟨linesTotal, hlinesTotal, h⟩ := bind_eq_ok.mp h
    obtain ⟨discounts, hdiscounts, h⟩ := bind_eq_ok.mp h
    cases h
    obtain ⟨hpriceRead, rfl⟩ := parseAmount_eq_ok.mp hprice
    obtain ⟨htaxRead, rfl⟩ := parseAmount_eq_ok.mp htax
    obtain ⟨hdiscountsRead, rfl⟩ := parseAmount_eq_ok.mp hdiscounts
    obtain ⟨hshippingRead, rfl⟩ := sumAmounts_eq_ok.mp hshippingTotal
    obtain ⟨hitemsRead, rfl⟩ := sumAmounts_eq_ok.mp hlinesTotal
    refine ⟨items ++ shipping, ?_, ?_, round2_difference items shipping⟩
    · unfold lineAmounts
      simp only [hship, hshipping, hlines, hitems, bind, Except.bind, pure, Except.pure]
    · rw [texts_append]
      simp only [ShopifyOrder.comparedTotals, List.mem_append, List.mem_cons, List.not_mem_nil,
        or_false]
      rintro s ((rfl | rfl | rfl) | hs | hs)
      · exact hpriceRead
      · exact htaxRead
      · exact hdiscountsRead
      · exact hitemsRead s hs
      · exact hshippingRead s hs
  · rintro ⟨amounts, hamounts, hread, rfl⟩
    unfold lineAmounts at hamounts
    obtain ⟨ship, hship, hamounts⟩ := bind_eq_ok.mp hamounts
    obtain ⟨shipping, hshipping, hamounts⟩ := bind_eq_ok.mp hamounts
    obtain ⟨lines, hlines, hamounts⟩ := bind_eq_ok.mp hamounts
    obtain ⟨items, hitems, hamounts⟩ := bind_eq_ok.mp hamounts
    cases hamounts
    have htotal : ∀ s ∈ order.comparedTotals, parseAmount s = .ok (round2 (Js.parseFloat s)) :=
      fun s hs => parseAmount_eq_ok.mpr ⟨hread s (List.mem_append_left _ hs), rfl⟩
    rw [texts_append] at hread
    have hitemsTotal : sumAmounts items = .ok (Number.total (countedCents items)) :=
      sumAmounts_eq_ok.mpr ⟨fun s hs => hread s (by simp [hs]), rfl⟩
    have hshippingTotal : sumAmounts shipping = .ok (Number.total (countedCents shipping)) :=
      sumAmounts_eq_ok.mpr ⟨fun s hs => hread s (by simp [hs]), rfl⟩
    have hprice := htotal order.totalPrice.amount (by simp [ShopifyOrder.comparedTotals])
    have htax := htotal order.totalTax.amount (by simp [ShopifyOrder.comparedTotals])
    have hdiscounts := htotal order.totalDiscounts.amount (by simp [ShopifyOrder.comparedTotals])
    rw [← round2_difference]
    unfold balancingDiagnostics
    simp only [hprice, htax, hdiscounts, hship, hshipping, hlines, hitems, hitemsTotal,
      hshippingTotal, bind, Except.bind, pure, Except.pure]
    exact ⟨_, rfl, rfl⟩

/-! ## What balancing passes -/

/-- The payload was added up: every amount was present and finite, the difference is finite,
and so are the rate and the amount of every line that was appended. -/
structure AddedUp (payload : NsOrderPayload) (b : BalancedPayload) : Prop where
  amounts : ∃ amounts, lineAmounts payload = .ok amounts ∧ ∀ v ∈ amounts, finiteAmount v = true
  difference : b.diagnostics.diff.isFinite = true
  appended : ∀ lines added, itemLines payload = .ok lines →
    itemLines b.payload = .ok (lines ++ added) →
      ∀ line ∈ added, ∀ key ∈ ["rate", "amount"], finiteAmount (line.prop key) = true

/-- The amounts of the lines are finite, and so is everything that is added up. -/
structure AllFinite (order : ShopifyOrder) (amounts : List Js.Value) : Prop where
  lines : ∀ v ∈ amounts, finiteAmount v = true
  terms : ∀ n ∈ amounts.filterMap counted, n.isFinite = true
  totals : ∀ s ∈ order.comparedTotals, (Js.parseFloat s).isFinite = true

theorem isFinite_round2 (n : Number) : (round2 n).isFinite = n.isFinite := by
  rcases n with q | (_ | _) | _ <;> rfl

theorem isFinite_missedBy : (missedBy order amounts).isFinite = true ↔
    (∀ n ∈ amounts.filterMap counted, n.isFinite = true) ∧
      ∀ s ∈ order.comparedTotals, (Js.parseFloat s).isFinite = true := by
  unfold missedBy countedCents
  simp only [Number.isFinite_sub, Number.isFinite_add, Bool.and_eq_true, Number.isFinite_total,
    List.forall_mem_map, isFinite_round2, ShopifyOrder.comparedTotals, List.forall_mem_cons]
  constructor
  · rintro ⟨hprice, ⟨hcounted, htax⟩, hdiscounts⟩
    exact ⟨hcounted, hprice, htax, hdiscounts, fun s hs => absurd hs List.not_mem_nil⟩
  · rintro ⟨hcounted, hprice, htax, hdiscounts, _⟩
    exact ⟨hprice, ⟨hcounted, htax⟩, hdiscounts⟩

/-- What the balancing lets pass is within the tolerance. -/
theorem exists_balanced {d : BalancingDiagnostics}
    (hd : balancingDiagnostics payload order = .ok d)
    (hamounts : lineAmounts payload = .ok amounts)
    (htolerance : options.toleranceAmount.lt d.diff.abs = false) :
    ∃ b, applyBalancing payload order options = .ok (.ok b) ∧ b.diagnostics = d := by
  unfold lineAmounts at hamounts
  obtain ⟨_, _, hamounts⟩ := bind_eq_ok.mp hamounts
  obtain ⟨_, _, hamounts⟩ := bind_eq_ok.mp hamounts
  obtain ⟨lines, hlines, _⟩ := bind_eq_ok.mp hamounts
  have hrun : applyBalancing payload order options =
      if d.diff = 0 then .ok (.ok { payload, diagnostics := d })
      else .ok (.ok
        { payload := withItems payload (lines ++ [balancingLine options d.diff])
          diagnostics := d }) := by
    unfold applyBalancing
    rw [hd]
    change (if options.toleranceAmount.lt d.diff.abs = true then _ else _) = _
    rw [htolerance, if_neg Bool.false_ne_true, hlines]
    split <;> rfl
  split at hrun
  · exact ⟨_, hrun, rfl⟩
  · exact ⟨_, hrun, rfl⟩

/-- When the balancing passes no payload that it cannot add up: a text is no number, so that it
throws, or everything is finite, or what there is misses the total by more than the tolerance. -/
def Guarded (payload : NsOrderPayload) (order : ShopifyOrder) (options : BalancingOptions) :
    Prop :=
  ∀ amounts, lineAmounts payload = .ok amounts →
    (∃ s ∈ order.comparedTotals ++ texts amounts, ¬Readable s) ∨ AllFinite order amounts ∨
      options.toleranceAmount.lt (missedBy order amounts).abs = true

/-- The line that balancing appends carries the difference. -/
theorem finite_balancingLine {diff : Number} (h : diff.isFinite = true) :
    ∀ key ∈ ["rate", "amount"], finiteAmount ((balancingLine options diff).prop key) = true := by
  intro key hkey
  simp only [List.mem_cons, List.not_mem_nil, or_false] at hkey
  rcases hkey with rfl | rfl
  · exact h
  · exact h

namespace Sale

/-- The sale with a line whose price cannot be read. -/
def unpriced : ShopifyOrder :=
  { Sale.order with
    lineItems := [{
      id := "gid://shopify/LineItem/7"
      title := "Teapot"
      sku := some "TEAPOT"
      quantity := 2
      originalUnitPrice := ⟨"10.00", "USD"⟩
      discountedTotal := ⟨"n/a", "USD"⟩ }] }

/-- Its draft, with the header tax fields. -/
def unpricedDraft : NsOrderPayload :=
  applyTaxPayloadHeader (draft unpriced) (buildOrderTax connection unpriced)

end Sale

end DpIntegrator
