import DpIntegrator.Js.Cents
import DpIntegrator.NetSuite.Resolution

/-!
# Money in whole cents

Amounts are read as whole cents, on the order and on the payload. The balancing
difference is then a sum of integers, and what a resolved payload books can be compared
with the total of the order.
-/

namespace DpIntegrator

open Effects

section

variable {dates : Dates} {args : BuildOrderPayloadArgs} {order : ShopifyOrder}
  {payload header headerTax : Js.Fields} {lines lines' : List Js.Value} {tr tr' : List Ev}
  {nsAccountId : String} {fallback : Option String}

/-! ## Amounts -/

/-- The cents of an amount that both readers of numbers read as the same whole cents. -/
def MoneyV2.cents? (m : MoneyV2) : Option ℤ :=
  if Js.toNumber m.amount = Js.parseFloat m.amount then (Js.toNumber m.amount).cents? else none

theorem MoneyV2.cents?_eq_some {m : MoneyV2} {c : ℤ} (h : m.cents? = some c) :
    Js.toNumber m.amount = .ofCents c ∧ Js.parseFloat m.amount = .ofCents c := by
  rw [MoneyV2.cents?, Option.ite_none_right_eq_some, Js.Number.cents?_eq_some] at h
  exact ⟨h.2, h.1 ▸ h.2⟩

/-- The amounts of an order that the payload is balanced against and built from, in cents. -/
structure OrderCents where
  totalPrice : ℤ
  totalTax : ℤ
  totalDiscounts : ℤ
  lines : List ℤ
  shipping : List ℤ
  deriving DecidableEq

/-- The amounts of an order, if they are exact in cents. -/
def ShopifyOrder.cents? (order : ShopifyOrder) : Option OrderCents := do
  return {
    totalPrice := ← order.totalPrice.cents?
    totalTax := ← order.totalTax.cents?
    totalDiscounts := ← order.totalDiscounts.cents?
    lines := ← order.lineItems.mapM fun line => line.discountedTotal.cents?
    shipping := ← order.shippingLines.mapM fun line => line.price.cents? }

/-- How far the lines, the shipping, the tax and the discounts are from the total. -/
def OrderCents.difference (c : OrderCents) : ℤ :=
  c.totalPrice - (c.lines.sum + c.shipping.sum + c.totalTax - c.totalDiscounts)

/-- Induction on the list. -/
theorem mapM_eq_some {α β : Type} {f : α → Option β} {l : List α} {l' : List β} :
    l.mapM f = some l' ↔ List.Forall₂ (fun a b => f a = some b) l l' := by
  induction l generalizing l' with
  | nil => simp [eq_comm]
  | cons a l ih =>
    simp only [List.mapM_cons, Option.pure_def, Option.bind_eq_bind, Option.bind_eq_some_iff,
      Option.some.injEq, List.forall₂_cons_left_iff, ih]
    constructor
    · rintro ⟨b, ha, rest, hrest, rfl⟩
      exact ⟨b, rest, ha, hrest, rfl⟩
    · rintro ⟨b, rest, ha, hrest, rfl⟩
      exact ⟨b, ha, rest, hrest, rfl⟩

theorem ShopifyOrder.cents?_eq_some {cents : OrderCents} (h : order.cents? = some cents) :
    order.totalPrice.cents? = some cents.totalPrice ∧ order.totalTax.cents? = some cents.totalTax ∧
      order.totalDiscounts.cents? = some cents.totalDiscounts ∧
      List.Forall₂ (fun line c => line.discountedTotal.cents? = some c) order.lineItems
        cents.lines ∧
      List.Forall₂ (fun line c => line.price.cents? = some c) order.shippingLines
        cents.shipping := by
  simp only [ShopifyOrder.cents?, Option.pure_def, Option.bind_eq_bind, Option.bind_eq_some_iff,
    Option.some.injEq, mapM_eq_some] at h
  obtain ⟨price, hprice, tax, htax, discounts, hdiscounts, ls, hlines, ss, hshipping, rfl⟩ := h
  exact ⟨hprice, htax, hdiscounts, hlines, hshipping⟩

theorem parseAmount_eq {m : MoneyV2} {c : ℤ} (h : m.cents? = some c) :
    parseAmount m.amount = .ok (.ofCents c) := by
  unfold parseAmount
  simp only [(MoneyV2.cents?_eq_some h).2, Js.Number.isNaN_ofCents, Bool.false_eq_true, if_false,
    round2, Js.Number.round_ofCents]

/-! ## Lines -/

/-- The cents of the amount on a line. -/
def lineCents (line : Js.Value) : Option ℤ :=
  match line.prop "amount" with
  | .num n => n.cents?
  | _ => none

theorem lineCents_eq_some {line : Js.Value} {c : ℤ} :
    lineCents line = some c ↔ line.prop "amount" = .num (.ofCents c) := by
  unfold lineCents
  split
  · next n h => rw [h, Js.Number.cents?_eq_some, Js.Value.num.injEq]
  · next h =>
    constructor
    · intro hnone
      cases hnone
    · intro hnum
      exact absurd hnum (h _)

/-- The lines have the amounts `cs`, in order. -/
def Priced (lines : List Js.Value) (cs : List ℤ) : Prop :=
  List.Forall₂ (fun line c => lineCents line = some c) lines cs

/-- Induction on the lines. -/
theorem Priced.amountsOf {cs : List ℤ} (h : Priced lines cs) :
    amountsOf lines = .ok (cs.map fun c => .num (.ofCents c)) := by
  unfold DpIntegrator.amountsOf
  induction h with
  | nil => rfl
  | @cons line c lines cs hline _ ih =>
    have hamount := lineCents_eq_some.mp hline
    have hnull : line.isNullish = false := by
      cases line with
      | undefined | null => cases hamount
      | _ => rfl
    simp [List.mapM_cons, hnull, hamount, ih, bind, Except.bind, pure, Except.pure]

theorem addAmounts_ofCents (cs : List ℤ) (c : ℤ) :
    addAmounts (cs.map fun c => .num (.ofCents c)) (.ofCents c) = .ok (.ofCents (c + cs.sum)) := by
  induction cs generalizing c with
  | nil => simp [addAmounts]
  | cons a cs ih =>
    have hround : round2 (.ofCents a) = .ofCents a := Js.Number.round_ofCents a
    rw [List.map_cons, addAmounts, hround, Js.Number.ofCents_add, ih, List.sum_cons, add_assoc]

theorem sumAmounts_ofCents (cs : List ℤ) :
    sumAmounts (cs.map fun c => .num (.ofCents c)) = .ok (.ofCents cs.sum) := by
  have hadd := addAmounts_ofCents cs 0
  rw [Js.Number.ofCents_zero, zero_add] at hadd
  unfold sumAmounts
  rw [hadd]
  exact congrArg Except.ok (Js.Number.round_ofCents _)

/-! ## The balancing difference -/

/-- The sum of the shipping lines of a payload. -/
def shippingTotal (payload : NsOrderPayload) : Except Thrown Js.Number := do
  sumAmounts (← amountsOf (← shippingLines payload))

theorem shippingTotal_eq {shipping : List Js.Value} {cs : List ℤ}
    (hship : shippingLines payload = .ok shipping) (hpriced : Priced shipping cs) :
    shippingTotal payload = .ok (.ofCents cs.sum) := by
  unfold shippingTotal
  rw [hship]
  exact (congrArg (· >>= sumAmounts) hpriced.amountsOf).trans (sumAmounts_ofCents cs)

theorem balancingDiagnostics_error {cents : OrderCents} {e : Thrown}
    (hcents : order.cents? = some cents) (hship : shippingTotal payload = .error e) :
    balancingDiagnostics payload order = .error e := by
  obtain ⟨hprice, htax, _, _, _⟩ := ShopifyOrder.cents?_eq_some hcents
  have hdiagnostics : balancingDiagnostics payload order = do
      let shopifyTotal ← parseAmount order.totalPrice.amount
      let nsTaxTotal ← parseAmount order.totalTax.amount
      let nsShippingTotal ← shippingTotal payload
      let nsLinesTotal ← sumAmounts (← amountsOf (← itemLines payload))
      let orderDiscounts ← parseAmount order.totalDiscounts.amount
      let nsTotal := round2 (nsLinesTotal + nsShippingTotal + nsTaxTotal - orderDiscounts)
      let diff := round2 (shopifyTotal - nsTotal)
      return {
        shopifyTotal, nsLinesTotal, nsTaxTotal, nsShippingTotal, orderDiscounts, diff
        applied := diff ≠ 0 } := by
    unfold balancingDiagnostics shippingTotal
    simp only [bind_assoc]
  rw [hdiagnostics, parseAmount_eq hprice, parseAmount_eq htax, hship]
  rfl

/-- The balancing difference of a payload whose lines have amounts in cents, for any sum of
the shipping lines. -/
theorem balancingDiagnostics_of_shipping {cents : OrderCents} {n : Js.Number}
    (hcents : order.cents? = some cents) (hitems : itemLines payload = .ok lines)
    (hlines : Priced lines cents.lines) (hship : shippingTotal payload = .ok n) :
    ∃ d, balancingDiagnostics payload order = .ok d ∧
      d.diff = round2 (.ofCents cents.totalPrice - round2 (.ofCents cents.lines.sum + n +
        .ofCents cents.totalTax - .ofCents cents.totalDiscounts)) := by
  obtain ⟨hprice, htax, hdiscounts, _, _⟩ := ShopifyOrder.cents?_eq_some hcents
  obtain ⟨shipping, hshipping, hsum⟩ := bind_eq_ok.mp hship
  obtain ⟨amounts, hamounts, hsum⟩ := bind_eq_ok.mp hsum
  unfold balancingDiagnostics
  simp only [parseAmount_eq hprice, parseAmount_eq htax, parseAmount_eq hdiscounts, hshipping,
    hamounts, hsum, hitems, hlines.amountsOf, sumAmounts_ofCents, bind, Except.bind, pure,
    Except.pure]
  exact ⟨_, rfl, rfl⟩

/-- The balancing difference of a payload whose lines and shipping lines have amounts in cents. -/
theorem balancingDiagnostics_eq {cents : OrderCents} {shipping : List Js.Value}
    (hcents : order.cents? = some cents) (hitems : itemLines payload = .ok lines)
    (hlines : Priced lines cents.lines) (hship : shippingLines payload = .ok shipping)
    (hshipping : Priced shipping cents.shipping) :
    ∃ d, balancingDiagnostics payload order = .ok d ∧ d.diff = .ofCents cents.difference := by
  obtain ⟨d, hd, hdiff⟩ :=
    balancingDiagnostics_of_shipping hcents hitems hlines (shippingTotal_eq hship hshipping)
  have hround (c : ℤ) : round2 (.ofCents c) = .ofCents c := Js.Number.round_ofCents c
  refine ⟨d, hd, ?_⟩
  simp only [hdiff, Js.Number.ofCents_add, Js.Number.ofCents_sub, hround]
  rfl

/-- How a payload is balanced. -/
theorem applyBalancing_eq_ok {options : BalancingOptions} {balanced : BalancedPayload}
    (h : applyBalancing payload order options = .ok (.ok balanced)) :
    balancingDiagnostics payload order = .ok balanced.diagnostics ∧
      options.toleranceAmount.lt balanced.diagnostics.diff.abs = false ∧
      (balanced.diagnostics.diff = 0 ∧ balanced.payload = payload ∨
        balanced.diagnostics.diff ≠ 0 ∧ ∃ lines, itemLines payload = .ok lines ∧
          balanced.payload = withItems payload
            (lines ++ [balancingLine options balanced.diagnostics.diff])) := by
  unfold applyBalancing at h
  obtain ⟨d, hd, hrest⟩ := bind_eq_ok.mp h
  split at hrest
  · cases hrest
  next htolerance =>
  rw [Bool.not_eq_true] at htolerance
  split at hrest
  · next hzero =>
    cases hrest
    exact ⟨hd, htolerance, .inl ⟨hzero, rfl⟩⟩
  · next hzero =>
    obtain ⟨lines, hlines, hret⟩ := bind_eq_ok.mp hrest
    cases hret
    exact ⟨hd, htolerance, .inr ⟨hzero, lines, hlines, rfl⟩⟩

/-! ## What is booked -/

/-- The cents that a sublist of a payload adds up to; an absent sublist adds nothing. -/
def sublistCents (payload : NsOrderPayload) (key : String) : Option ℤ :=
  match payload.get? key with
  | none => some 0
  | some bag =>
    match linesOf bag with
    | .ok lines => (lines.mapM lineCents).map List.sum
    | .error _ => none

/-- The cents of the discount rate of a payload; an absent rate takes nothing off. -/
def discountCents (payload : NsOrderPayload) : Option ℤ :=
  match payload.get? "discountRate" with
  | none => some 0
  | some (.num n) => n.cents?
  | some _ => none

/-- What a payload books for an order, with the tax of the order. -/
def bookedCents (payload : NsOrderPayload) (order : ShopifyOrder) : Option ℤ := do
  return (← sublistCents payload "item") + (← sublistCents payload "shipping") +
    (← discountCents payload) + (← order.totalTax.cents?)

theorem linesOf_items (lines : List Js.Value) : linesOf (.obj [("items", .arr lines)]) = .ok lines :=
  rfl

theorem sublistCents_eq {key : String} {bag : Js.Value} {cs : List ℤ}
    (hbag : payload.get? key = some bag) (hlines : linesOf bag = .ok lines)
    (hpriced : Priced lines cs) : sublistCents payload key = some cs.sum := by
  unfold sublistCents
  simp only [hbag, hlines, mapM_eq_some.mpr hpriced, Option.map_some]

theorem lineCents_draftLine {line : ShopifyLineItem} {c : ℤ}
    (h : line.discountedTotal.cents? = some c) : lineCents (draftLine line) = some c := by
  rw [lineCents_eq_some, ← (MoneyV2.cents?_eq_some h).1]
  rfl

theorem lineCents_draftShippingLine {connection : Connection} {line : ShopifyShippingLine} {c : ℤ}
    (h : line.price.cents? = some c) :
    lineCents (draftShippingLine connection line) = some c := by
  rw [lineCents_eq_some, ← (MoneyV2.cents?_eq_some h).1]
  rfl

theorem lineCents_balancingLine (options : BalancingOptions) (c : ℤ) :
    lineCents (balancingLine options (.ofCents c)) = some c :=
  lineCents_eq_some.mpr rfl

/-- A line with an amount is an object. -/
theorem exists_obj_of_lineCents {line : Js.Value} {c : ℤ} (h : lineCents line = some c) :
    ∃ fields, line = .obj fields := by
  have hamount := lineCents_eq_some.mp h
  cases line with
  | obj fields => exact ⟨fields, rfl⟩
  | arr items =>
    have hindex : Js.indexOf? "amount" = none := by decide
    simp [Js.Value.prop, hindex] at hamount
  | _ => cases hamount

/-- Resolving the item of a line leaves its other properties alone. -/
theorem prop_withItemId {fields : Js.Fields} {key : String} (hkey : key ≠ "item") (id : String) :
    (withItemId (.obj fields) id).prop key = (Js.Value.obj fields).prop key := by
  unfold withItemId
  rw [Js.Value.prop_obj, Js.Value.prop_obj, Js.Fields.get?_set_of_ne hkey]
  rfl

/-- A resolved line keeps its amount. -/
theorem LineResolved.lineCents_eq {line line' : Js.Value} {c : ℤ}
    (h : LineResolved nsAccountId fallback line tr line') (hline : lineCents line = some c) :
    lineCents line' = some c := by
  obtain ⟨fields, rfl⟩ := exists_obj_of_lineCents hline
  obtain rfl | ⟨id, rfl⟩ := h.eq_or
  · exact hline
  · unfold lineCents
    rw [prop_withItemId (by decide)]
    exact hline

/-- Resolved lines keep their amounts. -/
theorem LinesRun.priced {sublistName : String} {idx : ℕ} {cs : List ℤ}
    (h : LinesRun nsAccountId sublistName fallback idx lines tr (.ok (.ok lines')))
    (hpriced : Priced lines cs) : Priced lines' cs := by
  have hforall := h.resolved.2
  clear h
  induction hpriced generalizing lines' with
  | nil =>
    cases hforall
    exact .nil
  | cons hline _ ih =>
    cases hforall with
    | cons hhead htail =>
      obtain ⟨t, _, hresolved⟩ := hhead
      exact .cons (hresolved.lineCents_eq hline) (ih htail)

/-- The lines of a resolved payload. -/
theorem resolved_payload {final : NsOrderPayload}
    (h : Settles (resolveItemReferences payload nsAccountId fallback) tr (.ok (.ok final)))
    (hlines : itemLines payload = .ok lines) :
    ∃ lines' t₁ t₂, tr = t₁ ++ t₂ ∧ final.get? "item" = some (.obj [("items", .arr lines')]) ∧
      LinesRun nsAccountId "item" fallback 0 lines t₁ (.ok (.ok lines')) ∧
      (final.get? "shipping" = payload.get? "shipping" ∧
          ((payload.get? "shipping").getD .undefined).truthy = false ∧ t₂ = [] ∨
        ∃ ship ship', linesOf ((payload.get? "shipping").getD .undefined) = .ok ship ∧
          final.get? "shipping" = some (.obj [("items", .arr ship')]) ∧
          LinesRun nsAccountId "shipping" none 0 ship t₂ (.ok (.ok ship'))) ∧
      ∀ key, key ≠ "item" → key ≠ "shipping" → final.get? key = payload.get? key := by
  obtain ⟨t₁, t₂, r, rfl, hrun, hend⟩ := resolveItemReferences_runs h hlines
  generalize hfinal : Except.ok (MappingResult.ok final) = res at hend
  cases hend with
  | failed | parked | unreadable => cases hfinal
  | @unshipped lines' hbag =>
    cases hfinal
    refine ⟨lines', t₁, [], rfl, Js.Fields.get?_set_self .., hrun, .inl ⟨?_, hbag, rfl⟩, ?_⟩
    · exact Js.Fields.get?_set_of_ne (by decide) ..
    · intro key hitem _
      exact Js.Fields.get?_set_of_ne hitem ..
  | @shipped lines' ship _ r hship hshipRun =>
    obtain ⟨ship', rfl, rfl⟩ : ∃ ship', r = .ok (.ok ship') ∧
        final = (withItems payload lines').set "shipping" (.obj [("items", .arr ship')]) := by
      unfold withShipping at hfinal
      split at hfinal
      · next ship' =>
        cases hfinal
        exact ⟨ship', rfl, rfl⟩
      · cases hfinal
      · cases hfinal
    refine ⟨lines', t₁, t₂, rfl, ?_, hrun, .inr ⟨ship, ship', hship, ?_, hshipRun⟩, ?_⟩
    · rw [Js.Fields.get?_set_of_ne (by decide)]
      exact Js.Fields.get?_set_self ..
    · exact Js.Fields.get?_set_self ..
    · intro key hitem hshipping
      rw [Js.Fields.get?_set_of_ne hshipping]
      exact Js.Fields.get?_set_of_ne hitem ..

/-! ## Conservation -/

/-- No extra header mapping of the connection may write one of the properties `keys`. -/
def Connection.ExtrasSpare (connection : Connection) (keys : List String) : Prop :=
  ∀ m ∈ connection.extraOrderHeaderMappings, ∀ key ∈ keys, key ∉ m.targets

/-- A property that neither the built-in mappings nor the extra ones write is absent from the
header. -/
theorem get?_header {key : String} {keys : List String}
    (hheader : args.headerOverride = none)
    (h : Settles (evaluate args.order args.headerMappings (args.context dates)) tr
      (.ok (.ok header)))
    (hkey : key = "shipping" ∨ key = "discountRate")
    (hextras : args.connection.ExtrasSpare keys) (hmem : key ∈ keys) : header.get? key = none := by
  refine get?_evaluate h fun m hm => ?_
  have hmap : m ∈ buildDefaultOrderHeaderMap args.connection := by
    simpa [BuildOrderPayloadArgs.headerMappings, hheader] using hm
  rw [buildDefaultOrderHeaderMap, List.append_assoc, List.mem_append, List.mem_append] at hmap
  rcases hmap with hbuiltin | hlocation | hextra
  · have hall : ∀ m ∈ [Mapping.constant (.str args.connection.nsSubsidiary) "subsidiary",
        .constant (.str "B") "orderStatus", .direct "name" "tranId", .direct "id" "externalId",
        .derive "parseShopifyDate" [("field", .str "processedAt")] "tranDate",
        .lookup "lookup_currency" "currencyCode" "currency" true,
        .lookup "lookup_payment_method" "transactions.0.gateway" "paymentMethod" false,
        .lookup "lookup_ship_method" "shippingLines.0.title" "shipMethod" false,
        .derive "shopifyShippingAddressToNs" [] "shippingAddress",
        .derive "shopifyBillingAddressToNs" [] "billingAddress"],
        "shipping" ∉ m.targets ∧ "discountRate" ∉ m.targets := by
      simp only [List.forall_mem_cons, Mapping.targets]
      refine ⟨?_, ?_, ?_, ?_, ?_, ?_, ?_, ?_, ?_, ?_, List.forall_mem_nil _⟩ <;> decide
    obtain ⟨hship, hrate⟩ := hall m hbuiltin
    rcases hkey with rfl | rfl <;> assumption
  · obtain ⟨location, _, rfl⟩ := List.mem_map.mp hlocation
    have hne : topKey "location" = "location" := by decide
    rcases hkey with rfl | rfl <;> simp [Mapping.targets, hne]
  · exact hextras m hextra key hmem

theorem buildOrderTax_keys (connection : Connection) (order : ShopifyOrder) :
    ∀ entry ∈ buildOrderTax connection order,
      entry.1 ∈ ["taxsubtotal", "taxitem", "taxrate"] := by
  have hlegacy : ∀ entry ∈ legacyOrderTax order,
      entry.1 ∈ ["taxsubtotal", "taxitem", "taxrate"] := by
    unfold legacyOrderTax
    split
    · split <;> simp
    · simp
  unfold buildOrderTax
  split
  · exact fun _ hentry => absurd hentry List.not_mem_nil
  · exact hlegacy

/-- The tax fields leave the lines and the discount alone. -/
theorem get?_applyTaxPayloadHeader {key : String}
    (htax : headerTax = [] ∨ headerTax = buildOrderTax args.connection args.order)
    (hkey : key = "item" ∨ key = "shipping" ∨ key = "discountRate") :
    (applyTaxPayloadHeader payload headerTax).get? key = payload.get? key := by
  have hnone : Js.Fields.get? headerTax.reverse key = none := by
    refine Js.Fields.get?_eq_none.mpr fun entry hentry heq => ?_
    rw [List.mem_reverse] at hentry
    rcases htax with rfl | rfl
    · cases hentry
    · have hname := buildOrderTax_keys _ _ entry hentry
      rw [heq] at hname
      rcases hkey with rfl | rfl | rfl <;> revert hname <;> decide
  rw [applyTaxPayloadHeader, Js.Fields.get?_spread, hnone, Option.none_or]

/-! ### The lines of the draft -/

theorem Priced.of_draftLines {cs : List ℤ} {items : List ShopifyLineItem}
    (h : List.Forall₂ (fun line c => line.discountedTotal.cents? = some c) items cs) :
    Priced (items.map draftLine) cs :=
  List.forall₂_map_left_iff.mpr (h.imp fun _ _ => lineCents_draftLine)

theorem Priced.of_draftShippingLines {cs : List ℤ} {items : List ShopifyShippingLine}
    (connection : Connection)
    (h : List.Forall₂ (fun line c => line.price.cents? = some c) items cs) :
    Priced (items.map (draftShippingLine connection)) cs :=
  List.forall₂_map_left_iff.mpr (h.imp fun _ _ => lineCents_draftShippingLine)

/-- A payload whose sublists and discount are those that the order gives. -/
structure Charges (args : BuildOrderPayloadArgs) (payload : NsOrderPayload) : Prop where
  items : payload.get? "item" = some (draftItems args.order)
  shipping : payload.get? "shipping" = some (draftShipping args.connection args.order) ∨
    args.order.shippingLines = [] ∧ payload.get? "shipping" = none
  discount : ∃ fields, mapOrderDiscount args.connection args.order = .ok fields ∧
    payload.get? "discountRate" = Js.Fields.get? fields "discountRate"

theorem Drafted.charges (hdrafted : Drafted args header payload)
    (hship : header.get? "shipping" = none) (hrate : header.get? "discountRate" = none)
    (htax : headerTax = [] ∨ headerTax = buildOrderTax args.connection args.order) :
    Charges args (applyTaxPayloadHeader payload headerTax) := by
  refine ⟨?_, ?_, ?_⟩
  · rw [get?_applyTaxPayloadHeader htax (.inl rfl)]
    exact hdrafted.items
  · rw [get?_applyTaxPayloadHeader htax (.inr (.inl rfl))]
    by_cases hlines : args.order.shippingLines = []
    · obtain ⟨fields, hfields, hget⟩ := hdrafted.header_shipping hlines
      rw [headerShipping, hship] at hfields
      cases hfields
      exact .inr ⟨hlines, hget⟩
    · exact .inl (hdrafted.shipping hlines)
  · obtain ⟨fields, hfields, hnone, hsome⟩ := hdrafted.discount
    refine ⟨fields, hfields, ?_⟩
    rw [get?_applyTaxPayloadHeader htax (.inr (.inr rfl))]
    cases hget : Js.Fields.get? fields "discountRate" with
    | none => exact hnone hget hrate
    | some rate => exact hsome rate hget

theorem Charges.itemLines_eq (h : Charges args payload) :
    itemLines payload = .ok (args.order.lineItems.map draftLine) := by
  unfold itemLines
  rw [h.items]
  rfl

theorem Charges.shippingLines_eq (h : Charges args payload) :
    shippingLines payload =
      .ok (args.order.shippingLines.map (draftShippingLine args.connection)) := by
  unfold shippingLines
  rcases h.shipping with hship | ⟨hnil, hship⟩
  · rw [hship]
    rfl
  · rw [hship, hnil]
    rfl

/-- The discount rate takes the discounts of the order off, whatever they are. -/
theorem Charges.discountCents_eq {cents : OrderCents} (h : Charges args payload)
    (hcents : args.order.cents? = some cents) (hdiscounts : 0 ≤ cents.totalDiscounts) :
    discountCents payload = some (-cents.totalDiscounts) := by
  obtain ⟨_, _, hamount, _, _⟩ := ShopifyOrder.cents?_eq_some hcents
  have hparse := (MoneyV2.cents?_eq_some hamount).2
  obtain ⟨fields, hfields, hrate⟩ := h.discount
  unfold mapOrderDiscount at hfields
  rw [hparse] at hfields
  have hpositive : Js.Number.lt 0 (.ofCents cents.totalDiscounts) =
      decide (0 < cents.totalDiscounts) := by
    rw [← Js.Number.ofCents_zero, Js.Number.ofCents_lt_ofCents]
  simp only [Js.Number.isFinite_ofCents, Bool.not_true, Bool.false_or, hpositive,
    Bool.not_eq_true', decide_eq_false_iff_not] at hfields
  unfold discountCents
  rw [hrate]
  by_cases hzero : 0 < cents.totalDiscounts
  · rw [if_neg (not_not.mpr hzero)] at hfields
    split at hfields
    · cases hfields
    · cases hfields
      simp [Js.Fields.get?_cons, Js.toNumber_toFixed2_ofCents]
  · rw [if_pos hzero] at hfields
    cases hfields
    have htotal : cents.totalDiscounts = 0 := by omega
    simp [htotal]

/-- What a resolved payload keeps of the payload that was resolved. -/
theorem resolved_discountCents {final : NsOrderPayload}
    (hkeep : ∀ key, key ≠ "item" → key ≠ "shipping" → final.get? key = payload.get? key) :
    discountCents final = discountCents payload := by
  unfold discountCents
  rw [hkeep "discountRate" (by decide) (by decide)]

/-- The shipping of a resolved payload adds up to that of the order. -/
theorem Charges.resolved_shipping {cents : OrderCents} {final : NsOrderPayload}
    (h : Charges args payload) (hcents : args.order.cents? = some cents)
    (hship : final.get? "shipping" = payload.get? "shipping" ∧
        ((payload.get? "shipping").getD .undefined).truthy = false ∧ tr = [] ∨
      ∃ ship ship', linesOf ((payload.get? "shipping").getD .undefined) = .ok ship ∧
        final.get? "shipping" = some (.obj [("items", .arr ship')]) ∧
        LinesRun nsAccountId "shipping" none 0 ship tr (.ok (.ok ship'))) :
    sublistCents final "shipping" = some cents.shipping.sum := by
  obtain ⟨_, _, _, _, hforall⟩ := ShopifyOrder.cents?_eq_some hcents
  rcases hship with ⟨hsame, hfalsy, _⟩ | ⟨ship, ship', hlines, hfinal, hrun⟩
  · rcases h.shipping with hbag | ⟨hnil, hnone⟩
    · rw [hbag] at hfalsy
      cases hfalsy
    · rw [hnil] at hforall
      cases hcs : cents.shipping with
      | cons => simp [hcs] at hforall
      | nil =>
        unfold sublistCents
        rw [hsame, hnone]
        rfl
  · rcases h.shipping with hbag | ⟨_, hnone⟩
    · rw [hbag] at hlines
      cases hlines
      exact sublistCents_eq hfinal (linesOf_items _)
        (hrun.priced (.of_draftShippingLines args.connection hforall))
    · rw [hnone] at hlines
      cases hlines

/-- What a resolved payload books, whose shipping and discount are those of the order and whose
item lines have the amounts `cs`. -/
theorem Charges.booked {cents : OrderCents} {resolved final : NsOrderPayload} {cs : List ℤ}
    (h : Charges args payload) (hcents : args.order.cents? = some cents)
    (hdiscounts : 0 ≤ cents.totalDiscounts)
    (hsame : ∀ key, key ≠ "item" → resolved.get? key = payload.get? key)
    (hlines : itemLines resolved = .ok lines) (hpriced : Priced lines cs)
    (hresolve : Settles (resolveItemReferences resolved nsAccountId fallback) tr
      (.ok (.ok final))) :
    bookedCents final args.order =
        some (cs.sum + cents.shipping.sum + -cents.totalDiscounts + cents.totalTax) ∧
      ∃ lines' t, itemLines final = .ok lines' ∧
        LinesRun nsAccountId "item" fallback 0 lines t (.ok (.ok lines')) := by
  obtain ⟨_, htax, _, _, _⟩ := ShopifyOrder.cents?_eq_some hcents
  obtain ⟨lines', t₁, t₂, rfl, hitems, hrun, hship, hkeep⟩ := resolved_payload hresolve hlines
  rw [hsame "shipping" (by decide)] at hship
  have hitem : sublistCents final "item" = some cs.sum :=
    sublistCents_eq hitems (linesOf_items _) (hrun.priced hpriced)
  have hshipping := h.resolved_shipping hcents hship
  have hdiscount : discountCents final = some (-cents.totalDiscounts) := by
    rw [← h.discountCents_eq hcents hdiscounts, resolved_discountCents hkeep]
    unfold discountCents
    rw [hsame "discountRate" (by decide)]
  refine ⟨?_, lines', t₁, ?_, hrun⟩
  · simp [bookedCents, hitem, hshipping, hdiscount, htax]
  · unfold itemLines
    rw [hitems]
    rfl

theorem abs_le_of_tolerance {c : ℤ}
    (h : defaultBalancing.toleranceAmount.lt (Js.Number.ofCents c).abs = false) : |c| ≤ 5 := by
  have htolerance : defaultBalancing.toleranceAmount = .ofCents 5 := by
    simp [defaultBalancing, Js.Number.ofCents]
  rw [htolerance, Js.Number.abs_ofCents, Js.Number.ofCents_lt_ofCents, decide_eq_false_iff_not] at h
  omega

/-- The payload of a mapping that gave one. -/
def built {α : Type} : Except Thrown (MappingResult α) → Option α
  | .ok (.ok payload) => some payload
  | _ => none

theorem built_eq_some {α : Type} {r : Except Thrown (MappingResult α)} {payload : α} :
    built r = some payload ↔ r = .ok (.ok payload) := by
  unfold built
  split
  · simp
  · next hne =>
    constructor
    · intro h
      cases h
    · rintro rfl
      exact absurd rfl (hne payload)

end

/-! ## A sale

One line, shipping, a discount of the order and a cent that does not add up. -/

namespace Sale

def order : ShopifyOrder where
  id := "gid://shopify/Order/7"
  name := "#1007"
  createdAt := "2026-01-05T10:00:00Z"
  updatedAt := "2026-01-05T10:00:00Z"
  processedAt := "2026-01-05T10:00:00Z"
  currencyCode := "USD"
  totalPrice := ⟨"24.61", "USD"⟩
  subtotalPrice := ⟨"18.00", "USD"⟩
  totalTax := ⟨"1.60", "USD"⟩
  totalShippingPrice := ⟨"5.00", "USD"⟩
  totalDiscounts := ⟨"2.00", "USD"⟩
  financialStatus := .paid
  lineItems := [{
    id := "gid://shopify/LineItem/7"
    title := "Teapot"
    sku := some "TEAPOT"
    quantity := 2
    originalUnitPrice := ⟨"10.00", "USD"⟩
    discountedTotal := ⟨"20.00", "USD"⟩ }]
  shippingLines := [{
    id := "gid://shopify/ShippingLine/7"
    title := "Standard"
    price := ⟨"5.00", "USD"⟩ }]

def connection : Connection where
  connectionId := "conn-a"
  environment := .dev
  shopifyStore := "a.myshopify.com"
  shopifyWebhookSecretRef := "shop-secret"
  nsAccountId := "TSTDRV1"
  nsSubsidiary := "1"
  baseCurrency := "USD"
  taxEngine := .legacy
  orderTarget := .salesOrder
  enabled := true
  defaultDiscountItemId := some "31"

def dates : Dates := ⟨fun _ => none⟩

def args (order : ShopifyOrder) : BuildOrderPayloadArgs where
  connection
  order
  customerInternalId := "5"
  lookups := fun _ _ => return some "7"
  derives := none

/-- Every item has the internal id `9`. -/
def answers : (o : Op) → o.Resp
  | .io (.resolveItemId ..) => .ok (some "9")
  | .io _ => .error .undefined
  | .clock => 0
  | .track _ => ()

/-- The payload of an order as it is built, balanced and resolved. -/
def build (order : ShopifyOrder) := (buildOrderPayload dates (args order)).run.eval answers

def draft (order : ShopifyOrder) : NsOrderPayload := (built (build order).2).getD []

def balance (order : ShopifyOrder) : Except Thrown (MappingResult BalancedPayload) :=
  applyBalancing (applyTaxPayloadHeader (draft order) (buildOrderTax connection order)) order
    defaultBalancing

def balanced (order : ShopifyOrder) : NsOrderPayload :=
  ((built (balance order)).map BalancedPayload.payload).getD []

def resolve (order : ShopifyOrder) :=
  (resolveItemReferences (balanced order) "TSTDRV1" none).run.eval answers

theorem build_settles {order : ShopifyOrder} (h : (built (build order).2).isSome = true) :
    Settles (buildOrderPayload dates (args order)) (build order).1 (.ok (.ok (draft order))) := by
  obtain ⟨payload, hpayload⟩ := Option.isSome_iff_exists.mp h
  have hdraft : (build order).2 = .ok (.ok (draft order)) := by
    unfold draft
    rw [hpayload]
    exact built_eq_some.mp hpayload
  rw [← hdraft]
  exact Prog.runs_eval ..

end Sale

end DpIntegrator
