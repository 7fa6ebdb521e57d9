import DpIntegrator.Mapping.Targets
import DpIntegrator.NetSuite.ItemResolver

/-!
# What the payload builder drafts

With the default derivations the lines of a payload are the lines of the order, one for
one, whatever the header map writes. This file says what they are and which other
properties of the draft come from the order.
-/

namespace DpIntegrator

open Effects

variable {dates : Dates} {args : BuildOrderPayloadArgs} {ctx : EvaluatorContext ShopifyOrder}
  {order : ShopifyOrder} {connection : Connection} {raw payload header discount : Js.Fields}
  {tr : List Ev}

/-! ## The lines -/

/-- The draft of an order line. -/
def draftLine (line : ShopifyLineItem) : Js.Value :=
  .obj [("item", .obj [("id", .str (line.sku.getD "UNMAPPED-ITEM"))]),
    ("quantity", .num line.quantity),
    ("rate", .num (Js.toNumber line.originalUnitPrice.amount)),
    ("amount", .num (Js.toNumber line.discountedTotal.amount)),
    ("description", .str line.title)]

/-- The item of the shipping lines: the ship item of the connection, marked as resolved, or
a name to look up. -/
def draftShipItem (connection : Connection) : Js.Value :=
  match truthy connection.defaultShipItemId with
  | some id => .obj [("id", .str id), ("__resolved", .bool true)]
  | none => .obj [("id", .str "SHIP-STANDARD")]

/-- The draft of a shipping line. -/
def draftShippingLine (connection : Connection) (line : ShopifyShippingLine) : Js.Value :=
  buildShippingLine line (draftShipItem connection)

/-- The item of the shipping lines before references are wrapped. -/
def rawShipItem (connection : Connection) : Js.Value :=
  match truthy connection.defaultShipItemId with
  | some id => .obj [("id", .str id), ("__resolved", .bool true)]
  | none => .str "SHIP-STANDARD"

theorem wrapLineRefs_buildLine (line : ShopifyLineItem) :
    wrapLineRefs (buildLine line .null) = .ok (draftLine line) := by
  simp [wrapLineRefs, buildLine, draftLine, Js.Value.entries?, lineRefFields, orElse,
    Js.Value.isNullish, wrapRef]

theorem wrapLineRefs_buildShippingLine (line : ShopifyShippingLine) :
    wrapLineRefs (buildShippingLine line (rawShipItem connection)) =
      .ok (draftShippingLine connection line) := by
  unfold rawShipItem draftShippingLine draftShipItem
  split <;> simp [wrapLineRefs, buildShippingLine, Js.Value.entries?, lineRefFields, wrapRef]

theorem mapM_eq_ok {α β : Type} {f : α → Except Thrown β} {g : α → β}
    (h : ∀ a, f a = .ok (g a)) (l : List α) : l.mapM f = .ok (l.map g) := by
  induction l with
  | nil => rfl
  | cons a l ih => simp [List.mapM_cons, h, ih, bind, Except.bind, pure, Except.pure]

/-! ## The derivations -/

/-- The lines of the order before references are wrapped. -/
def rawLines (order : ShopifyOrder) : List Js.Value :=
  order.lineItems.map fun line => buildLine line .null

/-- The shipping lines of the order before references are wrapped. -/
def rawShippingLines (connection : Connection) (order : ShopifyOrder) : List Js.Value :=
  order.shippingLines.map fun line => buildShippingLine line (rawShipItem connection)

theorem evaluate_lines (hctx : ctx.derives = defaultDeriveRegistry dates) :
    evaluate order [buildDefaultLineItemsMap] ctx =
      pure (.ok [("item", .arr (rawLines order))]) := by
  obtain ⟨lookups, derives⟩ := ctx
  obtain rfl := hctx
  rfl

theorem evaluate_shipping (hctx : ctx.derives = defaultDeriveRegistry dates) :
    evaluate order [buildDefaultShippingMap connection] ctx =
      pure (.ok [("shipping", .arr (rawShippingLines connection order))]) := by
  obtain ⟨lookups, derives⟩ := ctx
  obtain rfl := hctx
  unfold buildDefaultShippingMap rawShippingLines rawShipItem whenTruthy
  cases truthy connection.defaultShipItemId <;> rfl

/-- The context in which a payload is evaluated. -/
def BuildOrderPayloadArgs.context (args : BuildOrderPayloadArgs) (dates : Dates) :
    EvaluatorContext ShopifyOrder where
  lookups := args.lookups
  derives := args.derives.getD (defaultDeriveRegistry dates)

/-- The mappings of the header. -/
def BuildOrderPayloadArgs.headerMappings (args : BuildOrderPayloadArgs) : List Mapping :=
  args.headerOverride.getD (buildDefaultOrderHeaderMap args.connection)

/-- The draft from the evaluated header. -/
def draftFrom (args : BuildOrderPayloadArgs) :
    MappingResult Js.Fields → Except Thrown (MappingResult NsOrderPayload)
  | .parked reason => return .parked reason
  | .ok header =>
    match args.order.lineItems with
    | [] =>
      return .parked
        { detail := "order has no mappable line items", construct := some "lineItems" }
    | _ :: _ =>
      assemblePayload args header (rawLines args.order)
        (.arr (rawShippingLines args.connection args.order))

/-- Under the default derivations a payload is its evaluated header and what the order adds. -/
theorem buildOrderPayload_eq
    (hderives : (args.context dates).derives = defaultDeriveRegistry dates) :
    buildOrderPayload dates args =
      evaluate args.order args.headerMappings (args.context dates) >>= fun r =>
        Async.ofExcept (draftFrom args r) := by
  unfold buildOrderPayload
  change evaluate args.order args.headerMappings (args.context dates) >>= _ = _
  congr 1
  funext r
  cases r with
  | parked reason => rfl
  | ok header =>
    change (evaluate args.order [buildDefaultLineItemsMap] (args.context dates) >>= fun r => _) = _
    rw [evaluate_lines hderives, pure_bind]
    unfold draftFrom rawLines
    cases args.order.lineItems with
    | nil => rfl
    | cons line lines =>
      change (evaluate args.order [buildDefaultShippingMap args.connection]
        (args.context dates) >>= fun r => _) = _
      rw [evaluate_shipping hderives, pure_bind]
      rfl

/-! ## The references -/

theorem wrapNsReferences_cons (entry : String × Js.Value) :
    wrapNsReferences (entry :: raw) = do
      let fields ← wrapEntry entry.1 entry.2
      let rest ← wrapNsReferences raw
      return fields ++ rest := by
  simp [wrapNsReferences, List.mapM_cons]

/-- A property becomes one property of the same name, or none. -/
theorem wrapEntry_eq_ok {key : String} {value : Js.Value} {fields : Js.Fields}
    (h : wrapEntry key value = .ok fields) : fields = [] ∨ ∃ value', fields = [(key, value')] := by
  unfold wrapEntry at h
  split at h
  · cases h
    exact .inl rfl
  · split at h <;> cases h
    · exact .inr ⟨_, rfl⟩
    · exact .inl rfl
  · split at h
    · split at h
      · obtain ⟨lines, _, hret⟩ := bind_eq_ok.mp h
        cases hret
        exact .inr ⟨_, rfl⟩
      · cases h
        exact .inr ⟨_, rfl⟩
    · split at h <;> (cases h; exact .inr ⟨_, rfl⟩)

/-- Every property of a payload that was wrapped could be wrapped. -/
theorem exists_wrapEntry {key : String} {value : Js.Value} (h : wrapNsReferences raw = .ok payload)
    (hraw : raw.get? key = some value) : ∃ fields, wrapEntry key value = .ok fields := by
  induction raw generalizing payload with
  | nil => cases hraw
  | cons entry raw ih =>
    rw [wrapNsReferences_cons] at h
    obtain ⟨fields, hfields, hrest⟩ := bind_eq_ok.mp h
    obtain ⟨rest, hwrapped, _⟩ := bind_eq_ok.mp hrest
    rw [Js.Fields.get?_cons] at hraw
    by_cases hkey : entry.1 = key
    · rw [if_pos hkey, Option.some.injEq] at hraw
      rw [hkey, hraw] at hfields
      exact ⟨fields, hfields⟩
    · rw [if_neg hkey] at hraw
      exact ih hwrapped hraw

/-- What wrapping makes of a property, if it makes something of it. -/
theorem get?_wrapNsReferences {key : String} {value value' : Js.Value}
    (h : wrapNsReferences raw = .ok payload) (hraw : raw.get? key = some value)
    (hwrap : wrapEntry key value = .ok [(key, value')]) : payload.get? key = some value' := by
  induction raw generalizing payload with
  | nil => cases hraw
  | cons entry raw ih =>
    rw [wrapNsReferences_cons] at h
    obtain ⟨fields, hfields, hrest⟩ := bind_eq_ok.mp h
    obtain ⟨rest, hwrapped, hret⟩ := bind_eq_ok.mp hrest
    cases hret
    rw [Js.Fields.get?_cons] at hraw
    rw [Js.Fields.get?_append]
    by_cases hkey : entry.1 = key
    · rw [if_pos hkey, Option.some.injEq] at hraw
      rw [hkey, hraw, hwrap] at hfields
      cases hfields
      simp [Js.Fields.get?_cons]
    · rw [if_neg hkey] at hraw
      have hnone : Js.Fields.get? fields key = none := by
        obtain rfl | ⟨value'', rfl⟩ := wrapEntry_eq_ok hfields
        · rfl
        · simp [Js.Fields.get?_cons, hkey]
      rw [hnone, Option.none_or]
      exact ih hwrapped hraw

/-- Wrapping adds no property. -/
theorem get?_wrapNsReferences_of_none {key : String} (h : wrapNsReferences raw = .ok payload)
    (hraw : raw.get? key = none) : payload.get? key = none := by
  induction raw generalizing payload with
  | nil =>
    cases h
    rfl
  | cons entry raw ih =>
    rw [wrapNsReferences_cons] at h
    obtain ⟨fields, hfields, hrest⟩ := bind_eq_ok.mp h
    obtain ⟨rest, hwrapped, hret⟩ := bind_eq_ok.mp hrest
    cases hret
    rw [Js.Fields.get?_cons] at hraw
    rw [Js.Fields.get?_append]
    by_cases hkey : entry.1 = key
    · simp [hkey] at hraw
    · rw [if_neg hkey] at hraw
      rw [ih hwrapped hraw]
      obtain rfl | ⟨value', rfl⟩ := wrapEntry_eq_ok hfields
      · rfl
      · simp [Js.Fields.get?_cons, hkey]

/-- What wrapping makes of a property of an object whose properties have distinct names. -/
theorem get?_wrapNsReferences_of_distinct {key : String} {value : Js.Value} {fields : Js.Fields}
    (hdistinct : raw.Distinct) (h : wrapNsReferences raw = .ok payload)
    (hraw : raw.get? key = some value) (hwrap : wrapEntry key value = .ok fields) :
    payload.get? key = fields.get? key := by
  obtain rfl | ⟨value', rfl⟩ := wrapEntry_eq_ok hwrap
  · induction raw generalizing payload with
    | nil => cases hraw
    | cons entry raw ih =>
      obtain ⟨hnotMem, hrest⟩ := List.nodup_cons.mp hdistinct
      rw [wrapNsReferences_cons] at h
      obtain ⟨fields, hfields, htail⟩ := bind_eq_ok.mp h
      obtain ⟨rest, hwrapped, hret⟩ := bind_eq_ok.mp htail
      cases hret
      rw [Js.Fields.get?_cons] at hraw
      rw [Js.Fields.get?_append]
      by_cases hkey : entry.1 = key
      · rw [if_pos hkey, Option.some.injEq] at hraw
        rw [hkey, hraw, hwrap] at hfields
        cases hfields
        refine get?_wrapNsReferences_of_none hwrapped (Js.Fields.get?_eq_none.mpr ?_)
        exact fun entry' hentry' heq =>
          hnotMem (List.mem_map.mpr ⟨entry', hentry', heq.trans hkey.symm⟩)
      · rw [if_neg hkey] at hraw
        have hnone : Js.Fields.get? fields key = none := by
          obtain rfl | ⟨value'', rfl⟩ := wrapEntry_eq_ok hfields
          · rfl
          · simp [Js.Fields.get?_cons, hkey]
        rw [hnone, Option.none_or]
        exact ih hrest hwrapped hraw
  · rw [get?_wrapNsReferences h hraw hwrap]
    simp [Js.Fields.get?_cons]

/-! ## The draft -/

/-- The fields of the order discount: none, or its item and its rate. -/
theorem mapOrderDiscount_eq_ok (h : mapOrderDiscount connection order = .ok discount) :
    discount = [] ∨ ∃ item, discount = [("discountItem", .str item),
      ("discountRate", .num (Js.toNumber (-Js.parseFloat order.totalDiscounts.amount).toFixed2))] := by
  unfold mapOrderDiscount at h
  dsimp only at h
  split at h
  · cases h
    exact .inl rfl
  · split at h
    · cases h
    · next item _ =>
      cases h
      exact .inr ⟨item, rfl⟩

/-- The sublist of the lines of the order. -/
def draftItems (order : ShopifyOrder) : Js.Value :=
  .obj [("items", .arr (order.lineItems.map draftLine))]

/-- The sublist of the shipping lines of the order. -/
def draftShipping (connection : Connection) (order : ShopifyOrder) : Js.Value :=
  .obj [("items", .arr (order.shippingLines.map (draftShippingLine connection)))]

/-- What a header puts into the shipping sublist of an order without shipping lines. -/
def headerShipping (header : Js.Fields) : Except Thrown Js.Fields :=
  match header.get? "shipping" with
  | none => .ok []
  | some value => wrapEntry "shipping" value

/-- What a draft takes from the order: the lines and the discount, and the shipping lines
where there are any. -/
structure Drafted (args : BuildOrderPayloadArgs) (header payload : Js.Fields) : Prop where
  nonempty : args.order.lineItems ≠ []
  items : payload.get? "item" = some (draftItems args.order)
  shipping : args.order.shippingLines ≠ [] →
    payload.get? "shipping" = some (draftShipping args.connection args.order)
  header_shipping : args.order.shippingLines = [] →
    ∃ fields, headerShipping header = .ok fields ∧
      payload.get? "shipping" = Js.Fields.get? fields "shipping"
  discount : ∃ fields, mapOrderDiscount args.connection args.order = .ok fields ∧
    (Js.Fields.get? fields "discountRate" = none → header.get? "discountRate" = none →
      payload.get? "discountRate" = none) ∧
    ∀ rate, Js.Fields.get? fields "discountRate" = some rate →
      payload.get? "discountRate" = some rate

/-- The lines that the order gives, under their name. -/
theorem wrapEntry_lines {key : String} (hkey : key = "item" ∨ key = "shipping")
    {lines wrapped : List Js.Value} (h : lines.mapM wrapLineRefs = .ok wrapped) :
    wrapEntry key (.arr lines) = .ok [(key, .obj [("items", .arr wrapped)])] := by
  simp only [wrapEntry, hkey, if_true, h]
  rfl

theorem wrapEntry_items (order : ShopifyOrder) :
    wrapEntry "item" (.arr (rawLines order)) = .ok [("item", draftItems order)] := by
  refine wrapEntry_lines (.inl rfl) ?_
  rw [rawLines, List.mapM_map]
  exact mapM_eq_ok wrapLineRefs_buildLine _

theorem wrapEntry_shipping (connection : Connection) (order : ShopifyOrder) :
    wrapEntry "shipping" (.arr (rawShippingLines connection order)) =
      .ok [("shipping", draftShipping connection order)] := by
  refine wrapEntry_lines (.inr rfl) ?_
  rw [rawShippingLines, List.mapM_map]
  exact mapM_eq_ok wrapLineRefs_buildShippingLine _

/-- The properties that the order adds to a header. -/
def orderFields (args : BuildOrderPayloadArgs) (discount : Js.Fields) : Js.Fields :=
  [("entity", .str args.customerInternalId), ("item", .arr (rawLines args.order))] ++
    (match rawShippingLines args.connection args.order with
      | [] => []
      | line :: lines => [("shipping", .arr (line :: lines))]) ++ discount

theorem rawPayload_eq : rawPayload header args.customerInternalId (rawLines args.order)
    (.arr (rawShippingLines args.connection args.order)) discount =
      header.spread (orderFields args discount) := by
  unfold rawPayload orderFields
  cases rawShippingLines args.connection args.order <;> rfl

/-- The properties before references are wrapped: the header's, unless the order adds them. -/
theorem get?_orderFields (header : Js.Fields)
    (hdiscount : mapOrderDiscount args.connection args.order = .ok discount) :
    (header.spread (orderFields args discount)).get? "item" = some (.arr (rawLines args.order)) ∧
      (header.spread (orderFields args discount)).get? "shipping" =
        (if args.order.shippingLines = [] then header.get? "shipping"
        else some (.arr (rawShippingLines args.connection args.order))) ∧
      (header.spread (orderFields args discount)).get? "discountRate" =
        (Js.Fields.get? discount "discountRate").or (header.get? "discountRate") := by
  have hnames : Js.Fields.get? discount.reverse "item" = none ∧
      Js.Fields.get? discount.reverse "shipping" = none ∧
      Js.Fields.get? discount.reverse "discountRate" = Js.Fields.get? discount "discountRate" := by
    obtain rfl | ⟨item, rfl⟩ := mapOrderDiscount_eq_ok hdiscount <;> simp [Js.Fields.get?_cons]
  obtain ⟨hitem, hship, hrate⟩ := hnames
  have hget (key : String) : (header.spread (orderFields args discount)).get? key =
      (Js.Fields.get? (orderFields args discount).reverse key).or (header.get? key) :=
    Js.Fields.get?_spread ..
  rw [hget, hget, hget]
  by_cases hnil : args.order.shippingLines = []
  · have hraw : rawShippingLines args.connection args.order = [] := by
      rw [rawShippingLines, hnil, List.map_nil]
    simp [orderFields, hraw, hnil, Js.Fields.get?_append, Js.Fields.get?_cons, hitem, hship, hrate]
  · have hraw : rawShippingLines args.connection args.order ≠ [] := by
      simpa [rawShippingLines] using hnil
    obtain ⟨line, lines, hcons⟩ := List.exists_cons_of_ne_nil hraw
    simp [orderFields, hcons, hnil, Js.Fields.get?_append, Js.Fields.get?_cons, hitem, hship,
      hrate]

/-- Only the lines can keep a payload from being wrapped. Induction on the properties. -/
theorem exists_wrapNsReferences (h : ∀ entry ∈ raw, entry.1 = "item" ∨ entry.1 = "shipping" →
    ∃ fields, wrapEntry entry.1 entry.2 = .ok fields) :
    ∃ payload, wrapNsReferences raw = .ok payload := by
  induction raw with
  | nil => exact ⟨[], rfl⟩
  | cons entry raw ih =>
    obtain ⟨rest, hrest⟩ := ih fun entry' hentry' => h entry' (List.mem_cons_of_mem _ hentry')
    obtain ⟨fields, hfields⟩ : ∃ fields, wrapEntry entry.1 entry.2 = .ok fields := by
      by_cases hlines : entry.1 = "item" ∨ entry.1 = "shipping"
      · exact h entry (List.mem_cons_self ..) hlines
      · unfold wrapEntry
        split
        · exact ⟨_, rfl⟩
        · exact ⟨_, rfl⟩
        · rw [if_neg hlines]
          split <;> exact ⟨_, rfl⟩
    exact ⟨fields ++ rest, by rw [wrapNsReferences_cons, hfields, hrest]; rfl⟩

/-- The shipping sublist that a header writes onto an order without shipping lines can be
wrapped, or does not come into it. -/
def ShippingWraps (order : ShopifyOrder) (header : Js.Fields) : Prop :=
  order.shippingLines = [] → ∃ fields, headerShipping header = .ok fields

theorem exists_wrap_iff (hdistinct : header.Distinct)
    (hdiscount : mapOrderDiscount args.connection args.order = .ok discount) :
    (∃ payload, wrapNsReferences (header.spread (orderFields args discount)) = .ok payload) ↔
      ShippingWraps args.order header := by
  obtain ⟨hitem, hship, _⟩ := get?_orderFields header hdiscount
  have hspread : (header.spread (orderFields args discount)).Distinct := hdistinct.spread
  constructor
  · rintro ⟨payload, hpayload⟩ hnil
    unfold headerShipping
    split
    · exact ⟨[], rfl⟩
    · next value hvalue =>
      rw [if_pos hnil] at hship
      exact exists_wrapEntry hpayload (hship.trans hvalue)
  · intro hwraps
    refine exists_wrapNsReferences fun entry hentry hkey => ?_
    have hget := hspread.get?_of_mem hentry
    rcases hkey with hkey | hkey
    · rw [hkey] at hget ⊢
      rw [hitem, Option.some.injEq] at hget
      rw [← hget]
      exact ⟨_, wrapEntry_items args.order⟩
    · rw [hkey] at hget ⊢
      rw [hship] at hget
      split at hget
      · next hnil =>
        obtain ⟨fields, hfields⟩ := hwraps hnil
        rw [headerShipping, hget] at hfields
        exact ⟨fields, hfields⟩
      · rw [Option.some.injEq] at hget
        rw [← hget]
        exact ⟨_, wrapEntry_shipping args.connection args.order⟩

theorem drafted_of_wrap (hdistinct : header.Distinct) (hlines : args.order.lineItems ≠ [])
    (hdiscount : mapOrderDiscount args.connection args.order = .ok discount)
    (h : wrapNsReferences (header.spread (orderFields args discount)) = .ok payload) :
    Drafted args header payload := by
  obtain ⟨hitem, hship, hrate⟩ := get?_orderFields header hdiscount
  have hspread : (header.spread (orderFields args discount)).Distinct := hdistinct.spread
  refine ⟨hlines, ?_, fun hne => ?_, fun hnil => ?_, discount, hdiscount, ?_, ?_⟩
  · exact get?_wrapNsReferences h hitem (wrapEntry_items args.order)
  · rw [if_neg hne] at hship
    exact get?_wrapNsReferences h hship (wrapEntry_shipping args.connection args.order)
  · rw [if_pos hnil] at hship
    obtain ⟨fields, hfields⟩ := (exists_wrap_iff hdistinct hdiscount).mp ⟨payload, h⟩ hnil
    refine ⟨fields, hfields, ?_⟩
    unfold headerShipping at hfields
    cases hvalue : header.get? "shipping" with
    | none =>
      rw [hvalue] at hfields
      cases hfields
      exact get?_wrapNsReferences_of_none h (hship.trans hvalue)
    | some value =>
      rw [hvalue] at hfields
      exact get?_wrapNsReferences_of_distinct hspread h (hship.trans hvalue) hfields
  · intro hnone habsent
    refine get?_wrapNsReferences_of_none h ?_
    rw [hrate, hnone, habsent]
    rfl
  · intro rate hsome
    have hwrap : wrapEntry "discountRate" rate = .ok [("discountRate", rate)] := by
      obtain rfl | ⟨item, rfl⟩ := mapOrderDiscount_eq_ok hdiscount
      · cases hsome
      · simp only [Js.Fields.get?_cons] at hsome
        cases hsome
        rfl
    refine get?_wrapNsReferences h ?_ hwrap
    rw [hrate, hsome]
    rfl

/-- A payload that was built was drafted from a header that the mappings gave. -/
theorem drafted_of_build (hderives : (args.context dates).derives = defaultDeriveRegistry dates)
    (h : Settles (buildOrderPayload dates args) tr (.ok (.ok payload))) :
    ∃ header, Settles (evaluate args.order args.headerMappings (args.context dates)) tr
      (.ok (.ok header)) ∧ Drafted args header payload := by
  rw [buildOrderPayload_eq hderives] at h
  obtain ⟨r, t₁, t₂, rfl, heval, hrest⟩ := settles_bind_ok.mp h
  obtain ⟨rfl, hdraft⟩ := settles_ofExcept.mp hrest
  rw [List.append_nil]
  unfold draftFrom at hdraft
  cases r with
  | parked reason => cases hdraft
  | ok header =>
    dsimp only at hdraft
    split at hdraft
    · cases hdraft
    next hlines =>
    have hne : args.order.lineItems ≠ [] := by simp [hlines]
    unfold assemblePayload at hdraft
    split at hdraft
    · cases hdraft
    split at hdraft
    · cases hdraft
    next discount hdiscount =>
    obtain ⟨wrapped, hwrapped, hret⟩ := bind_eq_ok.mp hdraft.symm
    cases hret
    rw [rawPayload_eq] at hwrapped
    exact ⟨header, heval, drafted_of_wrap (distinct_evaluate heval) hne hdiscount hwrapped⟩

end DpIntegrator
