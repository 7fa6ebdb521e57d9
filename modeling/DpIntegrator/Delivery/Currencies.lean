import DpIntegrator.Shopify.GraphQL
import DpIntegrator.Mapping.Semantics
import DpIntegrator.Delivery.AfterImport

/-!
# Currencies

The currency code of an order is that of the shop, and its amounts are those that were
presented to the customer. The pipeline looks the code up and books the amounts. It never
looks at the codes of the amounts.
-/

namespace DpIntegrator

open Effects

variable {tr t : List Ev} {d : Delivery} {P : Preparations} {order : ShopifyOrder}
  {doc : GraphQLOrder}

/-! ## Amounts -/

/-- The bags whose amounts are booked or balanced against. -/
def GraphQLOrder.bags (doc : GraphQLOrder) : List GraphQLMoneyBag :=
  [doc.totalPriceSet, doc.totalTaxSet, doc.totalDiscountsSet] ++
    (doc.lineItems.edges.flatMap fun e => [e.node.discountedTotalSet, e.node.originalUnitPriceSet]) ++
    doc.shippingLines.edges.map fun e => e.node.originalPriceSet

/-- The amounts that are booked or balanced against. -/
def ShopifyOrder.amounts (order : ShopifyOrder) : List MoneyV2 :=
  [order.totalPrice, order.totalTax, order.totalDiscounts] ++
    (order.lineItems.flatMap fun line => [line.discountedTotal, line.originalUnitPrice]) ++
    order.shippingLines.map fun line => line.price

theorem amounts_mapGraphQLOrder (doc : GraphQLOrder) :
    (mapGraphQLOrder doc).amounts = doc.bags.map money := by
  simp only [ShopifyOrder.amounts, GraphQLOrder.bags, mapGraphQLOrder, List.map_append,
    List.map_flatMap, List.flatMap_map, List.map_map]
  rfl

/-- The order was presented to the customer in the currency of the shop. -/
def GraphQLOrder.InShopCurrency (doc : GraphQLOrder) : Prop :=
  ∀ bag ∈ doc.bags, bag.presentmentMoney.currencyCode = doc.currencyCode

/-- The currency that was looked up is the currency of every amount. -/
structure OneCurrency (order : ShopifyOrder) (tr : List Ev) : Prop where
  lookedUp : ∃ connection id,
    answered (.resolveLookup connection "lookup_currency" order.currencyCode) (.ok (some id)) ∈ tr
  amounts : ∀ m ∈ order.amounts, m.currencyCode = order.currencyCode

/-! ## What a mapping looks up -/

theorem getPath_currencyCode (order : ShopifyOrder) :
    getPath (toJs order) "currencyCode" = .str order.currencyCode := by
  have hsplit : Js.split "currencyCode" '.' = ["currencyCode"] := by decide +kernel
  have hobj : (Js.Value.obj order.fields).isObject = true := rfl
  have hget : order.fields.get? "currencyCode" = some (.str order.currencyCode) := by
    unfold ShopifyOrder.fields
    simp only [Js.Fields.get?_append, get?_field]
    simp
    rfl
  simp only [getPath, hsplit, hobj, toJs_order, Js.Value.prop_obj, hget, List.foldl_cons,
    List.foldl_nil, Option.getD_some]
  simp

/-- A lookup that is required, and does not park, was answered. -/
theorem applyLookup_answered {S : Type} [ToJs S] {source : S} {ctx : EvaluatorContext S}
    {table fromKey target key : String} {out out' : Js.Fields}
    (h : Settles (applyLookup source table fromKey target true ctx out) tr (.ok (.ok out')))
    (hkey : getPath (toJs source) fromKey = .str key) :
    ∃ id t, t ⊆ tr ∧ Settles (ctx.lookups table key) t (.ok (some id)) := by
  unfold applyLookup at h
  rw [hkey] at h
  obtain ⟨found, t₁, t₂, rfl, hlookup, hrest⟩ := settles_bind_ok.mp h
  cases found with
  | none => cases (settles_pure.mp hrest).2
  | some id => exact ⟨id, t₁, List.subset_append_left .., hlookup⟩

/-- A payload is built only after the currency of the order was looked up. -/
theorem currency_lookedUp {payload : NsOrderPayload} {customer : CustomerResolution}
    (h : Settles (prepareOrder d order) tr (.ok (.ready customer payload))) :
    ∃ id, answered (.resolveLookup d.connection "lookup_currency" order.currencyCode)
      (.ok (some id)) ∈ tr := by
  obtain ⟨customer', t₁, t₂, rfl, _, hmap⟩ := settles_bind_ok.mp h
  unfold mapOrder at hmap
  obtain ⟨built, t₃, t₄, rfl, hbuild, hrest⟩ := settles_bind_ok.mp hmap
  cases built with
  | parked reason => cases (settles_pure.mp hrest).2
  | ok draft =>
    unfold buildOrderPayload at hbuild
    obtain ⟨evaluated, t₅, t₆, rfl, hheader, hlines⟩ := settles_bind_ok.mp hbuild
    cases evaluated with
    | parked reason => cases (settles_pure.mp hlines).2
    | ok header =>
      obtain ⟨written, written', t, hsub, happlied⟩ := evaluateFrom_applies hheader
        (m := .lookup "lookup_currency" "currencyCode" "currency" true)
        (by simp [buildDefaultOrderHeaderMap])
      obtain ⟨id, t', hsub', hlookup⟩ := applyLookup_answered happlied (getPath_currencyCode order)
      obtain rfl := settles_io.mp hlookup
      refine ⟨id, List.mem_append_right _ (List.mem_append_left _ (List.mem_append_left _ ?_))⟩
      exact hsub (hsub' (List.mem_cons_self ..))

/-! ## What a run books -/

section Prepared

variable {res : Except Thrown OrderHandlerOutcome} {ev : Ev}

/-- The order was fetched, prepared, and sent as `ev`. -/
def SentAs (d : Delivery) (P : Preparations) (t : List Ev) (ev : Ev) : Prop :=
  ∃ order customer payload r, fetched d (.ok order) ∈ t ∧
    P order (.ok (.ready customer payload)) ∧ ev = upserted d payload r

theorem SentAs.mono {t' : List Ev} (h : SentAs d P t ev) (hsub : t ⊆ t') : SentAs d P t' ev := by
  obtain ⟨order, customer, payload, r, hfetched, hrest⟩ := h
  exact ⟨order, customer, payload, r, hsub hfetched, hrest⟩

theorem ImportExit.sentAs (h : ImportExit d P t res) (hev : ev ∈ orderUpserts t) :
    SentAs d P t ev := by
  cases h with
  | fetch | threw => cases hev
  | ineligible _ hignore =>
    rw [orderUpserts_cons_of_not rfl, hignore.no_upserts] at hev
    cases hev
  | call _ hprep _ =>
    rw [orderUpserts_cons_of_not rfl,
      orderUpserts_cons_of_not (not_orderUpsert_of_preparatory hprep _)] at hev
    cases hev
  | parked _ _ hpark =>
    rw [orderUpserts_cons_of_not rfl, hpark.no_upserts] at hev
    cases hev
  | @written order customer payload _ _ _ hprepared hwrite =>
    rw [orderUpserts_cons_of_not rfl] at hev
    have hsent : ∃ r, ev = upserted d payload r := by
      obtain ⟨r, t', rfl, rfl | ⟨u, r', t'', rfl, hside⟩⟩ := hwrite.calls
      · exact ⟨r, by simpa using hev⟩
      · rw [orderUpserts_upserted, orderUpserts_cons_of_not rfl, hside.no_upserts] at hev
        exact ⟨r, List.mem_singleton.mp hev⟩
    obtain ⟨r, rfl⟩ := hsent
    exact ⟨order, customer, payload, r, List.mem_cons_self .., hprepared, rfl⟩

theorem ClaimedExit.sentAs (h : ClaimedExit d P t res) (hev : ev ∈ orderUpserts t) :
    SentAs d P t ev := by
  cases h with
  | returned himport => exact himport.sentAs hev
  | thrown himport hroute =>
    rw [orderUpserts_append, hroute.no_upserts, List.append_nil] at hev
    exact (himport.sentAs hev).mono (List.subset_append_left ..)

theorem ClaimExit.sentAs (h : ClaimExit d P t res) (hev : ev ∈ orderUpserts t) :
    SentAs d P t ev := by
  cases h with
  | failed | held => cases hev
  | claimed _ hclaimed =>
    rw [orderUpserts_cons_of_not rfl] at hev
    exact (hclaimed.sentAs hev).mono (List.subset_cons_self ..)

theorem DeliverExit.sentAs (h : DeliverExit d P t res) (hev : ev ∈ orderUpserts t) :
    SentAs d P t ev := by
  cases h with
  | direct _ h => exact h.sentAs hev
  | lookup => cases hev
  | unknown _ hignore =>
    rw [orderUpserts_cons_of_not rfl, hignore.no_upserts] at hev
    cases hev
  | known _ h =>
    rw [orderUpserts_cons_of_not rfl] at hev
    exact (h.sentAs hev).mono (List.subset_cons_self ..)

/-- Every order that a handling sends to NetSuite was fetched and prepared. -/
theorem handle_sentAs {deps : OrderHandlerDeps} {message : Js.Value}
    {attemptCtx : Option AttemptContext} {args : UpsertArgs} {r : Except Thrown UpsertResult}
    (h : Settles (handleOrderMessage deps message attemptCtx) tr res)
    (hupsert : answered (.upsertByExternalId args) r ∈ tr) (horder : args.recordType.isOrder = true) :
    ∃ d : Delivery, d.deps = deps ∧ SentAs d (PreparedIn d tr) tr (answered (.upsertByExternalId args) r) := by
  cases handlerRun_of_settles h with
  | rejected ht =>
    obtain rfl | ⟨id, found, rfl, _⟩ := ht
    · cases hupsert
    · cases List.mem_singleton.mp hupsert
  | failed => cases List.mem_singleton.mp hupsert
  | @delivered msg connection t _ _ _ _ hdeliver =>
    obtain heq | hupsert := List.mem_cons.mp hupsert
    · cases heq
    have hmem : answered (.upsertByExternalId args) r ∈ orderUpserts (main t) := by
      rw [orderUpserts_main]
      exact List.mem_filter.mpr ⟨hupsert, horder⟩
    obtain ⟨order, customer, payload, r', hfetched, ⟨t', hsub, hprepared⟩, heq⟩ :=
      (deliver_exit hdeliver).sentAs hmem
    refine ⟨_, rfl, order, customer, payload, r', ?_, ⟨t', ?_, hprepared⟩, heq⟩
    · exact List.mem_cons_of_mem _ (mem_of_mem_main hfetched)
    · exact fun ev hev => List.mem_cons_of_mem _ (hsub hev)

end Prepared

/-- Let Shopify return the document `doc`. When its order is sent to NetSuite, then in one
currency if and only if it was presented in the currency of the shop. -/
theorem booked_in_one_currency_iff {deps : OrderHandlerDeps} {message : Js.Value}
    {attemptCtx : Option AttemptContext} {res : Except Thrown OrderHandlerOutcome}
    {args : UpsertArgs} {r : Except Thrown UpsertResult}
    (h : Settles (handleOrderMessage deps message attemptCtx) tr res)
    (hdoc : ∀ connection gid order, answered (.getOrder connection gid) (.ok order) ∈ tr →
      order = mapGraphQLOrder doc)
    (hupsert : answered (.upsertByExternalId args) r ∈ tr) (horder : args.recordType.isOrder = true) :
    OneCurrency (mapGraphQLOrder doc) tr ↔ doc.InShopCurrency := by
  obtain ⟨d, _, order, customer, payload, r', hfetched, ⟨t, hsub, hprepared⟩, _⟩ :=
    handle_sentAs h hupsert horder
  obtain rfl := hdoc _ _ _ hfetched
  obtain ⟨id, hlookup⟩ := currency_lookedUp hprepared
  have hcodes : (∀ m ∈ (mapGraphQLOrder doc).amounts,
      m.currencyCode = (mapGraphQLOrder doc).currencyCode) ↔ doc.InShopCurrency := by
    rw [amounts_mapGraphQLOrder, List.forall_mem_map]
    rfl
  constructor
  · intro hone
    exact hcodes.mp hone.amounts
  · intro hshop
    exact ⟨⟨_, id, hsub hlookup⟩, hcodes.mpr hshop⟩

/-! ## A shop that sells abroad -/

namespace Shop

/-- An order of one mug, presented at `price` in the currency `code`. The shop is American. -/
def presented (price code : String) : GraphQLOrder where
  id := Shop.order.id
  name := "#1001"
  createdAt := "2026-01-05T10:00:00Z"
  updatedAt := "2026-01-05T10:00:00Z"
  processedAt := "2026-01-05T10:00:00Z"
  currencyCode := "USD"
  displayFinancialStatus := "PAID"
  totalPriceSet := ⟨⟨price, code⟩⟩
  subtotalPriceSet := ⟨⟨price, code⟩⟩
  totalTaxSet := ⟨⟨"0.00", code⟩⟩
  totalShippingPriceSet := ⟨⟨"0.00", code⟩⟩
  totalDiscountsSet := ⟨⟨"0.00", code⟩⟩
  lineItems := ⟨[⟨{
    id := "gid://shopify/LineItem/1"
    title := "Mug"
    sku := some "MUG"
    quantity := 1
    originalUnitPriceSet := ⟨⟨price, code⟩⟩
    discountedTotalSet := ⟨⟨price, code⟩⟩ }⟩]⟩
  shippingLines := ⟨[]⟩

/-- Services that have this order. -/
def sells (doc : GraphQLOrder) : Responder where
  answers
    | .getOrder .. => .ok (mapGraphQLOrder doc)
    | c => answers c

/-- The order upsert of a list, if there is one. -/
def sentArgs (tr : List Ev) : Option UpsertArgs :=
  tr.findSome? fun
    | ⟨.io (.upsertByExternalId args), _⟩ => if args.recordType.isOrder then some args else none
    | _ => none

theorem sells_settles (doc : GraphQLOrder) : Settles (handleOrderMessage Shop.deps
    (Shop.message none "orders/create").toJs order1.attemptCtx) (handled (sells doc)).1.1
      (handled (sells doc)).1.2 := (handled_performs (sells doc)).1

theorem sells_answers {doc : GraphQLOrder} {connection : Connection} {gid : String}
    {order : ShopifyOrder}
    (h : answered (.getOrder connection gid) (.ok order) ∈ (handled (sells doc)).1.1) :
    order = mapGraphQLOrder doc := by
  obtain ⟨w, hanswer⟩ := (sells doc).mem_perform h
  exact Except.ok.inj hanswer

theorem exists_sent {doc : GraphQLOrder} (h : (sentArgs (handled (sells doc)).1.1).isSome = true) :
    ∃ args r, answered (.upsertByExternalId args) r ∈ (handled (sells doc)).1.1 ∧
      args.recordType.isOrder = true := by
  obtain ⟨args, hargs⟩ := Option.isSome_iff_exists.mp h
  obtain ⟨ev, hev, hsome⟩ := List.exists_of_findSome?_eq_some hargs
  split at hsome
  · next args' r =>
    rw [Option.ite_none_right_eq_some] at hsome
    exact ⟨args', r, hev, hsome.1⟩
  · cases hsome

end Shop

/-- An order that was presented in dollars is booked in dollars. -/
theorem booked_in_one_currency_iff_shop :
    OneCurrency (mapGraphQLOrder (Shop.presented "10.00" "USD"))
      (Shop.handled (Shop.sells (Shop.presented "10.00" "USD"))).1.1 ↔
      (Shop.presented "10.00" "USD").InShopCurrency := by
  obtain ⟨args, r, hupsert, horder⟩ := @Shop.exists_sent (Shop.presented "10.00" "USD")
    (by decide +kernel)
  exact booked_in_one_currency_iff (Shop.sells_settles _) (fun _ _ _ => Shop.sells_answers) hupsert
    horder

/-- An order that was presented in euros is booked in dollars, at its price in euros. -/
theorem euros_booked_as_dollars :
    ¬∀ (doc : GraphQLOrder) (deps : OrderHandlerDeps) (message : Js.Value)
      (attemptCtx : Option AttemptContext) (tr : List Ev)
      (res : Except Thrown OrderHandlerOutcome) (args : UpsertArgs) (r : Except Thrown UpsertResult),
      Settles (handleOrderMessage deps message attemptCtx) tr res →
      (∀ connection gid order, answered (.getOrder connection gid) (.ok order) ∈ tr →
        order = mapGraphQLOrder doc) →
      answered (.upsertByExternalId args) r ∈ tr → args.recordType.isOrder = true →
      OneCurrency (mapGraphQLOrder doc) tr := by
  intro h
  obtain ⟨args, r, hupsert, horder⟩ := @Shop.exists_sent (Shop.presented "9.20" "EUR")
    (by decide +kernel)
  have hone := h _ _ _ _ _ _ args r (Shop.sells_settles (Shop.presented "9.20" "EUR"))
    (fun _ _ _ => Shop.sells_answers) hupsert horder
  have hcode : "EUR" = "USD" := hone.amounts ⟨"9.20", "EUR"⟩ (List.mem_cons_self ..)
  exact absurd hcode (by decide)

end DpIntegrator
