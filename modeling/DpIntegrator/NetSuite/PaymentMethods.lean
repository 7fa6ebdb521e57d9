import DpIntegrator.Mapping.Semantics
import DpIntegrator.NetSuite.Draft
import DpIntegrator.NetSuite.Money

/-!
# Payment methods

The payment method of an order is looked up under the gateway of its first transaction,
whatever became of that transaction.
-/

namespace DpIntegrator

open Effects

/-! ## The first transaction -/

/-- The transaction took the money of the customer, or reserved it. -/
def ShopifyTransaction.paid (t : ShopifyTransaction) : Bool :=
  t.status = "success" && (t.kind = "sale" || t.kind = "authorization" || t.kind = "capture")

/-- The method that is registered for the gateway of the first transaction. -/
def firstMethod (gateways : String → Option String) (order : ShopifyOrder) : Option String :=
  order.transactions.head?.bind fun t => gateways t.gateway

/-- The methods that are registered for the gateways of the transactions that paid. -/
def paidMethods (gateways : String → Option String) (order : ShopifyOrder) : List String :=
  (order.transactions.filter ShopifyTransaction.paid).filterMap fun t => gateways t.gateway

theorem mem_paidMethods {gateways : String → Option String} {order : ShopifyOrder} {id : String} :
    id ∈ paidMethods gateways order ↔
      ∃ t ∈ order.transactions, t.paid = true ∧ gateways t.gateway = some id := by
  simp [paidMethods, and_assoc]

/-- The path of the lookup ends at the gateway of the first transaction, if there is one. -/
theorem getPath_firstGateway (order : ShopifyOrder) :
    getPath (toJs order) "transactions.0.gateway" =
      order.transactions.head?.elim .undefined fun t => .str t.gateway := by
  have hsplit : Js.split "transactions.0.gateway" '.' = ["transactions", "0", "gateway"] := by
    decide +kernel
  have hzero : Js.indexOf? "0" = some 0 := by decide +kernel
  have hget : order.fields.get? "transactions" =
      some (.arr (order.transactions.map toJs)) := by
    unfold ShopifyOrder.fields
    simp only [Js.Fields.get?_append, get?_field]
    simp
    rfl
  have hfirst (items : List Js.Value) : (Js.Value.arr items).isObject = true ∧
      (Js.Value.arr items).prop "0" = items.headD .undefined := by
    refine ⟨rfl, ?_⟩
    unfold Js.Value.prop
    simp only [hzero]
    cases items <;> simp
  have hgateway (t : ShopifyTransaction) : (toJs t).isObject = true ∧
      (toJs t).prop "gateway" = .str t.gateway := ⟨rfl, rfl⟩
  have hobj : (Js.Value.obj order.fields).isObject = true := rfl
  have hundefined : Js.Value.undefined.isObject = false := rfl
  unfold getPath
  rw [if_neg (by decide), hsplit, toJs_order]
  simp only [List.foldl_cons, List.foldl_nil, hobj, if_true, Js.Value.prop_obj, hget,
    Option.getD_some, hfirst]
  cases order.transactions with
  | nil => simp [hundefined]
  | cons t rest => simp [hgateway]

theorem get?_setAt_paymentMethod (out : Js.Fields) (value : Js.Value) :
    (setAt out "paymentMethod" value).get? "paymentMethod" = some value := by
  have hparts : pathParts "paymentMethod" = ["paymentMethod"] := by decide +kernel
  unfold setAt
  rw [hparts, setParts, Js.Value.setProp]
  exact Js.Fields.get?_set_self ..

/-- What the lookup writes: the id of the method, or null. -/
theorem applyLookup_firstGateway {ctx : EvaluatorContext ShopifyOrder} {order : ShopifyOrder}
    {gateways : String → Option String} {out out' : Js.Fields} {tr : List Ev}
    (hrows : ∀ key t r, t ⊆ tr → Settles (ctx.lookups "lookup_payment_method" key) t (.ok r) →
      r = gateways key)
    (h : Settles (applyMapping order ctx
      (.lookup "lookup_payment_method" "transactions.0.gateway" "paymentMethod" false) out) tr
        (.ok (.ok out'))) :
    out'.get? "paymentMethod" = some ((firstMethod gateways order).elim .null .str) := by
  have hset {value : Js.Value} {t : List Ev}
      (h : Settles (do return MappingResult.ok (← Async.ofExcept
        (setPath out "paymentMethod" value)) : Async (MappingResult Js.Fields)) t
          (.ok (.ok out'))) : out'.get? "paymentMethod" = some value := by
    rw [setPath_eq (by decide)] at h
    obtain ⟨_, hout⟩ := settles_pure.mp h
    cases hout
    exact get?_setAt_paymentMethod out value
  rw [applyMapping] at h
  unfold applyLookup at h
  rw [getPath_firstGateway] at h
  unfold firstMethod
  cases hhead : order.transactions.head? with
  | none =>
    rw [hhead] at h
    exact hset h
  | some t =>
    rw [hhead] at h
    obtain ⟨found, t₁, t₂, rfl, hlookup, hrest⟩ := settles_bind_ok.mp h
    have hfound : found = gateways t.gateway :=
      hrows _ t₁ found (List.subset_append_left ..) hlookup
    rw [Option.bind_some, ← hfound]
    cases found with
    | none => exact hset hrest
    | some id => exact hset hrest

/-! ## The method of the payload -/

/-- The lines, the customer and the discount leave the other properties of a header alone. -/
theorem get?_rawPayload {header discount : Js.Fields} {customer key : String}
    {lines : List Js.Value} {shipping : Js.Value} {connection : Connection} {order : ShopifyOrder}
    (hdiscount : mapOrderDiscount connection order = .ok discount)
    (hkey : key ∉ ["entity", "item", "shipping", "discountItem", "discountRate"]) :
    (rawPayload header customer lines shipping discount).get? key = header.get? key := by
  simp only [List.mem_cons, List.not_mem_nil, or_false, not_or] at hkey
  obtain ⟨hentity, hitem, hshipping, hdiscountItem, hrate⟩ := hkey
  unfold rawPayload
  rw [Js.Fields.get?_spread]
  have hnone : Js.Fields.get? discount.reverse key = none := by
    obtain rfl | ⟨item, rfl⟩ := mapOrderDiscount_eq_ok hdiscount
    · rfl
    · simp [Js.Fields.get?_cons, Ne.symm hdiscountItem, Ne.symm hrate]
  split <;> simp [Js.Fields.get?_append, Js.Fields.get?_cons, hnone, Ne.symm hentity,
    Ne.symm hitem, Ne.symm hshipping]

/-- A payload is wrapped from the header that the mappings gave. -/
theorem header_of_build {dates : Dates} {args : BuildOrderPayloadArgs} {payload : NsOrderPayload}
    {tr : List Ev} (h : Settles (buildOrderPayload dates args) tr (.ok (.ok payload))) :
    ∃ header t, t ⊆ tr ∧ Settles (evaluate args.order args.headerMappings (args.context dates)) t
        (.ok (.ok header)) ∧
      ∃ raw, wrapNsReferences raw = .ok payload ∧
        ∀ key, key ∉ ["entity", "item", "shipping", "discountItem", "discountRate"] →
          raw.get? key = header.get? key := by
  unfold buildOrderPayload at h
  obtain ⟨r, t₁, t₂, rfl, heval, hlines⟩ := settles_bind_ok.mp h
  cases r with
  | parked reason => cases (settles_pure.mp hlines).2
  | ok header =>
    refine ⟨header, t₁, List.subset_append_left .., heval, ?_⟩
    obtain ⟨r, t₃, t₄, rfl, _, hlines⟩ := settles_bind_ok.mp hlines
    cases r with
    | parked reason => cases (settles_pure.mp hlines).2
    | ok lines =>
      dsimp only at hlines
      split at hlines
      · cases (settles_pure.mp hlines).2
      · obtain ⟨r, t₅, t₆, rfl, _, hassemble⟩ := settles_bind_ok.mp hlines
        cases r with
        | parked reason => cases (settles_pure.mp hassemble).2
        | ok shipping =>
          obtain ⟨rfl, hassembled⟩ := settles_ofExcept.mp hassemble
          unfold assemblePayload at hassembled
          split at hassembled
          · cases hassembled
          split at hassembled
          · cases hassembled
          next discount hdiscount =>
          obtain ⟨wrapped, hwrapped, hret⟩ := bind_eq_ok.mp hassembled.symm
          cases hret
          exact ⟨_, hwrapped, fun key hkey => get?_rawPayload hdiscount hkey⟩
      · cases (settles_pure.mp hlines).2

/-- What a payload says about the method of an order. -/
def methodRef : Option String → Js.Value
  | some id => .obj [("id", .str id)]
  | none => .null

@[simp] theorem methodRef_eq_null {method : Option String} :
    methodRef method = .null ↔ method = none := by
  cases method with
  | none => simp [methodRef]
  | some id => simp [methodRef]

theorem wrapEntry_paymentMethod (method : Option String) :
    wrapEntry "paymentMethod" (method.elim .null .str) =
      .ok [("paymentMethod", methodRef method)] := by
  cases method <;> rfl

section Built

variable {dates : Dates} {args : BuildOrderPayloadArgs} {gateways : String → Option String}
  {tr : List Ev} {payload : NsOrderPayload}

/-- The mappings that follow the lookup write other fields, except for those of the connection. -/
theorem notMem_targets_later {connection : Connection} {m : Mapping}
    (hextra : ∀ m ∈ connection.extraOrderHeaderMappings, "paymentMethod" ∉ m.targets)
    (hm : m ∈ (buildDefaultOrderHeaderMap connection).drop 7) : "paymentMethod" ∉ m.targets := by
  have hlater : (buildDefaultOrderHeaderMap connection).drop 7 =
      [.lookup "lookup_ship_method" "shippingLines.0.title" "shipMethod" false,
        .derive "shopifyShippingAddressToNs" [] "shippingAddress",
        .derive "shopifyBillingAddressToNs" [] "billingAddress"] ++
      ((truthy connection.nsLocation).toList.map fun location =>
        Mapping.constant (.str location) "location") ++ connection.extraOrderHeaderMappings := rfl
  have hkeys : ∀ target ∈ ["shipMethod", "shippingAddress", "billingAddress", "location"],
      "paymentMethod" ∉ [topKey target] := by decide +kernel
  rw [hlater] at hm
  simp only [List.mem_append, List.mem_cons, List.not_mem_nil, or_false, List.mem_map] at hm
  obtain ((rfl | rfl | rfl) | ⟨location, _, rfl⟩) | hm := hm
  · exact hkeys "shipMethod" (by decide)
  · exact hkeys "shippingAddress" (by decide)
  · exact hkeys "billingAddress" (by decide)
  · exact hkeys "location" (by decide)
  · exact hextra m hm

/-- A payload names the method of the first transaction. -/
theorem get?_paymentMethod (hdefault : args.headerOverride = none)
    (hextra : ∀ m ∈ args.connection.extraOrderHeaderMappings, "paymentMethod" ∉ m.targets)
    (hrows : ∀ key t r, t ⊆ tr → Settles (args.lookups "lookup_payment_method" key) t (.ok r) →
      r = gateways key)
    (h : Settles (buildOrderPayload dates args) tr (.ok (.ok payload))) :
    payload.get? "paymentMethod" = some (methodRef (firstMethod gateways args.order)) := by
  obtain ⟨header, t, hsub, heval, raw, hwrap, hraw⟩ := header_of_build h
  have hmap : args.headerMappings = (buildDefaultOrderHeaderMap args.connection).take 6 ++
      .lookup "lookup_payment_method" "transactions.0.gateway" "paymentMethod" false ::
        (buildDefaultOrderHeaderMap args.connection).drop 7 := by
    unfold BuildOrderPayloadArgs.headerMappings
    rw [hdefault]
    rfl
  rw [hmap] at heval
  obtain ⟨written, written', t', hsub', happly, hlater⟩ := evaluateFrom_applied heval
  have hwritten : written'.get? "paymentMethod" =
      some ((firstMethod gateways args.order).elim .null .str) :=
    applyLookup_firstGateway
      (fun key t₀ r ht₀ => hrows key t₀ r fun ev hev => hsub (hsub' (ht₀ hev))) happly
  have hkept : header.get? "paymentMethod" = written'.get? "paymentMethod" :=
    hlater _ fun m hm => notMem_targets_later hextra hm
  have hget : raw.get? "paymentMethod" =
      some ((firstMethod gateways args.order).elim .null .str) := by
    rw [hraw "paymentMethod" (by decide), hkept, hwritten]
  exact get?_wrapNsReferences hwrap hget (wrapEntry_paymentMethod _)

/-- The booked method was really used: it is that of a transaction that paid, and there is one
if a transaction that paid has a registered gateway. -/
structure MethodUsed (gateways : String → Option String) (order : ShopifyOrder)
    (payload : NsOrderPayload) : Prop where
  used : ∀ v, payload.get? "paymentMethod" = some v → v ≠ .null →
    ∃ t ∈ order.transactions, t.paid = true ∧ ∃ id, gateways t.gateway = some id ∧
      v = .obj [("id", .str id)]
  named : (∃ t ∈ order.transactions, t.paid = true ∧ ∃ id, gateways t.gateway = some id) →
    ∃ v, payload.get? "paymentMethod" = some v ∧ v ≠ .null

theorem MethodUsed.mem {order : ShopifyOrder} {id : String} (h : MethodUsed gateways order payload)
    (hget : payload.get? "paymentMethod" = some (methodRef (some id))) :
    id ∈ paidMethods gateways order := by
  obtain ⟨t, ht, hpaid, id', hid', heq⟩ := h.used _ hget (by simp)
  have hid : id = id' := by simpa [methodRef] using heq
  exact mem_paidMethods.mpr ⟨t, ht, hpaid, hid ▸ hid'⟩

/-- The first transaction has the method of one that paid, or no transaction that counts has a
method. -/
def FirstPays (gateways : String → Option String) (order : ShopifyOrder) : Prop :=
  match firstMethod gateways order with
  | some id => id ∈ paidMethods gateways order
  | none => paidMethods gateways order = []

/-- The payment method of a payload was really used if and only if the first transaction speaks
for those that paid. -/
theorem paymentMethod_used_iff (hdefault : args.headerOverride = none)
    (hextra : ∀ m ∈ args.connection.extraOrderHeaderMappings, "paymentMethod" ∉ m.targets)
    (hrows : ∀ key t r, t ⊆ tr → Settles (args.lookups "lookup_payment_method" key) t (.ok r) →
      r = gateways key)
    (h : Settles (buildOrderPayload dates args) tr (.ok (.ok payload))) :
    MethodUsed gateways args.order payload ↔ FirstPays gateways args.order := by
  have hget := get?_paymentMethod hdefault hextra hrows h
  unfold FirstPays
  cases hfirst : firstMethod gateways args.order with
  | some id =>
    rw [hfirst] at hget
    constructor
    · intro hused
      exact hused.mem hget
    · intro hmem
      obtain ⟨t, ht, hpaid, hid⟩ := mem_paidMethods.mp hmem
      refine ⟨fun v hv _ => ⟨t, ht, hpaid, id, hid, ?_⟩, fun _ => ⟨_, hget, by simp⟩⟩
      rw [hget, Option.some.injEq] at hv
      exact hv.symm
  | none =>
    rw [hfirst] at hget
    constructor
    · intro hused
      refine List.eq_nil_iff_forall_not_mem.mpr fun id hid => ?_
      obtain ⟨t, ht, hpaid, hgateway⟩ := mem_paidMethods.mp hid
      obtain ⟨v, hv, hne⟩ := hused.named ⟨t, ht, hpaid, id, hgateway⟩
      rw [hget, Option.some.injEq] at hv
      exact hne hv.symm
    · intro hnil
      constructor
      · intro v hv hne
        rw [hget, Option.some.injEq] at hv
        exact absurd hv.symm hne
      · rintro ⟨t, ht, hpaid, id, hgateway⟩
        have hmem : id ∈ paidMethods gateways args.order :=
          mem_paidMethods.mpr ⟨t, ht, hpaid, hgateway⟩
        rw [hnil] at hmem
        cases hmem

end Built

/-! ## A card that was declined -/

namespace Sale

/-- A transaction of the sale. -/
def transaction (status gateway : String) : ShopifyTransaction where
  id := "gid://shopify/OrderTransaction/1"
  kind := "sale"
  status
  gateway
  amount := ⟨"24.61", "USD"⟩
  processedAt := "2026-01-05T10:00:00Z"

/-- The sale with these transactions. -/
def paidWith (transactions : List ShopifyTransaction) : ShopifyOrder := { order with transactions }

/-- Two gateways are registered. -/
def gateways (gateway : String) : Option String :=
  [("shopify_payments", "12"), ("paypal", "13")].lookup gateway

/-- The arguments of `args`, with a table of payment methods. -/
def gatewayArgs (order : ShopifyOrder) : BuildOrderPayloadArgs :=
  { args order with
    lookups := fun table key =>
      return if table = "lookup_payment_method" then gateways key else some "7" }

def gatewayBuild (order : ShopifyOrder) :=
  (buildOrderPayload dates (gatewayArgs order)).run.eval answers

theorem gatewayBuild_rows {order : ShopifyOrder} {key : String} {t : List Ev} {r : Option String}
    (h : Settles ((gatewayArgs order).lookups "lookup_payment_method" key) t (.ok r)) :
    r = gateways key :=
  Except.ok.inj (settles_pure.mp h).2

theorem gatewayBuild_settles {order : ShopifyOrder}
    (h : (built (gatewayBuild order).2).isSome = true) :
    ∃ payload, Settles (buildOrderPayload dates (gatewayArgs order)) (gatewayBuild order).1
      (.ok (.ok payload)) := by
  obtain ⟨payload, hpayload⟩ := Option.isSome_iff_exists.mp h
  refine ⟨payload, ?_⟩
  rw [← built_eq_some.mp hpayload]
  exact Prog.runs_eval ..

/-- The customer paid by card, at once. -/
def byCard : ShopifyOrder := paidWith [transaction "success" "shopify_payments"]

/-- The card was declined, and the customer paid with PayPal. -/
def declined : ShopifyOrder :=
  paidWith [transaction "failure" "shopify_payments", transaction "success" "paypal"]

end Sale

theorem paymentMethod_used_iff_byCard : ∃ payload,
    Settles (buildOrderPayload Sale.dates (Sale.gatewayArgs Sale.byCard))
      (Sale.gatewayBuild Sale.byCard).1 (.ok (.ok payload)) ∧
    (MethodUsed Sale.gateways Sale.byCard payload ↔ FirstPays Sale.gateways Sale.byCard) := by
  obtain ⟨payload, hbuild⟩ := @Sale.gatewayBuild_settles Sale.byCard (by decide +kernel)
  exact ⟨payload, hbuild, paymentMethod_used_iff rfl (fun m hm => absurd hm List.not_mem_nil)
    (fun _ _ _ _ hlookup => Sale.gatewayBuild_rows hlookup) hbuild⟩

/-- The card that was declined is booked. -/
theorem declined_card_booked :
    ¬∀ (dates : Dates) (args : BuildOrderPayloadArgs) (gateways : String → Option String)
      (tr : List Ev) (payload : NsOrderPayload), args.headerOverride = none →
      (∀ m ∈ args.connection.extraOrderHeaderMappings, "paymentMethod" ∉ m.targets) →
      (∀ key t r, t ⊆ tr → Settles (args.lookups "lookup_payment_method" key) t (.ok r) →
        r = gateways key) →
      Settles (buildOrderPayload dates args) tr (.ok (.ok payload)) →
      MethodUsed gateways args.order payload := by
  intro h
  obtain ⟨payload, hbuild⟩ := @Sale.gatewayBuild_settles Sale.declined (by decide +kernel)
  have hrows : ∀ key t r, t ⊆ (Sale.gatewayBuild Sale.declined).1 →
      Settles ((Sale.gatewayArgs Sale.declined).lookups "lookup_payment_method" key) t (.ok r) →
      r = Sale.gateways key := fun _ _ _ _ hlookup => Sale.gatewayBuild_rows hlookup
  have hextra : ∀ m ∈ (Sale.gatewayArgs Sale.declined).connection.extraOrderHeaderMappings,
      "paymentMethod" ∉ m.targets := fun m hm => absurd hm List.not_mem_nil
  have hused := h _ _ Sale.gateways _ _ rfl hextra hrows hbuild
  have hget := get?_paymentMethod rfl hextra hrows hbuild
  have hfirst : firstMethod Sale.gateways (Sale.gatewayArgs Sale.declined).order = some "12" := by
    decide +kernel
  rw [hfirst] at hget
  have hpaid : "12" ∉ paidMethods Sale.gateways (Sale.gatewayArgs Sale.declined).order := by
    decide +kernel
  exact hpaid (hused.mem hget)

end DpIntegrator
