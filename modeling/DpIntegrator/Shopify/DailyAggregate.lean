import DpIntegrator.Calls
import DpIntegrator.Paging.Cursors
import DpIntegrator.Shopify.GraphQL

/-!
# The orders of a day at Shopify

`getDailyOrderAggregate` of the HTTP gateway. It pages through the orders that were processed in a
window, without test orders, counts them, and adds up their totals by presentment currency. It
stops after forty pages of at most 250 orders.
-/

namespace DpIntegrator

open Effects

/-! ## Requests -/

/-- The variables of the aggregate query. -/
structure AggregateVariables where
  first : ℕ
  query : String
  after : Option String
  deriving DecidableEq

structure AggregateNode where
  totalPriceSet : GraphQLMoneyBag

structure PageInfo where
  hasNextPage : Option Bool := none
  endCursor : Option String := none

structure AggregateOrders where
  edges : Option (List (GraphQLEdge AggregateNode)) := none
  pageInfo : Option PageInfo := none

/-- The body of a response: `data.orders` and the messages of `errors`, where they are present. -/
structure AggregateBody where
  orders : Option AggregateOrders := none
  errors : Option (List (Option String)) := none

/-- A response: a failure with its status and text, or the body, if it can be read. -/
inductive AggregateResponse
  | failed (status : ℕ) (text : String)
  | ok (body : Except Thrown AggregateBody)

/-- What the gateway awaits. -/
inductive GatewayOp
  | resolveAccessToken (connection : Connection)
  | post (url accessToken : String) (args : AggregateVariables)

@[reducible] def GatewayOp.Resp : GatewayOp → Type
  | resolveAccessToken _ => Except Thrown String
  | post .. => Except Thrown AggregateResponse

abbrev GatewayEv := Event GatewayOp GatewayOp.Resp

abbrev Gateway := Throwing Thrown GatewayOp GatewayOp.Resp

namespace Gateway

def resolveAccessToken (connection : Connection) : Gateway String :=
  ExceptT.mk (Prog.perform (GatewayOp.resolveAccessToken connection))

def post (url accessToken : String) (args : AggregateVariables) : Gateway AggregateResponse :=
  ExceptT.mk (Prog.perform (GatewayOp.post url accessToken args))

end Gateway

structure ShopifyHttpGateway where
  apiVersion : String := "2025-01"

/-! ## Adding up -/

/-- `count` and `totals`. -/
structure DayTotals where
  count : ℕ := 0
  totals : Js.Map String Js.Number := .empty

/-- Count an order and add its total, if that is a finite number. -/
def DayTotals.add (t : DayTotals) (m : MoneyV2) : DayTotals :=
  let amt := Js.parseFloat m.amount
  { count := t.count + 1
    totals := if amt.isFinite then
        t.totals.set m.currencyCode ((t.totals.get m.currencyCode).getD 0 + amt)
      else t.totals }

def DayTotals.addAll (t : DayTotals) (amounts : List MoneyV2) : DayTotals :=
  amounts.foldl DayTotals.add t

def DayTotals.aggregate (t : DayTotals) : OrderDailyAggregate where
  count := t.count
  totalsByCurrency := t.totals.entries.map fun entry => (entry.1, entry.2.toFixed2)

/-! ## Paging -/

/-- The amounts on a page. -/
def AggregateOrders.amounts (orders : AggregateOrders) : List MoneyV2 :=
  (orders.edges.getD []).map fun e => e.node.totalPriceSet.presentmentMoney

/-- The cursor to go on with: there is a next page, and the cursor is not empty. -/
def PageInfo.next (info : PageInfo) : Option String :=
  if info.hasNextPage = some true then truthy info.endCursor else none

/-- The query of a window. -/
def aggregateQuery (fromInclusive toExclusive : String) : String :=
  "processed_at:>='" ++ fromInclusive ++ "' processed_at:<'" ++ toExclusive ++ "' test:false"

namespace ShopifyHttpGateway

/-- Ask for the page after a cursor. -/
def aggregatePage (gateway : ShopifyHttpGateway) (connection : Connection)
    (accessToken query : String) (cursor : Option String) : Gateway (Option AggregateOrders) := do
  let url := "https://" ++ connection.shopifyStore ++ "/admin/api/" ++ gateway.apiVersion ++
    "/graphql.json"
  let res ← Gateway.post url accessToken ⟨250, query, cursor⟩
  match res with
  | .failed status text =>
    throw (newError ("ShopifyHttpGateway.getDailyOrderAggregate: " ++ connection.shopifyStore ++
      " returned " ++ toString status ++ ": " ++ text))
  | .ok (.error e) => throw e
  | .ok (.ok body) =>
    if body.errors.getD [] = [] then return body.orders
    else throw (newError ("ShopifyHttpGateway.getDailyOrderAggregate: GraphQL errors: " ++
      "; ".intercalate ((body.errors.getD []).map fun e => e.getD "?")))

/-- Add up what is on at most `pages` pages, the first one after a cursor. -/
def aggregatePages (gateway : ShopifyHttpGateway) (connection : Connection)
    (accessToken query : String) : ℕ → Option String → DayTotals → Gateway DayTotals
  | 0, _, totals => return totals
  | pages + 1, cursor, totals => do
    let orders ← gateway.aggregatePage connection accessToken query cursor
    let totals := totals.addAll ((orders.map AggregateOrders.amounts).getD [])
    match (orders.bind AggregateOrders.pageInfo).bind PageInfo.next with
    | some cursor => gateway.aggregatePages connection accessToken query pages (some cursor) totals
    | none => return totals

def getDailyOrderAggregate (gateway : ShopifyHttpGateway) (connection : Connection)
    (fromInclusive toExclusive : String) : Gateway OrderDailyAggregate := do
  let accessToken ← Gateway.resolveAccessToken connection
  let totals ← gateway.aggregatePages connection accessToken
    (aggregateQuery fromInclusive toExclusive) 40 none {}
  return totals.aggregate

end ShopifyHttpGateway

/-! ## What is added up -/

/-- A text as an amount; what is no finite number counts as nothing. -/
def amountOf (s : String) : ℚ :=
  match Js.parseFloat s with
  | .fin q => q
  | _ => 0

/-- Adding a number where it is finite adds its amount. -/
theorem add_amount (q : ℚ) (s : String) : (if (Js.parseFloat s).isFinite then
    Js.Number.fin q + Js.parseFloat s else .fin q) = .fin (q + amountOf s) := by
  unfold amountOf
  cases Js.parseFloat s with
  | fin amt => rfl
  | inf | nan => simp [Js.Number.isFinite]

/-- The amount of a price in a currency. -/
def amountIn (currency : String) (m : MoneyV2) : ℚ :=
  if m.currencyCode = currency then amountOf m.amount else 0

/-- The total of a currency is `q`; without an order in it there is none. -/
def DayTotals.Holds (t : DayTotals) (currency : String) (q : ℚ) : Prop :=
  t.totals.get currency = some (.fin q) ∨ t.totals.get currency = none ∧ q = 0

theorem DayTotals.Holds.add {t : DayTotals} {currency : String} {q : ℚ} (h : t.Holds currency q)
    (m : MoneyV2) : (t.add m).Holds currency (q + amountIn currency m) := by
  unfold DayTotals.add amountIn
  by_cases hcurrency : m.currencyCode = currency
  · have hsum := add_amount q m.amount
    subst hcurrency
    rw [if_pos rfl]
    by_cases hfinite : (Js.parseFloat m.amount).isFinite = true
    · rw [if_pos hfinite] at hsum
      left
      simp only [hfinite, if_true, Js.Map.get_set_self]
      obtain hget | ⟨hget, rfl⟩ := h
      · rw [hget, Option.getD_some, hsum]
      · rw [hget, ← hsum]
        rfl
    · rw [if_neg hfinite] at hsum
      simp only [hfinite]
      rw [← Js.Number.fin.inj hsum]
      exact h
  · rw [if_neg hcurrency, add_zero]
    by_cases hfinite : (Js.parseFloat m.amount).isFinite = true
    · simp only [hfinite, if_true, Holds, Js.Map.get_set_of_ne (Ne.symm hcurrency)]
      exact h
    · simp only [hfinite]
      exact h

theorem DayTotals.Holds.addAll {t : DayTotals} {currency : String} {q : ℚ} (h : t.Holds currency q)
    (amounts : List MoneyV2) :
    (t.addAll amounts).Holds currency (q + (amounts.map (amountIn currency)).sum) := by
  induction amounts generalizing t q with
  | nil =>
    rw [List.map_nil, List.sum_nil, add_zero]
    exact h
  | cons m amounts ih =>
    have hrest := ih (h.add m)
    rw [List.map_cons, List.sum_cons, ← add_assoc]
    exact hrest

theorem DayTotals.count_addAll (t : DayTotals) (amounts : List MoneyV2) :
    (t.addAll amounts).count = t.count + amounts.length := by
  induction amounts generalizing t with
  | nil => rfl
  | cons m amounts ih =>
    have hrest := ih (t.add m)
    have hfirst : (t.add m).count = t.count + 1 := rfl
    simp only [List.length_cons]
    change ((t.add m).addAll amounts).count = _
    omega

/-! ## What Shopify lists -/

/-- The orders of a window: live orders that were processed in it. -/
def windowOrders (read : String → ℤ) (orders : List GraphQLOrder)
    (fromInclusive toExclusive : String) : List GraphQLOrder :=
  orders.filter fun o => !o.test && read fromInclusive ≤ read o.processedAt &&
    read o.processedAt < read toExclusive

/-- A listing of the orders of a window, by the time of processing. -/
structure ListsWindow (read : String → ℤ) (orders : List GraphQLOrder)
    (fromInclusive toExclusive : String) (cursor : GraphQLOrder → String)
    (listing : List GraphQLOrder) : Prop where
  perm : listing.Perm (windowOrders read orders fromInclusive toExclusive)
  sorted : listing.Pairwise fun a b => read a.processedAt ≤ read b.processedAt
  distinct : (listing.map cursor).Nodup
  nonempty : ∀ o ∈ listing, cursor o ≠ ""

theorem ListsWindow.endCursor_ne {read : String → ℤ} {orders listing : List GraphQLOrder}
    {fromInclusive toExclusive : String} {cursor : GraphQLOrder → String}
    (h : ListsWindow read orders fromInclusive toExclusive cursor listing) (start : Option String) :
    (Paging.cursorPage cursor listing 250 start).endCursor ≠ some "" := by
  intro hend
  obtain ⟨o, ho, hempty⟩ := Paging.exists_of_endCursor hend
  exact h.nonempty o ho hempty

/-- What a page looks like in a response. -/
def aggregateOrders (page : Paging.CursorPage GraphQLOrder String) : AggregateOrders where
  edges := some (page.items.map fun o => ⟨⟨o.totalPriceSet⟩⟩)
  pageInfo := some ⟨page.hasNextPage, page.endCursor⟩

/-- A response to a query without errors shows the page for its limit and cursor. -/
def ShowsPages (page : ℕ → Option String → Paging.CursorPage GraphQLOrder String) (query : String)
    (ev : GatewayEv) : Prop :=
  ∀ url accessToken limit start body,
    ev = ⟨.post url accessToken ⟨limit, query, start⟩, .ok (.ok (.ok body))⟩ →
    body.errors.getD [] = [] → body.orders = some (aggregateOrders (page limit start))

section

variable {gateway : ShopifyHttpGateway} {connection : Connection} {accessToken query : String}
  {t : List GatewayEv} {page : ℕ → Option String → Paging.CursorPage GraphQLOrder String}

@[simp] theorem settles_resolveAccessToken {res : Except Thrown String} :
    Settles (Gateway.resolveAccessToken connection) t res ↔
      t = [⟨.resolveAccessToken connection, res⟩] := by
  change Runs (Prog.perform (GatewayOp.resolveAccessToken connection)) t res ↔ _
  exact runs_perform

@[simp] theorem settles_post {url : String} {args : AggregateVariables}
    {res : Except Thrown AggregateResponse} :
    Settles (Gateway.post url accessToken args) t res ↔ t = [⟨.post url accessToken args, res⟩] := by
  change Runs (Prog.perform (GatewayOp.post url accessToken args)) t res ↔ _
  exact runs_perform

/-- A page that arrives is the one that is shown. -/
theorem aggregatePage_eq {start : Option String} {orders : Option AggregateOrders}
    (h : Settles (gateway.aggregatePage connection accessToken query start) t (.ok orders))
    (hpages : ∀ ev ∈ t, ShowsPages page query ev) :
    orders = some (aggregateOrders (page 250 start)) := by
  unfold ShopifyHttpGateway.aggregatePage at h
  obtain ⟨res, t₁, t₂, rfl, hpost, hres⟩ := settles_bind_ok.mp h
  obtain rfl := settles_post.mp hpost
  cases res with
  | failed status text => cases (settles_throw.mp hres).2
  | ok body =>
    cases body with
    | error e => cases (settles_throw.mp hres).2
    | ok body =>
      dsimp only at hres
      split at hres
      · next hnone =>
        obtain ⟨_, horders⟩ := settles_pure.mp hres
        cases horders
        exact hpages _ (List.mem_cons_self ..) _ _ _ _ _ rfl hnone
      · cases (settles_throw.mp hres).2

/-- The cursor to go on with is that of the page. -/
theorem next_aggregateOrders {start : Option String}
    (hnonempty : (page 250 start).endCursor ≠ some "") :
    (aggregateOrders (page 250 start)).pageInfo.bind PageInfo.next = (page 250 start).next := by
  have htruthy : truthy (page 250 start).endCursor = (page 250 start).endCursor := by
    cases hend : (page 250 start).endCursor with
    | none => rfl
    | some c =>
      have hne : c ≠ "" := fun heq => hnonempty (heq ▸ hend)
      simp [truthy, hne]
  simp [aggregateOrders, PageInfo.next, Paging.CursorPage.next, htruthy]

theorem DayTotals.addAll_append (totals : DayTotals) (a b : List MoneyV2) :
    totals.addAll (a ++ b) = (totals.addAll a).addAll b := List.foldl_append

/-- The pages that are read are added up. Induction on the number of pages. -/
theorem aggregatePages_eq {pages : ℕ} {start : Option String} {totals out : DayTotals}
    (h : Settles (gateway.aggregatePages connection accessToken query pages start totals) t (.ok out))
    (hpages : ∀ ev ∈ t, ShowsPages page query ev)
    (hnonempty : ∀ start, (page 250 start).endCursor ≠ some "") :
    out = totals.addAll ((Paging.readPages (page 250) pages start).map
      fun o => o.totalPriceSet.presentmentMoney) := by
  induction pages generalizing start totals t with
  | zero =>
    obtain ⟨_, hout⟩ := settles_pure.mp h
    cases hout
    rfl
  | succ pages ih =>
    unfold ShopifyHttpGateway.aggregatePages at h
    obtain ⟨orders, t₁, t₂, rfl, hpage, hrest⟩ := settles_bind_ok.mp h
    have horders := aggregatePage_eq hpage fun ev hev => hpages ev (List.mem_append_left _ hev)
    have hlater : ∀ ev ∈ t₂, ShowsPages page query ev :=
      fun ev hev => hpages ev (List.mem_append_right _ hev)
    subst horders
    have hamounts : (aggregateOrders (page 250 start)).amounts =
        (page 250 start).items.map fun o => o.totalPriceSet.presentmentMoney := by
      simp [AggregateOrders.amounts, aggregateOrders]
    simp only [Option.map_some, Option.getD_some, Option.bind_some, hamounts,
      next_aggregateOrders (hnonempty start)] at hrest
    rw [Paging.readPages, List.map_append, DayTotals.addAll_append]
    cases hnext : (page 250 start).next with
    | none =>
      rw [hnext] at hrest
      obtain ⟨_, hout⟩ := settles_pure.mp hrest
      cases hout
      rfl
    | some c =>
      rw [hnext] at hrest
      exact ih hrest hlater

/-- The aggregate of a window is that of the orders on its first forty pages. -/
theorem getDailyOrderAggregate_eq {fromInclusive toExclusive : String} {agg : OrderDailyAggregate}
    (h : Settles (gateway.getDailyOrderAggregate connection fromInclusive toExclusive) t (.ok agg))
    (hpages : ∀ ev ∈ t, ShowsPages page (aggregateQuery fromInclusive toExclusive) ev)
    (hnonempty : ∀ start, (page 250 start).endCursor ≠ some "") :
    agg = (DayTotals.addAll {} ((Paging.readPages (page 250) 40 none).map
      fun o => o.totalPriceSet.presentmentMoney)).aggregate := by
  unfold ShopifyHttpGateway.getDailyOrderAggregate at h
  obtain ⟨accessToken, t₁, t₂, rfl, _, hrest⟩ := settles_bind_ok.mp h
  obtain ⟨totals, t₃, t₄, rfl, hread, hagg⟩ := settles_bind_ok.mp hrest
  obtain ⟨_, hout⟩ := settles_pure.mp hagg
  cases hout
  have htotals := aggregatePages_eq hread (fun ev hev =>
    hpages ev (List.mem_append_right _ (List.mem_append_left _ hev))) hnonempty
  rw [htotals]

end

end DpIntegrator
