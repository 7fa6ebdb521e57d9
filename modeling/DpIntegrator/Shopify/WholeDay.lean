import DpIntegrator.Delivery.Currencies
import DpIntegrator.Js.Cents
import DpIntegrator.Shopify.DailyAggregate

/-!
# Aggregates of whole days

An aggregate is that of a whole day if it counts every order of the day, and has the exact total of
each currency. The gateway reads forty pages and no more, and prints totals with two decimals.
-/

namespace DpIntegrator

open Effects

/-- The total that an aggregate has for a currency, as a number. -/
def OrderDailyAggregate.totalIn (agg : OrderDailyAggregate) (currency : String) : Js.Number :=
  Js.parseFloat ((agg.totalsByCurrency.lookup currency).getD "0")

/-- The amount of orders in a currency. -/
def totalOf (orders : List GraphQLOrder) (currency : String) : ℚ :=
  (orders.map fun o => amountIn currency o.totalPriceSet.presentmentMoney).sum

/-- The aggregate of all of the orders. -/
structure OrderDailyAggregate.Covers (agg : OrderDailyAggregate) (orders : List GraphQLOrder) :
    Prop where
  count : agg.count = orders.length
  totals : ∀ currency, agg.totalIn currency = .fin (totalOf orders currency)

/-- The amounts of orders add up to whole cents in a currency. -/
def WholeCents (orders : List GraphQLOrder) (currency : String) : Prop :=
  ∃ c : ℤ, totalOf orders currency = c / 100

section

variable {gateway : ShopifyHttpGateway} {connection : Connection} {query : String}
  {read : String → ℤ} {orders listing : List GraphQLOrder} {parts : List (List GraphQLOrder)}
  {cursor : GraphQLOrder → String} {fromInclusive toExclusive : String} {t : List GatewayEv}
  {agg : OrderDailyAggregate}

theorem totalOf_perm (h : listing.Perm orders) (currency : String) :
    totalOf listing currency = totalOf orders currency := (h.map _).sum_eq

/-- A total is printed exactly if it is whole cents. -/
theorem totalIn_eq_iff {totals : DayTotals} {currency : String} {q : ℚ}
    (h : totals.Holds currency q) :
    totals.aggregate.totalIn currency = .fin q ↔ ∃ c : ℤ, q = c / 100 := by
  have hlookup : totals.aggregate.totalsByCurrency.lookup currency =
      (totals.totals.get currency).map Js.Number.toFixed2 := Js.Map.lookup_map ..
  unfold OrderDailyAggregate.totalIn
  rw [hlookup]
  obtain hget | ⟨hget, rfl⟩ := h
  · rw [hget, Option.map_some, Option.getD_some]
    exact Js.Number.parseFloat_toFixed2_eq_iff
  · rw [hget]
    constructor
    · intro _
      exact ⟨0, by norm_num⟩
    · intro _
      decide +kernel

/-- What the gateway returns for a listing in parts: the totals of the first forty. -/
theorem getDailyOrderAggregate_parts (hfilled : ∀ part ∈ parts, part ≠ [])
    (hlists : ListsWindow read orders fromInclusive toExclusive cursor parts.flatten)
    (h : Settles (gateway.getDailyOrderAggregate connection fromInclusive toExclusive) t (.ok agg))
    (hpages : ∀ ev ∈ t, ShowsPages (fun _ => Paging.partPage cursor parts)
      (aggregateQuery fromInclusive toExclusive) ev) :
    agg.count = (parts.take 40).flatten.length ∧ ∀ currency,
      (agg.totalIn currency = .fin (totalOf (parts.take 40).flatten currency) ↔
        WholeCents (parts.take 40).flatten currency) := by
  have hends : ∀ start, (Paging.partPage cursor parts start).endCursor ≠ some "" := by
    intro start hend
    obtain ⟨o, ho, hempty⟩ := Paging.exists_of_endCursor_part hfilled hend
    exact hlists.nonempty o ho hempty
  have hvalue := getDailyOrderAggregate_eq h hpages hends
  rw [Paging.readPages_parts hfilled hlists.distinct] at hvalue
  subst hvalue
  constructor
  · have hcount := DayTotals.count_addAll {} ((parts.take 40).flatten.map
      fun o => o.totalPriceSet.presentmentMoney)
    rw [List.length_map, Nat.zero_add] at hcount
    exact hcount
  · intro currency
    have hempty : DayTotals.Holds {} currency 0 := .inr ⟨rfl, rfl⟩
    have hholds := hempty.addAll ((parts.take 40).flatten.map
      fun o => o.totalPriceSet.presentmentMoney)
    rw [zero_add, List.map_map] at hholds
    exact totalIn_eq_iff hholds

end

/-! ## Reading a listing to its end -/

section

variable (gateway : ShopifyHttpGateway) (connection : Connection) {accessToken query : String}
  (page : ℕ → Option String → Paging.CursorPage GraphQLOrder String)

/-- The response that shows the page for a request. -/
def shown (page : ℕ → Option String → Paging.CursorPage GraphQLOrder String)
    (args : AggregateVariables) : AggregateResponse :=
  .ok (.ok { orders := some (aggregateOrders (page args.first args.after)) })

/-- A request that is answered with its page. -/
def Shown (page : ℕ → Option String → Paging.CursorPage GraphQLOrder String) (ev : GatewayEv) :
    Prop := ∀ url accessToken args res, ev = ⟨.post url accessToken args, res⟩ →
  res = .ok (shown page args)

variable {page} in
theorem Shown.showsPages {ev : GatewayEv} (h : Shown page ev) : ShowsPages page query ev := by
  intro url accessToken limit start body heq _
  cases h _ _ _ _ heq
  rfl

/-- Where every request is answered, the pages are read to their end. -/
theorem exists_settles_aggregatePages (accessToken query : String) (n : ℕ) (start : Option String) (totals : DayTotals) :
    ∃ t out, Settles (gateway.aggregatePages connection accessToken query n start totals) t (.ok out) ∧
      ∀ ev ∈ t, Shown page ev := by
  induction n generalizing start totals with
  | zero => exact ⟨[], totals, settles_pure.mpr ⟨rfl, rfl⟩, by simp⟩
  | succ n ih =>
    have hpage : ∃ t, Settles (gateway.aggregatePage connection accessToken query start) t
        (.ok (some (aggregateOrders (page 250 start)))) ∧ ∀ ev ∈ t, Shown page ev := by
      refine ⟨_, settles_bind_ok.mpr ⟨shown page ⟨250, query, start⟩, _, [], rfl,
        settles_post.mpr rfl, settles_pure.mpr ⟨rfl, rfl⟩⟩, ?_⟩
      intro ev hev url accessToken args res heq
      rw [List.append_nil, List.mem_singleton] at hev
      subst hev
      cases heq
      rfl
    obtain ⟨t₁, hsettles, hshown⟩ := hpage
    let added := totals.addAll (aggregateOrders (page 250 start)).amounts
    cases hnext : (aggregateOrders (page 250 start)).pageInfo.bind PageInfo.next with
    | none =>
      refine ⟨t₁, added, settles_bind_ok.mpr ⟨_, t₁, [], by simp, hsettles, ?_⟩, hshown⟩
      simp only [Option.map_some, Option.getD_some, Option.bind_some, hnext]
      exact settles_pure.mpr ⟨rfl, rfl⟩
    | some c =>
      obtain ⟨t₂, out, hrest, hlater⟩ := ih (some c) added
      refine ⟨t₁ ++ t₂, out, settles_bind_ok.mpr ⟨_, t₁, t₂, rfl, hsettles, ?_⟩, ?_⟩
      · simp only [Option.map_some, Option.getD_some, Option.bind_some, hnext]
        exact hrest
      · exact List.forall_mem_append.mpr ⟨hshown, hlater⟩

/-- Where every request is answered, there is an aggregate. -/
theorem exists_settles_aggregate (fromInclusive toExclusive : String) :
    ∃ t agg, Settles (gateway.getDailyOrderAggregate connection fromInclusive toExclusive) t (.ok agg) ∧
      ∀ ev ∈ t, ShowsPages page (aggregateQuery fromInclusive toExclusive) ev := by
  obtain ⟨t, out, hread, hshown⟩ := exists_settles_aggregatePages gateway connection page
    "token" (aggregateQuery fromInclusive toExclusive) 40 none {}
  refine ⟨⟨.resolveAccessToken connection, .ok "token"⟩ :: t, out.aggregate,
    settles_bind_ok.mpr ⟨"token", [_], t, rfl, settles_resolveAccessToken.mpr rfl,
      settles_bind_ok.mpr ⟨out, t, [], by simp, hread, settles_pure.mpr ⟨rfl, rfl⟩⟩⟩, ?_⟩
  refine List.forall_mem_cons.mpr ⟨?_, fun ev hev => (hshown ev hev).showsPages⟩
  intro url accessToken limit start body heq
  cases heq

end

/-! ## A shop with many orders -/

namespace Shop

/-- The order with a number. -/
def numbered (i : ℕ) : GraphQLOrder :=
  { presented "10.00" "USD" with id := "gid://shopify/Order/" ++ toString i }

theorem numbered_id (i : ℕ) : (numbered i).id = "gid://shopify/Order/" ++ toString i := rfl

theorem numbered_inj {i j : ℕ} (h : (numbered i).id = (numbered j).id) : i = j := by
  rw [numbered_id, numbered_id, Nat.toString_eq_ofList_toDigits, Nat.toString_eq_ofList_toDigits] at h
  have hlist := congrArg String.toList h
  rw [String.toList_append, String.toList_append, List.append_cancel_left_eq, String.toList_ofList,
    String.toList_ofList] at hlist
  rw [← Nat.ofDigitChars_ten_toDigits (n := i), hlist, Nat.ofDigitChars_ten_toDigits]

/-- Pages of 250 orders. -/
def fullPages (n : ℕ) : List (List GraphQLOrder) :=
  (List.range n).map fun k => (List.range 250).map fun j => numbered (250 * k + j)

theorem fullPages_filled {n : ℕ} : ∀ part ∈ fullPages n, part ≠ [] := by
  intro part hpart
  obtain ⟨k, _, rfl⟩ := List.mem_map.mp hpart
  simp

theorem mem_fullPages {n : ℕ} {o : GraphQLOrder} (h : o ∈ (fullPages n).flatten) :
    ∃ i, o = numbered i := by
  obtain ⟨part, hpart, ho⟩ := List.mem_flatten.mp h
  obtain ⟨k, _, rfl⟩ := List.mem_map.mp hpart
  obtain ⟨j, _, rfl⟩ := List.mem_map.mp ho
  exact ⟨_, rfl⟩

/-- The orders on the pages have ids of their own. -/
theorem fullPages_distinct (n : ℕ) : ((fullPages n).flatten.map GraphQLOrder.id).Nodup := by
  have hids : (fullPages n).flatten.map GraphQLOrder.id = ((List.range n).flatMap fun k =>
      (List.range 250).map fun j => 250 * k + j).map fun i => (numbered i).id := by
    simp only [fullPages, List.flatMap, List.map_flatten, List.map_map, Function.comp_def]
  rw [hids]
  refine List.Nodup.map (fun i j => numbered_inj) (List.nodup_flatMap.mpr ⟨fun k _ => ?_, ?_⟩)
  · exact List.nodup_range.map fun i j hij => by omega
  · refine List.nodup_range.imp fun {k k'} hne => ?_
    intro i hi hi'
    obtain ⟨j, hj, rfl⟩ := List.mem_map.mp hi
    obtain ⟨j', hj', heq⟩ := List.mem_map.mp hi'
    rw [List.mem_range] at hj hj'
    omega

/-- A time as its ISO text says. -/
def readIsoTime (s : String) : ℤ := (Js.newDate (fun _ => none) s).getD 0

theorem numbered_processedAt (i : ℕ) : (numbered i).processedAt = "2026-01-05T10:00:00Z" := rfl

theorem numbered_test (i : ℕ) : (numbered i).test = false := rfl

/-- The pages list the orders that were processed on the fifth of January. -/
theorem fullPages_lists (n : ℕ) : ListsWindow readIsoTime (fullPages n).flatten
    "2026-01-05T00:00:00Z" "2026-01-06T00:00:00Z" GraphQLOrder.id (fullPages n).flatten where
  perm := by
    have hbegun : readIsoTime "2026-01-05T00:00:00Z" ≤ readIsoTime "2026-01-05T10:00:00Z" := by
      decide +kernel
    have hnot : readIsoTime "2026-01-05T10:00:00Z" < readIsoTime "2026-01-06T00:00:00Z" := by
      decide +kernel
    have hall : windowOrders readIsoTime (fullPages n).flatten "2026-01-05T00:00:00Z"
        "2026-01-06T00:00:00Z" = (fullPages n).flatten := by
      apply List.filter_eq_self.mpr
      intro o ho
      obtain ⟨i, rfl⟩ := mem_fullPages ho
      simp [numbered_test, numbered_processedAt, hbegun, hnot]
    rw [hall]
  sorted := by
    apply List.pairwise_of_forall_mem_list
    intro a ha b hb
    obtain ⟨i, rfl⟩ := mem_fullPages ha
    obtain ⟨j, rfl⟩ := mem_fullPages hb
    rw [numbered_processedAt, numbered_processedAt]
  distinct := fullPages_distinct n
  nonempty o ho := by
    obtain ⟨i, rfl⟩ := mem_fullPages ho
    intro hempty
    have hlist := congrArg String.toList hempty
    rw [numbered_id, String.toList_append] at hlist
    simp at hlist

end Shop

end DpIntegrator
