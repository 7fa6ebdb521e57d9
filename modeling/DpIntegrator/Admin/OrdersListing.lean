import DpIntegrator.Paging.Offsets
import DpIntegrator.Postgres.LedgerAgreement
import DpIntegrator.Shopify.Order
import Mathlib.Data.List.TakeWhile

/-!
# The listing of the ledger

The admin API lists the rows of the ledger page by page, the latest first, and its client asks
for the next page from the position that the last answer names. Rows of one time come in any
order, and deliveries write while an operator reads.
-/

namespace Js

/-- What `Number.parseInt(s, 10)` returns. -/
inductive ParsedInt
  | finite (n : ℤ)
  | infinite (negative : Bool)
  | nan
  deriving DecidableEq, Repr

/-- The least number that is rounded to infinity. -/
def infinityFrom : ℕ := 2 ^ 1024 - 2 ^ 970

/-- The digits that `parseInt` reads after the sign. -/
def parseDigits (negative : Bool) (cs : List Char) : ParsedInt :=
  let digits := cs.takeWhile Char.isDigit
  if digits = [] then .nan
  else if Nat.ofDigitChars 10 digits 0 < infinityFrom then
    .finite ((if negative then -1 else 1) * (Nat.ofDigitChars 10 digits 0 : ℕ))
  else .infinite negative

/-- `Number.parseInt(s, 10)`. -/
def parseInt (s : String) : ParsedInt :=
  match s.toList.dropWhile isSpace with
  | '-' :: cs => parseDigits true cs
  | '+' :: cs => parseDigits false cs
  | cs => parseDigits false cs

theorem parseInt_toString (n : ℕ) :
    parseInt (toString n) = if n < infinityFrom then .finite n else .infinite false := by
  have hall : ∀ c ∈ Nat.toDigits 10 n, c.isDigit = true :=
    fun c hc => Nat.isDigit_of_mem_toDigits (by decide) (by decide) hc
  have hspace : (toString n).toList.dropWhile isSpace = Nat.toDigits 10 n := by
    have htext : (toString n).toList = Nat.toDigits 10 n := Nat.toList_repr
    rw [htext]
    exact dropWhile_of_plain fun c hc => plainChar_of_isDigit (hall c hc)
  have hread : parseDigits false (Nat.toDigits 10 n) =
      if n < infinityFrom then .finite n else .infinite false := by
    unfold parseDigits
    rw [List.takeWhile_eq_self_iff.mpr hall]
    simp only [Nat.toDigits_ne_nil, if_false, Nat.ofDigitChars_ten_toDigits, one_mul,
      Bool.false_eq_true]
  obtain ⟨c, cs, hdigits⟩ := List.exists_cons_of_ne_nil (Nat.toDigits_ne_nil (n := n) (b := 10))
  have hc : c.isDigit = true := hall c (by rw [hdigits]; exact List.mem_cons_self)
  unfold parseInt
  rw [hspace, ← hread, hdigits]
  split
  · next heq =>
    obtain ⟨rfl, _⟩ := List.cons.inj heq
    exact absurd hc (by decide)
  · next heq =>
    obtain ⟨rfl, _⟩ := List.cons.inj heq
    exact absurd hc (by decide)
  · rfl

end Js

namespace DpIntegrator

open Effects PostgresOrderSyncLogStore

/-! ## The endpoint -/

/-- `clampInt`. -/
def clampInt (raw : Option String) (fallback lo hi : ℤ) : ℤ :=
  match raw with
  | none => fallback
  | some raw =>
    match Js.parseInt raw with
    | .finite n => max lo (min hi n)
    | .infinite _ | .nan => fallback

/-- `Math.max(0, Number.parseInt(raw ?? '0', 10) || 0)`; `none` is infinity. -/
def parseOffset (raw : Option String) : Option ℕ :=
  match Js.parseInt (raw.getD "0") with
  | .finite n => some n.toNat
  | .infinite false => none
  | .infinite true | .nan => some 0

/-- Offsets from here on are rounded to a number that no `bigint` holds. -/
def offsetEnd : ℕ := 2 ^ 63 - 512

def OrderSyncLogStatus.text : OrderSyncLogStatus → String
  | .imported => "imported"
  | .parked => "parked"
  | .ignored => "ignored"

/-- The status that a parameter names, if it names one. -/
def statusOf? (param : Option String) : Option OrderSyncLogStatus :=
  [.imported, .parked, .ignored].find? fun status => param = some status.text

/-- What the database makes of a pattern and of a time. -/
structure ListingDb where
  ilike : (column pattern : String) → Bool
  timeText : ℤ → String

/-- The `WHERE` clauses: of the environment, and of the parameters that are there. -/
def listingClauses (db : ListingDb) (env : Environment) (query : String → Option String) :
    List (OrderSyncLogDb → Bool) :=
  let search := String.ofList (Js.trim ((query "search").getD "").toList)
  let pattern := "%" ++ search ++ "%"
  let finds (column : Option String) : Bool := column.any fun text => db.ilike text pattern
  [fun (row : OrderSyncLogDb) => decide (row.environment = env)] ++
    ((truthy (query "connection")).toList.map fun id (row : OrderSyncLogDb) =>
      decide (row.connectionId = id)) ++
    ((statusOf? (query "status")).toList.map fun status (row : OrderSyncLogDb) =>
      decide (row.status = status)) ++
    (if search = "" then []
    else [fun (row : OrderSyncLogDb) => finds row.shopifyOrderId || finds row.customerEmail ||
      finds row.nsInternalId || finds row.shopifyOrderName])

def listingMatches (db : ListingDb) (env : Environment) (query : String → Option String)
    (row : OrderSyncLogDb) : Bool :=
  (listingClauses db env query).all fun clause => clause row

structure RecentOrderRow where
  shopifyOrderId : String
  shopifyOrderName : Option String
  connectionId : String
  status : OrderSyncLogStatus
  customerEmail : Option String
  totalPrice : Option String
  currencyCode : Option String
  nsInternalId : Option String
  syncedAt : Option String
  updatedAt : String
  deriving DecidableEq

/-- The columns that are selected, as the answer names them. -/
def toRecentOrderRow (db : ListingDb) (row : OrderSyncLogDb) : RecentOrderRow where
  shopifyOrderId := row.shopifyOrderId
  shopifyOrderName := row.shopifyOrderName
  connectionId := row.connectionId
  status := row.status
  customerEmail := row.customerEmail
  totalPrice := row.totalPrice
  currencyCode := row.currencyCode
  nsInternalId := row.nsInternalId
  syncedAt := row.syncedAt.map db.timeText
  updatedAt := db.timeText row.updatedAt

structure AdminOrdersBody where
  rows : List RecentOrderRow
  nextOffset : Option ℕ
  total : ℕ

/-- The limit of a page. -/
def pageLimit (query : String → Option String) : ℕ := (clampInt (query "limit") 25 1 200).toNat

/-- The rows of a table that match, in an order in which the database may return them. -/
structure ListedBy (t : LedgerTable) (keep : OrderSyncLogDb → Bool)
    (listing : List OrderSyncLogDb) :
    Prop where
  rows : Sql.Enumerates t keep listing
  sorted : listing.Pairwise fun a b => listedAt b ≤ listedAt a

/-- `handleAdminOrders` on a table, where the second query returns `page`. -/
inductive AdminOrdersAnswers (db : ListingDb) (env : Environment) (t : LedgerTable)
    (query : String → Option String) : List OrderSyncLogDb → AdminOrdersBody → Prop
  | answered {listing : List OrderSyncLogDb} {offset : ℕ}
      (hlisting : ListedBy t (listingMatches db env query) listing)
      (hoffset : parseOffset (query "offset") = some offset) (hrange : offset < offsetEnd) :
      AdminOrdersAnswers db env t query (Paging.offsetPage listing offset (pageLimit query))
        { rows := (Paging.offsetPage listing offset (pageLimit query)).map (toRecentOrderRow db)
          nextOffset :=
            if offset + (Paging.offsetPage listing offset (pageLimit query)).length < listing.length
            then some (offset + (Paging.offsetPage listing offset (pageLimit query)).length)
            else none
          total := listing.length }

/-! ## The client -/

structure OrdersQuery where
  limit : Option ℕ := none
  offset : Option ℕ := none
  connectionId : Option String := none
  status : Option OrderSyncLogStatus := none
  search : Option String := none

/-- The parameters that `api.orders` sets. -/
def OrdersQuery.params (q : OrdersQuery) : List (String × String) :=
  (q.limit.toList.map fun n => ("limit", toString n)) ++
    (q.offset.toList.map fun n => ("offset", toString n)) ++
    ((truthy q.connectionId).toList.map fun id => ("connection", id)) ++
    (q.status.toList.map fun status => ("status", status.text)) ++
    ((truthy q.search).toList.map fun search => ("search", search))

/-- `searchParams.get(name)` of the request. -/
def OrdersQuery.get (q : OrdersQuery) (name : String) : Option String :=
  (q.params.find? fun param => param.1 = name).map Prod.snd

/-- The operator clicks on until there is no next page. Each request sees its own table. -/
inductive OrdersWalk (db : ListingDb) (env : Environment) (q : OrdersQuery) :
    ℕ → List LedgerTable → List (List OrderSyncLogDb) → List AdminOrdersBody → Prop
  | last {t : LedgerTable} {offset : ℕ} {page : List OrderSyncLogDb} {body : AdminOrdersBody}
      (h : AdminOrdersAnswers db env t ({ q with offset := some offset } : OrdersQuery).get page
      body)
      (hnext : body.nextOffset = none) : OrdersWalk db env q offset [t] [page] [body]
  | next {t : LedgerTable} {offset next : ℕ} {page : List OrderSyncLogDb} {body : AdminOrdersBody}
      {tables : List LedgerTable} {pages : List (List OrderSyncLogDb)}
      {bodies : List AdminOrdersBody}
      (h : AdminOrdersAnswers db env t ({ q with offset := some offset } : OrdersQuery).get page
      body)
      (hnext : body.nextOffset = some next) (hrest : OrdersWalk db env q next tables pages bodies) :
      OrdersWalk db env q offset (t :: tables) (page :: pages) (body :: bodies)

/-! ## Walks -/

section Walk

variable {db : ListingDb} {env : Environment} {q : OrdersQuery} {tables : List LedgerTable}
  {pages : List (List OrderSyncLogDb)} {bodies : List AdminOrdersBody} {offset : ℕ}

/-- The offset is read as it was written. -/
theorem parseOffset_toString (n : ℕ) :
    parseOffset (some (toString n)) = if n < Js.infinityFrom then some n else none := by
  unfold parseOffset
  rw [Option.getD_some, Js.parseInt_toString]
  by_cases h : n < Js.infinityFrom
  · rw [if_pos h, if_pos h]
    rfl
  · rw [if_neg h, if_neg h]

theorem pageLimit_pos (query : String → Option String) : 0 < pageLimit query := by
  unfold pageLimit clampInt
  split
  · decide
  · split
    · omega
    · decide
    · decide

/-- The offset of a request decides no other parameter. -/
theorem get_of_ne (offset : ℕ) {name : String} (h : name ≠ "offset") :
    ({ q with offset := some offset } : OrdersQuery).get name = q.get name := by
  have hnone (o : Option ℕ) :
      (o.toList.map fun n => ("offset", toString n)).find? (fun param => param.1 = name) =
        none := by
    cases o with
    | none => rfl
    | some n => simp [Ne.symm h]
  unfold OrdersQuery.get OrdersQuery.params
  simp only [List.find?_append, hnone]

theorem get_offset (offset : ℕ) :
    ({ q with offset := some offset } : OrdersQuery).get "offset" = some (toString offset) := by
  have hlimit : (q.limit.toList.map fun n => ("limit", toString n)).find?
      (fun param => param.1 = "offset") = none := by
    cases q.limit with
    | none => rfl
    | some n => simp
  unfold OrdersQuery.get OrdersQuery.params
  simp only [List.find?_append, hlimit]
  simp

theorem listingMatches_offset (offset : ℕ) :
    listingMatches db env ({ q with offset := some offset } : OrdersQuery).get =
      listingMatches db env q.get := by
  unfold listingMatches listingClauses
  rw [get_of_ne offset (by decide), get_of_ne offset (by decide), get_of_ne offset (by decide)]

theorem pageLimit_offset (offset : ℕ) :
    pageLimit ({ q with offset := some offset } : OrdersQuery).get = pageLimit q.get := by
  unfold pageLimit
  rw [get_of_ne offset (by decide)]

/-- An answer to a request of the client is a page of a listing. -/
theorem AdminOrdersAnswers.exists_listing {t : LedgerTable} {page : List OrderSyncLogDb}
    {body : AdminOrdersBody}
    (h : AdminOrdersAnswers db env t ({ q with offset := some offset } : OrdersQuery).get page
      body) :
    ∃ listing, ListedBy t (listingMatches db env q.get) listing ∧
      page = Paging.offsetPage listing offset (pageLimit q.get) ∧
      body.nextOffset = Paging.nextOffset listing offset (pageLimit q.get) ∧
      body.rows = page.map (toRecentOrderRow db) := by
  cases h with
  | @answered listing offset' hlisting hoffset hrange =>
    rw [listingMatches_offset] at hlisting
    rw [get_offset, parseOffset_toString] at hoffset
    obtain ⟨_, hoffset⟩ := Option.ite_none_right_eq_some.mp hoffset
    obtain rfl : offset = offset' := by simpa using hoffset
    rw [pageLimit_offset]
    exact ⟨listing, hlisting, rfl, rfl, rfl⟩

/-- A request of the client for a page of a listing is answered. -/
theorem ListedBy.answers {t : LedgerTable} {listing : List OrderSyncLogDb}
    (h : ListedBy t (listingMatches db env q.get) listing) (hrange : offset < offsetEnd) :
    ∃ body, AdminOrdersAnswers db env t ({ q with offset := some offset } : OrdersQuery).get
        (Paging.offsetPage listing offset (pageLimit q.get)) body ∧
      body.nextOffset = Paging.nextOffset listing offset (pageLimit q.get) := by
  rw [← @listingMatches_offset db env q offset] at h
  have hfinite : offset < Js.infinityFrom := lt_of_lt_of_le hrange (by decide +kernel)
  have hoffset : parseOffset (({ q with offset := some offset } : OrdersQuery).get "offset") =
      some offset := by
    rw [get_offset, parseOffset_toString, if_pos hfinite]
  rw [← @pageLimit_offset q offset]
  exact ⟨_, .answered h hoffset hrange, rfl⟩

/-- The pages of an operator are those of a walk by position. -/
theorem OrdersWalk.exists_listings (h : OrdersWalk db env q offset tables pages bodies) :
    ∃ listings, Paging.OffsetWalk (pageLimit q.get) offset listings pages ∧
      List.Forall₂ (fun t listing => ListedBy t (listingMatches db env q.get) listing) tables
        listings ∧
      bodies.map AdminOrdersBody.rows = pages.map (List.map (toRecentOrderRow db)) := by
  induction h with
  | last h hnext =>
    obtain ⟨listing, hlisting, rfl, hnext', hrows⟩ := h.exists_listing
    rw [hnext'] at hnext
    exact ⟨[listing], .last hnext, .cons hlisting .nil, by simp [hrows]⟩
  | next h hnext _ ih =>
    obtain ⟨listing, hlisting, rfl, hnext', hrows⟩ := h.exists_listing
    obtain ⟨listings, hwalk, hlistings, hbodies⟩ := ih
    rw [hnext'] at hnext
    exact ⟨listing :: listings, .more hnext hwalk, .cons hlisting hlistings,
      by simp [hrows, hbodies]⟩

/-- An operator can read any walk by position through one table that is not too long. -/
theorem exists_ordersWalk {t : LedgerTable} {listings : List (List OrderSyncLogDb)}
    (hwalk : Paging.OffsetWalk (pageLimit q.get) offset listings pages)
    (hlistings : ∀ listing ∈ listings, ListedBy t (listingMatches db env q.get) listing)
    (hsize : ∀ listing ∈ listings, listing.length ≤ offsetEnd) (hrange : offset < offsetEnd) :
    ∃ tables bodies, (∀ t' ∈ tables, t' = t) ∧ OrdersWalk db env q offset tables pages bodies := by
  induction hwalk with
  | last hnext =>
    obtain ⟨body, hanswers, hbody⟩ := (hlistings _ List.mem_cons_self).answers hrange
    exact ⟨[t], [body], by simp, .last hanswers (hbody.trans hnext)⟩
  | @more listing listings pages offset next hnext hrest ih =>
    obtain ⟨body, hanswers, hbody⟩ := (hlistings listing List.mem_cons_self).answers hrange
    have hlength := hsize listing List.mem_cons_self
    have hnext' := hnext
    unfold Paging.nextOffset at hnext'
    obtain ⟨hlt, hnext'⟩ := Option.ite_none_right_eq_some.mp hnext'
    have hnextRange : next < offsetEnd := by
      have heq := Option.some.inj hnext'
      omega
    obtain ⟨tables, bodies, hsame, hwalk'⟩ :=
      ih (fun l hl => hlistings l (List.mem_cons_of_mem _ hl))
        (fun l hl => hsize l (List.mem_cons_of_mem _ hl)) hnextRange
    exact ⟨t :: tables, body :: bodies, List.forall_mem_cons.mpr ⟨rfl, hsame⟩,
      .next hanswers (hbody.trans hnext) hwalk'⟩

end Walk

/-! ## A ledger that stays as it is -/

theorem exists_left_of_mem {α β : Type} {R : α → β → Prop} {as : List α} {bs : List β}
    (h : List.Forall₂ R as bs) {b : β} (hb : b ∈ bs) : ∃ a ∈ as, R a b := by
  induction h with
  | nil => cases hb
  | @cons a c as bs hr _ ih =>
    rcases List.mem_cons.mp hb with rfl | hb
    · exact ⟨a, List.mem_cons_self, hr⟩
    · obtain ⟨a', ha', hr'⟩ := ih hb
      exact ⟨a', List.mem_cons_of_mem a ha', hr'⟩

/-- The rows of a table are under the keys that they name. -/
def Keyed (t : LedgerTable) : Prop := ∀ key row, t key = some row → orderKey row = key

theorem listedBy_iff {t : LedgerTable} {keep : OrderSyncLogDb → Bool}
    {listing listing' : List OrderSyncLogDb} (hkeyed : Keyed t) (h : ListedBy t keep listing) :
    ListedBy t keep listing' ↔ Paging.Lists listedAt listing listing' := by
  constructor
  · exact fun h' => ⟨h'.rows.perm h.rows, h'.sorted⟩
  · intro h'
    refine ⟨(Sql.enumerates_iff hkeyed).mpr ?_, h'.sorted⟩
    obtain ⟨hnodup, hmem⟩ := (Sql.enumerates_iff hkeyed).mp h.rows
    refine ⟨(h'.perm.map orderKey).nodup_iff.mpr hnodup, fun row => ?_⟩
    rw [h'.perm.mem_iff]
    exact hmem row

/-- When the pages of an operator have every row once. The ledger is not written in between, and
each request may order rows of one time as it likes. For every filter and search, all walks from
the first page on list each matching row exactly once if and only if no page ends between two rows
of one time. -/
theorem orders_pages_iff {db : ListingDb} {env : Environment} {q : OrdersQuery} {t : LedgerTable}
    {listing : List OrderSyncLogDb} (hkeyed : Keyed t)
    (hlisting : ListedBy t (listingMatches db env q.get) listing)
    (hsize : listing.length ≤ offsetEnd) :
    (∀ tables pages bodies, (∀ t' ∈ tables, t' = t) → OrdersWalk db env q 0 tables pages bodies →
      pages.flatten.Perm listing) ↔
      ∀ k, ∀ a ∈ listing.take (k * pageLimit q.get), ∀ b ∈ listing.drop (k * pageLimit q.get),
        listedAt b < listedAt a := by
  have hnodup : listing.Nodup := ((Sql.enumerates_iff hkeyed).mp hlisting.rows).1.of_map
  have hself : Paging.Lists listedAt listing listing := ⟨.refl _, hlisting.sorted⟩
  refine Iff.trans ?_ (Paging.flatten_perm_iff (pageLimit_pos q.get) hnodup hself)
  constructor
  · intro hall listings pages hlistings hwalk
    have hlisted : ∀ l ∈ listings, ListedBy t (listingMatches db env q.get) l :=
      fun l hl => (listedBy_iff hkeyed hlisting).mpr (hlistings l hl)
    have hlength : ∀ l ∈ listings, l.length ≤ offsetEnd := by
      intro l hl
      rw [(hlistings l hl).perm.length_eq]
      exact hsize
    obtain ⟨tables, bodies, hsame, hwalk'⟩ :=
      exists_ordersWalk hwalk hlisted hlength (by decide +kernel)
    exact hall tables pages bodies hsame hwalk'
  · intro hall tables pages bodies hsame hwalk
    obtain ⟨listings, hwalk', hlisted, _⟩ := hwalk.exists_listings
    refine hall listings pages (fun l hl => ?_) hwalk'
    obtain ⟨t', ht', hl'⟩ := exists_left_of_mem hlisted hl
    rw [hsame t' ht'] at hl'
    exact (listedBy_iff hkeyed hlisting).mp hl'

/-! ## A ledger that is written while it is read -/

/-- The row of an order stays, and is the only one of its time. -/
structure Untouched (key : OrderKey) (row : OrderSyncLogDb) (t : LedgerTable) : Prop where
  keyed : Keyed t
  there : t key = some row
  untied : ∀ key' row', t key' = some row' → listedAt row' = listedAt row → key' = key

/-- Upserts of other orders, none of which puts its row at or behind the time `v`: the database
runs them later, and they were synced later, or keep the time at which their row was synced. -/
inductive LaterWrites (decimal : String → String) (key : OrderKey) (v : ℤ) :
    LedgerTable → LedgerTable → Prop
  | refl (t : LedgerTable) : LaterWrites decimal key v t t
  | write {t t' t'' : LedgerTable} {input : OrderSyncLogInput} {res : Except Thrown OrderSyncLog}
      {tr : List (Event (Sql.Statement Moment OrderKey OrderSyncLogDb)
      fun _ => List OrderSyncLogDb)}
      (hother : input.orderKey ≠ key) (hexec : Exec Sql.Step (upsert decimal input).run t tr res t')
      (hnow : ∀ row ∈ t' input.orderKey, v < row.updatedAt)
      (hsynced : ∀ s, input.syncedAt = some s →
        v < s ∨ ∃ row ∈ t input.orderKey, row.syncedAt = some s)
      (hrest : LaterWrites decimal key v t' t'') : LaterWrites decimal key v t t''

/-- No row disappears, changes its connection, or falls behind the time `v` or onto it. -/
def KeepsAhead (v : ℤ) (t t' : LedgerTable) : Prop :=
  (∀ key row, t key = some row → ∃ row', t' key = some row' ∧
    (v < listedAt row → v < listedAt row')) ∧
  ∀ key row', t' key = some row' → listedAt row' = v → ∃ row, t key = some row ∧ listedAt row = v

section Writes

variable {decimal : String → String} {key : OrderKey} {v : ℤ} {t t' : LedgerTable}
  {row : OrderSyncLogDb}

/-- A row that is written keeps its time, or comes ahead. -/
theorem listedAt_written {input : OrderSyncLogInput} {m : Moment} {old : Option OrderSyncLogDb}
    (hnow : v < m.now)
    (hsynced : ∀ s, input.syncedAt = some s → v < s ∨ ∃ row ∈ old, row.syncedAt = some s) :
    v < listedAt (written decimal input m old) ∨
      ∃ row ∈ old, listedAt (written decimal input m old) = listedAt row := by
  have hupdated : (written decimal input m old).updatedAt = m.now := by cases old <;> rfl
  unfold listedAt
  rw [written_syncedAt, hupdated]
  cases hinput : input.syncedAt with
  | some s =>
    rcases hsynced s hinput with hlater | ⟨row, hrow, hs⟩
    · exact .inl hlater
    · exact .inr ⟨row, hrow, by rw [hs]; rfl⟩
  | none =>
    cases old with
    | none => exact .inl hnow
    | some row =>
      cases hs : row.syncedAt with
      | none => exact .inl (by simpa [hs] using hnow)
      | some s => exact .inr ⟨row, rfl, by simp [hs]⟩

theorem KeepsAhead.trans {t'' : LedgerTable} (h : KeepsAhead v t t') (h' : KeepsAhead v t' t'') :
    KeepsAhead v t t'' := by
  constructor
  · intro key row hrow
    obtain ⟨row', hrow', hahead⟩ := h.1 key row hrow
    obtain ⟨row'', hrow'', hahead'⟩ := h'.1 key row' hrow'
    exact ⟨row'', hrow'', fun hlt => hahead' (hahead hlt)⟩
  · intro key row'' hrow'' heq
    obtain ⟨row', hrow', heq'⟩ := h'.2 key row'' hrow'' heq
    exact h.2 key row' hrow' heq'

/-- What later writes leave: the row of the order, the keys, and every row that is ahead. -/
theorem LaterWrites.keeps (h : LaterWrites decimal key v t t') (hkeyed : Keyed t) :
    t' key = t key ∧ Keyed t' ∧ KeepsAhead v t t' := by
  induction h with
  | refl t =>
    exact ⟨rfl, hkeyed, fun key row hrow => ⟨row, hrow, id⟩,
      fun key row hrow heq => ⟨row, hrow, heq⟩⟩
  | @write t t' t'' input res tr hother hexec hnow hsynced hrest ih =>
    obtain ⟨m, _, rfl⟩ := upsert_exec hexec
    have hmoment : v < m.now := by
      have hrow := hnow _ (Function.update_self ..)
      have hupdated : (written decimal input m (t input.orderKey)).updatedAt = m.now := by
        cases t input.orderKey <;> rfl
      rwa [hupdated] at hrow
    have hplace := @listedAt_written decimal v input m _ hmoment hsynced
    have hkeyed' : Keyed (Function.update t input.orderKey
        (some (written decimal input m (t input.orderKey)))) := by
      intro key' row' hrow'
      by_cases hkey : key' = input.orderKey
      · subst hkey
        rw [Function.update_self] at hrow'
        rw [← Option.some.inj hrow']
        exact orderKey_written fun row hrow => hkeyed _ row hrow
      · rw [Function.update_of_ne hkey] at hrow'
        exact hkeyed key' row' hrow'
    have hahead : KeepsAhead v t (Function.update t input.orderKey
        (some (written decimal input m (t input.orderKey)))) := by
      constructor
      · intro key' row' hrow'
        by_cases hkey : key' = input.orderKey
        · subst hkey
          refine ⟨_, Function.update_self .., fun hlt => ?_⟩
          rcases hplace with hlater | ⟨old, hold, heq⟩
          · exact hlater
          · rw [hrow'] at hold
            rw [heq, ← Option.some.inj hold]
            exact hlt
        · exact ⟨row', by rwa [Function.update_of_ne hkey], id⟩
      · intro key' row' hrow' heq
        by_cases hkey : key' = input.orderKey
        · subst hkey
          rw [Function.update_self] at hrow'
          rw [← Option.some.inj hrow'] at heq
          rcases hplace with hlater | ⟨old, hold, hsame⟩
          · omega
          · exact ⟨old, hold, by rw [← hsame, heq]⟩
        · rw [Function.update_of_ne hkey] at hrow'
          exact ⟨row', hrow', heq⟩
    obtain ⟨hthere, hkeyed'', hahead'⟩ := ih hkeyed'
    rw [Function.update_of_ne hother.symm] at hthere
    exact ⟨hthere, hkeyed'', hahead.trans hahead'⟩

theorem Untouched.after (h : Untouched key row t)
    (hwrites : LaterWrites decimal key (listedAt row) t t') :
    Untouched key row t' := by
  obtain ⟨hthere, hkeyed, _, hties⟩ := hwrites.keeps h.keyed
  refine ⟨hkeyed, hthere.trans h.there, fun key' row' hrow' heq => ?_⟩
  obtain ⟨old, hold, heq'⟩ := hties key' row' hrow' heq
  exact h.untied key' old hold heq'

end Writes

/-- Without a status and a search, a row matches by its environment and its connection. -/
def MatchesAll (db : ListingDb) (env : Environment) (query : String → Option String) : Prop :=
  ∀ row row', row.environment = row'.environment → row.connectionId = row'.connectionId →
    listingMatches db env query row = listingMatches db env query row'

section Reading

variable {db : ListingDb} {env : Environment} {q : OrdersQuery} {decimal : String → String}
  {key : OrderKey} {row : OrderSyncLogDb} {tables : List LedgerTable}
  {listings pages : List (List OrderSyncLogDb)} {bodies : List AdminOrdersBody}

theorem matchesAll_of_unfiltered (hstatus : q.status = none) (hsearch : truthy q.search = none) :
    MatchesAll db env q.get := by
  have hnoStatus : q.get "status" = none := by
    unfold OrdersQuery.get OrdersQuery.params
    rw [hstatus, hsearch]
    cases q.limit <;> cases q.offset <;> cases truthy q.connectionId <;> simp
  have hnoSearch : q.get "search" = none := by
    unfold OrdersQuery.get OrdersQuery.params
    rw [hstatus, hsearch]
    cases q.limit <;> cases q.offset <;> cases truthy q.connectionId <;> simp
  intro row row' henv hconnection
  unfold listingMatches listingClauses
  rw [hnoStatus, hnoSearch]
  cases truthy (q.get "connection") with
  | none => simp [statusOf?, Js.trim, henv]
  | some id => simp [statusOf?, Js.trim, henv, hconnection]

/-- The place of the row in a listing. -/
theorem ListedBy.idxOf_eq {t : LedgerTable} {listing : List OrderSyncLogDb}
    (h : ListedBy t (listingMatches db env q.get) listing) (huntouched : Untouched key row t)
    (hmatches : listingMatches db env q.get row = true) :
    row ∈ listing ∧ listing.idxOf row = listing.countP fun b => listedAt row < listedAt b := by
  obtain ⟨_, hmem⟩ := (Sql.enumerates_iff huntouched.keyed).mp h.rows
  have hkey := huntouched.keyed key row huntouched.there
  have hrow : row ∈ listing := (hmem row).mpr ⟨hkey.symm ▸ huntouched.there, hmatches⟩
  refine ⟨hrow, Paging.idxOf_eq_countP h.sorted hrow fun b hb heq => ?_⟩
  have hb := ((hmem b).mp hb).1
  have hsame := huntouched.untied _ b hb heq
  rw [hsame, huntouched.there] at hb
  exact (Option.some.inj hb).symm

theorem place_grows {t t' : LedgerTable} {listing listing' : List OrderSyncLogDb}
    (hall : MatchesAll db env q.get) (hmatches : listingMatches db env q.get row = true)
    (h : ListedBy t (listingMatches db env q.get) listing)
    (h' : ListedBy t' (listingMatches db env q.get) listing') (huntouched : Untouched key row t)
    (hwrites : LaterWrites decimal key (listedAt row) t t') :
    listing.idxOf row ≤ listing'.idxOf row := by
  rw [(h.idxOf_eq huntouched hmatches).2, (h'.idxOf_eq (huntouched.after hwrites) hmatches).2]
  obtain ⟨_, hkeyed', hahead, _⟩ := hwrites.keeps huntouched.keyed
  refine h.rows.countP_le h'.rows fun key' row₁ hrow₁ hmatch hlater => ?_
  obtain ⟨row₂, hrow₂, hlater'⟩ := hahead key' row₁ hrow₁
  have hkey : orderKey row₂ = orderKey row₁ :=
    (hkeyed' key' row₂ hrow₂).trans (huntouched.keyed key' row₁ hrow₁).symm
  refine ⟨row₂, hrow₂, ?_, decide_eq_true (hlater' (of_decide_eq_true hlater))⟩
  rw [hall row₂ row₁ (congrArg OrderKey.environment hkey) (congrArg OrderKey.connectionId hkey)]
  exact hmatch

theorem places_grow (hall : MatchesAll db env q.get)
    (hmatches : listingMatches db env q.get row = true)
    (hlistings : List.Forall₂ (fun t listing => ListedBy t (listingMatches db env q.get) listing)
      tables listings)
    (hwrites : tables.IsChain (LaterWrites decimal key (listedAt row)))
    (hfirst : ∀ t ∈ tables.head?, Untouched key row t) :
    (∀ listing ∈ listings, row ∈ listing) ∧
      listings.IsChain fun l l' => l.idxOf row ≤ l'.idxOf row := by
  induction hlistings with
  | nil => exact ⟨by simp, .nil⟩
  | @cons t listing tables listings h hrest ih =>
    have huntouched := hfirst t rfl
    have hrow := (h.idxOf_eq huntouched hmatches).1
    cases hrest with
    | nil => exact ⟨by simpa using hrow, .singleton _⟩
    | @cons t' listing' tables listings h' hrest =>
      obtain ⟨hstep, hchain⟩ := List.isChain_cons_cons.mp hwrites
      have hnext : ∀ t₁ ∈ (t' :: tables).head?, Untouched key row t₁ := by
        rintro t₁ ⟨⟩
        exact huntouched.after hstep
      obtain ⟨hmem, hplaces⟩ := ih hchain hnext
      refine ⟨List.forall_mem_cons.mpr ⟨hrow, hmem⟩, List.isChain_cons_cons.mpr ⟨?_, hplaces⟩⟩
      exact place_grows hall hmatches h h' huntouched hstep

/-- Clicking on reaches every order that is not written meanwhile. Deliveries may write any other
orders between the requests of an operator who lists a connection, or all connections: as long as
each write comes later than the row of the order, or keeps the time at which its own row was
synced, the row is on one of the pages, although rows ahead of it move. -/
theorem orders_next_reaches (hstatus : q.status = none) (hsearch : truthy q.search = none)
    (hwalk : OrdersWalk db env q 0 tables pages bodies)
    (hmatches : listingMatches db env q.get row = true)
    (hfirst : ∀ t ∈ tables.head?, Untouched key row t)
    (hwrites : tables.IsChain (LaterWrites decimal key (listedAt row))) :
    ∃ body ∈ bodies, toRecentOrderRow db row ∈ body.rows := by
  obtain ⟨listings, hpages, hlistings, hbodies⟩ := hwalk.exists_listings
  obtain ⟨hmem, hplaces⟩ :=
    places_grow (matchesAll_of_unfiltered hstatus hsearch) hmatches hlistings hwrites hfirst
  obtain ⟨page, hpage, hrow⟩ := hpages.exists_mem (pageLimit_pos q.get) hmem
    (fun listing _ => Nat.zero_le _) hplaces
  have hlisted : page.map (toRecentOrderRow db) ∈ bodies.map AdminOrdersBody.rows := by
    rw [hbodies]
    exact List.mem_map_of_mem hpage
  obtain ⟨body, hbody, heq⟩ := List.mem_map.mp hlisted
  exact ⟨body, hbody, by rw [heq]; exact List.mem_map_of_mem hrow⟩

end Reading

/-! ## A small ledger -/

/-- The table with a list of rows. -/
def tableOf (rows : List OrderSyncLogDb) : LedgerTable :=
  fun key => rows.find? fun row => orderKey row = key

theorem tableOf_cons (row : OrderSyncLogDb) (rows : List OrderSyncLogDb) :
    tableOf (row :: rows) = Function.update (tableOf rows) (orderKey row) (some row) := by
  funext key
  by_cases h : orderKey row = key
  · subst h
    rw [Function.update_self, tableOf, List.find?_cons_of_pos (by simp)]
  · rw [Function.update_of_ne (Ne.symm h), tableOf, List.find?_cons_of_neg (by simpa using h)]
    rfl

theorem keyed_tableOf (rows : List OrderSyncLogDb) : Keyed (tableOf rows) := by
  intro key row hrow
  simpa using List.find?_some hrow

theorem listedBy_tableOf {rows : List OrderSyncLogDb} {keep : OrderSyncLogDb → Bool}
    (hnodup : (rows.map orderKey).Nodup) (hkeep : ∀ row ∈ rows, keep row = true)
    (hsorted : rows.Pairwise fun a b => listedAt b ≤ listedAt a) :
    ListedBy (tableOf rows) keep rows := by
  refine ⟨(Sql.enumerates_iff (keyed_tableOf rows)).mpr ⟨hnodup, fun row => ?_⟩, hsorted⟩
  constructor
  · intro hrow
    refine ⟨?_, hkeep row hrow⟩
    cases hfind : tableOf rows (orderKey row) with
    | none =>
      have hnone := List.find?_eq_none.mp hfind row hrow
      exact absurd (decide_eq_true rfl) hnone
    | some found =>
      have hkey := keyed_tableOf rows _ found hfind
      have hfound := List.mem_of_find?_eq_some hfind
      rw [List.inj_on_of_nodup_map hnodup hfound hrow hkey]
  · rintro ⟨hfind, _⟩
    exact List.mem_of_find?_eq_some hfind

namespace SmallLedger

/-- A parked order and its row. -/
def parked (orderId : String) : OrderSyncLogInput :=
  { parkedOrder with
    shopifyOrderGid := "gid://shopify/Order/" ++ orderId
    shopifyOrderId := orderId }

def row (orderId : String) (now : ℤ) : OrderSyncLogDb := insertedRow id (parked orderId) ⟨now, 1⟩

def db : ListingDb := { ilike := fun _ _ => false, timeText := toString }

/-- One order on each page. -/
def onePerPage : OrdersQuery := { limit := some 1 }

theorem limit_eq : pageLimit onePerPage.get = 1 := by decide +kernel

/-- Two orders of one time, one on each page: some walk does not list each of them once. -/
theorem tied_pages : ¬∀ tables pages bodies,
    (∀ t' ∈ tables, t' = tableOf [row "1" 100, row "2" 100]) →
    OrdersWalk db .prod onePerPage 0 tables pages bodies →
      pages.flatten.Perm [row "1" 100, row "2" 100] := by
  have hlisting : ListedBy (tableOf [row "1" 100, row "2" 100])
      (listingMatches db .prod onePerPage.get) [row "1" 100, row "2" 100] :=
    listedBy_tableOf (by decide +kernel) (by decide +kernel) (by decide +kernel)
  intro hall
  have htimes := (orders_pages_iff (keyed_tableOf _) hlisting (by decide +kernel)).mp hall 1
  rw [limit_eq] at htimes
  have hlt := htimes (row "1" 100) (by simp) (row "2" 100) (by simp)
  exact absurd hlt (by decide)

/-- An order is parked while an operator reads the first page; the last order is still reached. -/
theorem reached : ∃ tables pages bodies, OrdersWalk db .prod onePerPage 0 tables pages bodies ∧
    tables = [tableOf [row "1" 200, row "2" 100],
      tableOf [row "3" 300, row "1" 200, row "2" 100],
      tableOf [row "3" 300, row "1" 200, row "2" 100]] ∧
    ∃ body ∈ bodies, toRecentOrderRow db (row "2" 100) ∈ body.rows := by
  have hfirst : ListedBy (tableOf [row "1" 200, row "2" 100])
      (listingMatches db .prod onePerPage.get) [row "1" 200, row "2" 100] :=
    listedBy_tableOf (by decide +kernel) (by decide +kernel) (by decide +kernel)
  have hsecond : ListedBy (tableOf [row "3" 300, row "1" 200, row "2" 100])
      (listingMatches db .prod onePerPage.get) [row "3" 300, row "1" 200, row "2" 100] :=
    listedBy_tableOf (by decide +kernel) (by decide +kernel) (by decide +kernel)
  obtain ⟨body₁, hbody₁, hnext₁⟩ := hfirst.answers (by decide +kernel : 0 < offsetEnd)
  obtain ⟨body₂, hbody₂, hnext₂⟩ := hsecond.answers (by decide +kernel : 1 < offsetEnd)
  obtain ⟨body₃, hbody₃, hnext₃⟩ := hsecond.answers (by decide +kernel : 2 < offsetEnd)
  rw [limit_eq] at hnext₁ hnext₂ hnext₃
  have hwalk := OrdersWalk.next hbody₁ hnext₁ (.next hbody₂ hnext₂ (.last hbody₃ hnext₃))
  have hwrites : LaterWrites id (orderKey (row "2" 100)) 100 (tableOf [row "1" 200, row "2" 100])
      (tableOf [row "3" 300, row "1" 200, row "2" 100]) := by
    obtain ⟨res, tr, hexec⟩ :=
      exists_exec_upsert id (parked "3") (tableOf [row "1" 200, row "2" 100]) ⟨300, 1⟩
    rw [tableOf_cons (row "3" 300)]
    refine .write (by decide +kernel) hexec ?_ ?_ (.refl _)
    · rintro written ⟨⟩
      decide +kernel
    · rintro s ⟨⟩
  have huntouched : Untouched (orderKey (row "2" 100)) (row "2" 100)
      (tableOf [row "1" 200, row "2" 100]) := by
    refine ⟨keyed_tableOf _, by decide +kernel, fun key' row' hrow' heq => ?_⟩
    have hmem := List.mem_of_find?_eq_some hrow'
    have hkey := keyed_tableOf _ key' row' hrow'
    rcases List.mem_cons.mp hmem with rfl | hmem
    · exact absurd heq (by decide)
    · rw [← hkey, List.mem_singleton.mp hmem]
  refine ⟨_, _, _, hwalk, rfl, ?_⟩
  refine orders_next_reaches rfl rfl hwalk (by decide +kernel) ?_
    (.cons_cons hwrites (.cons_cons (.refl _) (.singleton _)))
  rintro t ⟨⟩
  exact huntouched

end SmallLedger

end DpIntegrator
