import DpIntegrator.Postgres.OrderSyncLogStore
import Mathlib.Data.List.Sort

/-!
# Where the two ledgers agree

The same upserts on the ledger in memory and on the table. In memory the last upsert under a
key is the row; the table keeps some columns of the upserts before it, and rewrites amounts.
A listing of the table has a limit of its own, and orders rows of equal time as it likes.
-/

namespace DpIntegrator

open Effects Sql PostgresOrderSyncLogStore

variable {decimal : String → String}

/-! ## Sequences of upserts -/

/-- The dates of an input are dates. -/
structure OrderSyncLogInput.Fits (input : OrderSyncLogInput) : Prop where
  shopifyCreatedAt : input.shopifyCreatedAt ≠ some none
  shopifyProcessedAt : input.shopifyProcessedAt ≠ some none
  shopifyUpdatedAt : input.shopifyUpdatedAt ≠ some none

/-- The same upserts on both stores, each with a clock of its own. -/
inductive Upserts (decimal : String → String) :
    List OrderSyncLogInput → InMemoryOrderSyncLogStore → LedgerTable → Prop
  | start : Upserts decimal [] .empty fun _ => none
  | upsert {inputs : List OrderSyncLogInput} {memory : InMemoryOrderSyncLogStore} {t : LedgerTable}
      (h : Upserts decimal inputs memory t) (input : OrderSyncLogInput) (hfits : input.Fits) (now : ℤ)
      {res : Except Thrown OrderSyncLog} {t' : LedgerTable}
      {tr : List (Event (Statement Moment OrderKey OrderSyncLogDb) fun _ => List OrderSyncLogDb)}
      (hexec : Exec Sql.Step (upsert decimal input).run t tr res t') :
      Upserts decimal (inputs ++ [input]) (memory.upsert input now) t'

/-- A row without its id and its times. -/
abbrev OrderSyncLog.content (row : OrderSyncLog) : OrderSyncLogInput := row.toOrderSyncLogInput

/-- The upserts of one order, oldest first, that led to its row of the table. -/
inductive Written (decimal : String → String) (key : OrderKey) :
    List OrderSyncLogInput → Option OrderSyncLogDb → Prop
  | start : Written decimal key [] none
  | upsert {inputs : List OrderSyncLogInput} {old : Option OrderSyncLogDb}
      (h : Written decimal key inputs old) (input : OrderSyncLogInput) (hkey : input.orderKey = key)
      (hfits : input.Fits) (m : Moment) :
      Written decimal key (inputs ++ [input]) (some (written decimal input m old))

namespace Written

variable {key : OrderKey} {inputs : List OrderSyncLogInput} {row : Option OrderSyncLogDb}

theorem orderKey_eq (h : Written decimal key inputs row) : ∀ found ∈ row, orderKey found = key := by
  induction h with
  | start => simp
  | upsert h input hkey _ m ih =>
    intro found hfound
    rw [← Option.some.inj hfound, orderKey_written, hkey]
    rwa [hkey]

/-- A column that is kept where the new value is absent is filled if one of the upserts
filled it. -/
theorem isSome_iff {β : Type} {column : OrderSyncLogDb → Option β}
    {field : OrderSyncLogInput → Option β}
    (hcolumn : ∀ input m old, column (written decimal input m old) =
      (field input).or (old.bind column))
    (h : Written decimal key inputs row) :
    (row.bind column).isSome ↔ ∃ input ∈ inputs, (field input).isSome := by
  induction h with
  | start => simp
  | upsert h input _ _ m ih =>
    rw [Option.bind_some, hcolumn, Option.isSome_or, Bool.or_eq_true, ih]
    simp [or_and_right, exists_or, or_comm]

/-- The attempt count is the largest one of the upserts. -/
theorem attemptCount_le_iff (h : Written decimal key inputs row) (n : ℕ) :
    row.elim 0 (·.attemptCount) ≤ n ↔ ∀ input ∈ inputs, input.attemptCount.getD 0 ≤ n := by
  induction h with
  | start => simp
  | upsert h input _ _ m ih =>
    rw [Option.elim_some, written_attemptCount, Nat.max_le, ih]
    simp [or_imp, forall_and]

end Written

/-- Each row of the table comes from the upserts of its order. -/
theorem Upserts.row_written {inputs : List OrderSyncLogInput} {memory : InMemoryOrderSyncLogStore}
    {t : LedgerTable} (h : Upserts decimal inputs memory t) (key : OrderKey) :
    Written decimal key (inputs.filter (·.orderKey = key)) (t key) := by
  induction h with
  | start => exact .start
  | upsert h input hfits now hexec ih =>
    obtain ⟨m, _, rfl⟩ := upsert_exec hexec
    rw [List.filter_append]
    by_cases hkey : input.orderKey = key
    · subst hkey
      rw [Function.update_self]
      simpa using ih.upsert input rfl hfits m
    · rw [Function.update_of_ne (Ne.symm hkey)]
      simpa [hkey] using ih

/-! ## The row of one order -/

/-- What an upsert must carry, given the earlier upserts of its order, for the table to hold
the same row as memory. -/
structure Carries (decimal : String → String) (earlier : List OrderSyncLogInput)
    (input : OrderSyncLogInput) : Prop where
  nsTranId : (∃ old ∈ earlier, old.nsTranId.isSome) → input.nsTranId.isSome
  syncedAt : (∃ old ∈ earlier, old.syncedAt.isSome) → input.syncedAt.isSome
  attemptCount : ∃ n, input.attemptCount = some n ∧ ∀ old ∈ earlier, old.attemptCount.getD 0 ≤ n
  lastDeliveryCount : (∃ old ∈ earlier, old.lastDeliveryCount.isSome) → input.lastDeliveryCount.isSome
  lastOutboundPayloadUri : (∃ old ∈ earlier, old.lastOutboundPayloadUri.isSome) →
    input.lastOutboundPayloadUri.isSome
  lastInboundEnvelopeUri : (∃ old ∈ earlier, old.lastInboundEnvelopeUri.isSome) →
    input.lastInboundEnvelopeUri.isSome
  amounts : ∀ amount ∈ [input.totalPrice, input.subtotalPrice, input.totalTax, input.totalDiscounts,
    input.totalShipping], amount.map decimal = amount

theorem or_eq_self_iff {β : Type} {new old : Option β} :
    new.or old = new ↔ (old.isSome → new.isSome) := by
  cases new <;> cases old <;> simp

theorem some_max_eq_iff {n : ℕ} {count : Option ℕ} :
    some (max n (count.getD 0)) = count ↔ ∃ k, count = some k ∧ n ≤ k := by
  cases count with
  | none => simp
  | some k => simp

theorem map_some_join {date : Option (Option ℤ)} (h : date ≠ some none) : date.join.map some = date := by
  obtain _ | _ | d := date
  · rfl
  · exact absurd rfl h
  · rfl

/-- The row that the last upsert leaves is that upsert if and only if it carries what the
earlier ones left. -/
theorem Written.content_eq_iff {key : OrderKey} {earlier : List OrderSyncLogInput}
    {old : Option OrderSyncLogDb} (h : Written decimal key earlier old) {input : OrderSyncLogInput}
    (hkey : input.orderKey = key) (hfits : input.Fits) (m : Moment) :
    (written decimal input m old).toRow.content = input ↔ Carries decimal earlier input := by
  have hold : ∀ row ∈ old, orderKey row = input.orderKey := hkey ▸ h.orderKey_eq
  have hnsTranId : (old.bind (·.nsTranId)).isSome ↔ ∃ input ∈ earlier, input.nsTranId.isSome :=
    h.isSome_iff fun _ _ _ => written_nsTranId
  have hsyncedAt : (old.bind (·.syncedAt)).isSome ↔ ∃ input ∈ earlier, input.syncedAt.isSome :=
    h.isSome_iff fun _ _ _ => written_syncedAt
  have hdelivery : (old.bind (·.lastDeliveryCount)).isSome ↔
      ∃ input ∈ earlier, input.lastDeliveryCount.isSome :=
    h.isSome_iff fun _ _ _ => written_lastDeliveryCount
  have hpayload : (old.bind (·.lastOutboundPayloadUri)).isSome ↔
      ∃ input ∈ earlier, input.lastOutboundPayloadUri.isSome :=
    h.isSome_iff fun _ _ _ => written_lastOutboundPayloadUri
  have henvelope : (old.bind (·.lastInboundEnvelopeUri)).isSome ↔
      ∃ input ∈ earlier, input.lastInboundEnvelopeUri.isSome :=
    h.isSome_iff fun _ _ _ => written_lastInboundEnvelopeUri
  rw [OrderSyncLog.content, toRow_written hold]
  constructor
  · intro heq
    have hfield {β : Type} (f : OrderSyncLogInput → β) := congrArg f heq
    refine ⟨?_, ?_, ?_, ?_, ?_, ?_, ?_⟩
    · rw [← hnsTranId]
      exact or_eq_self_iff.mp (hfield (·.nsTranId))
    · rw [← hsyncedAt]
      exact or_eq_self_iff.mp (hfield (·.syncedAt))
    · obtain ⟨n, hn, hle⟩ := some_max_eq_iff.mp (hfield (·.attemptCount))
      exact ⟨n, hn, (h.attemptCount_le_iff n).mp hle⟩
    · rw [← hdelivery]
      exact or_eq_self_iff.mp (hfield (·.lastDeliveryCount))
    · rw [← hpayload]
      exact or_eq_self_iff.mp (hfield (·.lastOutboundPayloadUri))
    · rw [← henvelope]
      exact or_eq_self_iff.mp (hfield (·.lastInboundEnvelopeUri))
    · simpa using ⟨hfield (·.totalPrice), hfield (·.subtotalPrice), hfield (·.totalTax),
        hfield (·.totalDiscounts), hfield (·.totalShipping)⟩
  · intro hcarries
    obtain ⟨n, hn, hle⟩ := hcarries.attemptCount
    obtain ⟨hprice, hsubtotal, htax, hdiscounts, hshipping⟩ : input.totalPrice.map decimal =
        input.totalPrice ∧ input.subtotalPrice.map decimal = input.subtotalPrice ∧
        input.totalTax.map decimal = input.totalTax ∧
        input.totalDiscounts.map decimal = input.totalDiscounts ∧
        input.totalShipping.map decimal = input.totalShipping := by
      simpa using hcarries.amounts
    rw [map_some_join hfits.shopifyCreatedAt, map_some_join hfits.shopifyProcessedAt,
      map_some_join hfits.shopifyUpdatedAt, hprice, hsubtotal, htax, hdiscounts, hshipping,
      or_eq_self_iff.mpr fun hsome => hcarries.nsTranId (hnsTranId.mp hsome),
      or_eq_self_iff.mpr fun hsome => hcarries.syncedAt (hsyncedAt.mp hsome),
      or_eq_self_iff.mpr fun hsome => hcarries.lastDeliveryCount (hdelivery.mp hsome),
      or_eq_self_iff.mpr fun hsome => hcarries.lastOutboundPayloadUri (hpayload.mp hsome),
      or_eq_self_iff.mpr fun hsome => hcarries.lastInboundEnvelopeUri (henvelope.mp hsome),
      some_max_eq_iff.mpr ⟨n, hn, (h.attemptCount_le_iff n).mpr hle⟩]

/-- The last upsert under the text of `key` is one of its own order, and carries what the
earlier upserts of the order left. -/
def LastCarries (decimal : String → String) (inputs : List OrderSyncLogInput) (key : OrderKey) :
    Prop :=
  ∀ earlier input later, inputs = earlier ++ input :: later → input.key = key.text →
    (∀ next ∈ later, next.key ≠ key.text) →
    input.orderKey = key ∧ Carries decimal (earlier.filter (·.orderKey = key)) input

theorem lastCarries_concat {inputs : List OrderSyncLogInput} {last : OrderSyncLogInput}
    {key : OrderKey} (hlast : last.key = key.text) : LastCarries decimal (inputs ++ [last]) key ↔
      last.orderKey = key ∧ Carries decimal (inputs.filter (·.orderKey = key)) last := by
  constructor
  · intro h
    exact h inputs last [] rfl hlast (by simp)
  · rintro h earlier input later heq hinput hlater
    obtain rfl | ⟨front, next, rfl⟩ := later.eq_nil_or_concat'
    · obtain ⟨rfl, hcons⟩ := List.append_inj' heq rfl
      obtain rfl := List.singleton_inj.mp hcons
      exact h
    · rw [← List.cons_append, ← List.append_assoc] at heq
      obtain ⟨_, hcons⟩ := List.append_inj' heq rfl
      obtain rfl := List.singleton_inj.mp hcons
      exact absurd hlast (hlater last (by simp))

theorem lastCarries_concat_of_ne {inputs : List OrderSyncLogInput} {last : OrderSyncLogInput}
    {key : OrderKey} (hlast : last.key ≠ key.text) :
    LastCarries decimal (inputs ++ [last]) key ↔ LastCarries decimal inputs key := by
  constructor
  · rintro h earlier input later rfl hinput hlater
    refine h earlier input (later ++ [last]) (by simp) hinput ?_
    intro next hnext
    obtain hmem | hmem := List.mem_append.mp hnext
    · exact hlater next hmem
    · rwa [List.mem_singleton.mp hmem]
  · rintro h earlier input later heq hinput hlater
    obtain rfl | ⟨front, next, rfl⟩ := later.eq_nil_or_concat'
    · obtain ⟨_, hcons⟩ := List.append_inj' heq rfl
      obtain rfl := List.singleton_inj.mp hcons
      exact absurd hinput hlast
    · rw [← List.cons_append, ← List.append_assoc] at heq
      obtain ⟨hinputs, _⟩ := List.append_inj' heq rfl
      exact h earlier input front hinputs hinput fun later hlater' => hlater later (by simp [hlater'])

/-- The two stores find the same row of an order if and only if the last upsert under its
text is its own and carries what the earlier ones left. -/
theorem Upserts.find_agree_iff {inputs : List OrderSyncLogInput} {memory : InMemoryOrderSyncLogStore}
    {t : LedgerTable} (h : Upserts decimal inputs memory t) (key : OrderKey) :
    (memory.findByOrderGid key).map OrderSyncLog.content =
        (t key).map (fun row => row.toRow.content) ↔ LastCarries decimal inputs key := by
  unfold InMemoryOrderSyncLogStore.findByOrderGid
  induction h with
  | start => exact ⟨fun _ earlier input later heq => by simp at heq, fun _ => rfl⟩
  | @upsert inputs memory t h input hfits now res t' tr hexec ih =>
    obtain ⟨m, _, rfl⟩ := upsert_exec hexec
    by_cases htext : input.key = key.text
    · rw [lastCarries_concat htext, ← htext, memory.get_upsert]
      by_cases hkey : input.orderKey = key
      · have hiff := (h.row_written key).content_eq_iff hkey hfits m
        rw [← hkey] at hiff ⊢
        rw [Function.update_self, Option.map_some, Option.some.injEq, ← hiff]
        exact ⟨fun heq => ⟨rfl, heq.symm⟩, fun heq => heq.2.symm⟩
      · rw [Function.update_of_ne (Ne.symm hkey)]
        refine ⟨fun heq => ?_, fun heq => absurd heq.1 hkey⟩
        obtain ⟨row, hrow, hcontent⟩ := Option.map_eq_some_iff.mp heq.symm
        exact absurd (hcontent ▸ (h.row_written key).orderKey_eq row hrow) hkey
    · have hkey : key ≠ input.orderKey := by
        rintro rfl
        exact htext rfl
      rw [lastCarries_concat_of_ne htext, memory.get_upsert_of_ne (Ne.symm htext),
        Function.update_of_ne hkey]
      exact ih

/-! ## Listings -/

/-- In memory a row is kept under the text of its order, and the table has a row of the order
with the same status. -/
theorem Upserts.row_of_memory {inputs : List OrderSyncLogInput} {memory : InMemoryOrderSyncLogStore}
    {t : LedgerTable} (h : Upserts decimal inputs memory t) {text : String} {row : OrderSyncLog}
    (hrow : memory.rows.get text = some row) : row.content.key = text ∧
      ∃ found, t row.content.orderKey = some found ∧ found.status = row.status := by
  induction h generalizing text row with
  | start => cases hrow
  | @upsert inputs memory t h input hfits now res t' tr hexec ih =>
    obtain ⟨m, _, rfl⟩ := upsert_exec hexec
    by_cases htext : text = input.key
    · subst htext
      have hcontent := memory.get_upsert input now
      rw [hrow] at hcontent
      obtain hcontent : row.content = input := Option.some.inj hcontent
      have hstatus : (written decimal input m (t input.orderKey)).status = input.status := by
        cases t input.orderKey with
        | none | some old => rfl
      refine ⟨by rw [hcontent], _, by rw [hcontent, Function.update_self], ?_⟩
      rw [hstatus, ← hcontent]
    · rw [memory.get_upsert_of_ne htext] at hrow
      obtain ⟨hkey, found, hfound, hstatus⟩ := ih hrow
      have hne : row.content.orderKey ≠ input.orderKey := by
        intro heq
        rw [← hkey, ← OrderSyncLogInput.text_orderKey, heq] at htext
        exact htext rfl
      exact ⟨hkey, found, by rwa [Function.update_of_ne hne], hstatus⟩

/-- What makes a listing of the two stores alike. -/
structure ListsAlike (decimal : String → String) (inputs : List OrderSyncLogInput)
    (filter : OrderSyncLogListFilter) (memory : InMemoryOrderSyncLogStore) (t : LedgerTable) :
    Prop where
  /-- A limit of 0 is not asked for, and none only where 50 rows are enough. -/
  limit : memory.selected filter = [] ∨
    filter.limit ≠ some 0 ∧ (filter.limit = none → (memory.selected filter).length ≤ 50)
  /-- The two stores hold the same row of every selected order. -/
  carries : ∀ key, (t key).any (keeps filter) → LastCarries decimal inputs key
  /-- Of two selected orders one is listed first by the times of both stores. -/
  order : ∀ key key' row row' found found', key ≠ key' → t key = some row → t key' = some row' →
    keeps filter row → keeps filter row' → memory.findByOrderGid key = some found →
    memory.findByOrderGid key' = some found' →
    listedAt row < listedAt row' ∧ found.listedAt < found'.listedAt ∨
      listedAt row' < listedAt row ∧ found'.listedAt < found.listedAt

section Lists

variable {inputs : List OrderSyncLogInput} {memory : InMemoryOrderSyncLogStore} {t : LedgerTable}
  {filter : OrderSyncLogListFilter}

/-- The rows of the memory are about distinct orders. -/
theorem Upserts.orderKeys_nodup (h : Upserts decimal inputs memory t) :
    ((memory.selected filter).map (·.content.orderKey)).Nodup := by
  have htexts : memory.rows.values.map (·.content.key) = memory.rows.entries.map Prod.fst := by
    unfold Js.Map.values
    rw [List.map_map]
    refine List.map_congr_left fun entry hentry => ?_
    exact (h.row_of_memory (Js.Map.get_eq_some.mpr hentry)).1
  have hnodup : (memory.rows.values.map (·.content.key)).Nodup := htexts ▸ memory.rows.distinct
  have hkeys : (memory.rows.values.map (·.content.orderKey)).Nodup := by
    have hmap : memory.rows.values.map (·.content.key) =
        (memory.rows.values.map (·.content.orderKey)).map OrderKey.text := by
      rw [List.map_map]
      rfl
    exact List.Nodup.of_map _ (hmap ▸ hnodup)
  exact hkeys.sublist (List.filter_sublist.map _)

/-- Where the rows of the selected orders agree, both stores have a row of each. -/
theorem Upserts.rows_of_selected (h : Upserts decimal inputs memory t)
    (hcarries : ∀ key, (t key).any (keeps filter) → LastCarries decimal inputs key) {key : OrderKey}
    (hany : (t key).any (keeps filter)) : ∃ row found, t key = some row ∧ keeps filter row ∧
      memory.findByOrderGid key = some found ∧ found.content = row.toRow.content := by
  have hagree := (h.find_agree_iff key).mpr (hcarries key hany)
  cases hrow : t key with
  | none =>
    rw [hrow] at hany
    cases hany
  | some row =>
    rw [hrow] at hany hagree
    obtain ⟨found, hfound, hcontent⟩ := Option.map_eq_some_iff.mp hagree
    exact ⟨row, found, rfl, hany, hfound, hcontent⟩

/-- A selected row of the memory is found under the order that it is about. -/
theorem Upserts.find_of_selected (h : Upserts decimal inputs memory t) {found : OrderSyncLog}
    (hfound : found ∈ memory.selected filter) :
    memory.findByOrderGid found.content.orderKey = some found := by
  obtain ⟨hvalue, _⟩ := List.mem_filter.mp hfound
  obtain ⟨text, htext⟩ := Js.Map.mem_values.mp hvalue
  unfold InMemoryOrderSyncLogStore.findByOrderGid
  rwa [OrderSyncLogInput.text_orderKey, (h.row_of_memory htext).1]

/-- Where the rows of the selected orders agree, the stores select the same orders. -/
theorem Upserts.mem_selected_iff (h : Upserts decimal inputs memory t)
    (hcarries : ∀ key, (t key).any (keeps filter) → LastCarries decimal inputs key) (key : OrderKey) :
    key ∈ (memory.selected filter).map (·.content.orderKey) ↔ (t key).any (keeps filter) := by
  constructor
  · intro hmem
    obtain ⟨found, hfound, rfl⟩ := List.mem_map.mp hmem
    obtain ⟨_, row, hrow, hstatus⟩ := h.row_of_memory (h.find_of_selected hfound)
    have hkey := (h.row_written found.content.orderKey).orderKey_eq row hrow
    simp only [orderKey, OrderSyncLogInput.orderKey, OrderKey.mk.injEq] at hkey
    rw [hrow, Option.any_some, keeps, hkey.1, hkey.2.1, hstatus]
    exact (List.mem_filter.mp hfound).2
  · intro hany
    obtain ⟨row, found, hrow, hkeeps, hfound, hcontent⟩ := h.rows_of_selected hcarries hany
    have hkey : found.content.orderKey = key :=
      hcontent ▸ (h.row_written key).orderKey_eq row hrow
    have hselects : filter.selects found.content.environment found.content.connectionId
        found.content.status := by
      rw [hcontent]
      exact hkeeps
    have hvalue : found ∈ memory.rows.values := Js.Map.mem_values.mpr ⟨key.text, hfound⟩
    exact List.mem_map.mpr ⟨found, List.mem_filter.mpr ⟨hvalue, hselects⟩, hkey⟩

theorem InMemoryOrderSyncLogStore.sorted_pairwise :
    (memory.sorted filter).Pairwise fun a b => b.listedAt ≤ a.listedAt := by
  have hsorted : (memory.sorted filter).Pairwise fun a b => decide (b.listedAt ≤ a.listedAt) := by
    refine List.pairwise_mergeSort ?_ ?_ _
    · intro a b c hab hbc
      exact decide_eq_true ((of_decide_eq_true hbc).trans (of_decide_eq_true hab))
    · intro a b
      rw [Bool.or_eq_true, decide_eq_true_eq, decide_eq_true_eq]
      exact le_total ..
  exact hsorted.imp of_decide_eq_true

/-- The table lists the orders in the order of the times in memory. -/
theorem Upserts.keys_eq (h : Upserts decimal inputs memory t)
    (halike : ListsAlike decimal inputs filter memory t) {keys : List OrderKey} (hnodup : keys.Nodup)
    (hmem : ∀ key, key ∈ keys ↔ (t key).any (keeps filter))
    (hsorted : (keys.filterMap t).Pairwise fun a b => listedAt b ≤ listedAt a) :
    keys = (memory.sorted filter).map (·.content.orderKey) := by
  have hperm : (memory.sorted filter).Perm (memory.selected filter) := List.mergeSort_perm ..
  have hkeys : keys.Perm ((memory.sorted filter).map (·.content.orderKey)) := by
    refine ((List.perm_ext_iff_of_nodup hnodup h.orderKeys_nodup).mpr fun key => ?_).trans
      (hperm.map _).symm
    rw [hmem, h.mem_selected_iff halike.carries]
  have hselected {key : OrderKey} (hkey : key ∈ keys) :=
    h.rows_of_selected halike.carries ((hmem key).mp hkey)
  refine hkeys.eq_of_pairwise ?_ (List.pairwise_filterMap.mp hsorted) ?_
  · -- two orders that come before one another would have the same time
    intro key key' hkey hkey' hle hle'
    obtain ⟨row, found, hrow, hkeeps, hfound, _⟩ := hselected hkey
    obtain ⟨row', found', hrow', hkeeps', hfound', _⟩ := hselected (hkeys.mem_iff.mpr hkey')
    by_contra hne
    have hlt := halike.order key key' row row' found found' hne hrow hrow' hkeeps hkeeps' hfound hfound'
    have hle := hle row hrow row' hrow'
    have hle' := hle' row' hrow' row hrow
    omega
  · have hdistinct : (memory.sorted filter).Pairwise
        fun a b => a.content.orderKey ≠ b.content.orderKey :=
      List.pairwise_map.mp ((hperm.map _).nodup_iff.mpr h.orderKeys_nodup)
    refine List.pairwise_map.mpr ((hdistinct.and InMemoryOrderSyncLogStore.sorted_pairwise).imp_of_mem ?_)
    intro a b ha hb hab row hrow row' hrow'
    have hfound := h.find_of_selected (hperm.mem_iff.mp ha)
    have hfound' := h.find_of_selected (hperm.mem_iff.mp hb)
    have hany := (h.mem_selected_iff halike.carries _).mp
      (List.mem_map_of_mem (hperm.mem_iff.mp ha))
    have hany' := (h.mem_selected_iff halike.carries _).mp
      (List.mem_map_of_mem (hperm.mem_iff.mp hb))
    rw [hrow] at hany
    rw [hrow'] at hany'
    have hlt := halike.order _ _ row row' a b hab.1 hrow hrow' hany hany' hfound hfound'
    have hle := hab.2
    omega

/-- The rows of the table in the order of the times in memory are the rows in memory. -/
theorem Upserts.rows_eq (h : Upserts decimal inputs memory t)
    (hcarries : ∀ key, (t key).any (keeps filter) → LastCarries decimal inputs key)
    {rows : List OrderSyncLog} (hrows : ∀ found ∈ rows, found ∈ memory.selected filter) :
    ((rows.map (·.content.orderKey)).filterMap t).map (·.toRow.content) =
      rows.map OrderSyncLog.content := by
  induction rows with
  | nil => rfl
  | cons found rows ih =>
    have hfound := hrows found List.mem_cons_self
    obtain ⟨row, found', hrow, _, hfound', hcontent⟩ := h.rows_of_selected hcarries
      ((h.mem_selected_iff hcarries _).mp (List.mem_map_of_mem hfound))
    obtain rfl := Option.some.inj ((h.find_of_selected hfound).symm.trans hfound')
    rw [List.map_cons, List.filterMap_cons_some hrow, List.map_cons, List.map_cons, hcontent,
      ih fun next hnext => hrows next (List.mem_cons_of_mem _ hnext)]

/-- Where a filter is answered alike, the stores list the same rows. -/
theorem Upserts.lists_agree (h : Upserts decimal inputs memory t)
    (halike : ListsAlike decimal inputs filter memory t) {rows : List OrderSyncLog}
    (hrows : Lists t filter rows) :
    (memory.list filter).map OrderSyncLog.content = rows.map OrderSyncLog.content := by
  obtain ⟨found, rfl, keys, hnodup, hmem, hsorted, rfl⟩ := hrows
  have hperm : (memory.sorted filter).Perm (memory.selected filter) := List.mergeSort_perm ..
  have hrows : (keys.filterMap t).map (·.toRow.content) =
      (memory.sorted filter).map OrderSyncLog.content := by
    rw [h.keys_eq halike hnodup hmem hsorted]
    exact h.rows_eq halike.carries fun found hfound => hperm.mem_iff.mp hfound
  have hlist : memory.list filter = (memory.sorted filter).take (filter.limit.getD 50) := by
    unfold InMemoryOrderSyncLogStore.list
    have hlength := hperm.length_eq
    cases hlimit : filter.limit with
    | none =>
      refine (List.take_of_length_le ?_).symm
      obtain hnil | ⟨_, hle⟩ := halike.limit
      · simp [hlength, hnil]
      · simpa [hlength] using hle hlimit
    | some limit =>
      cases limit with
      | zero =>
        obtain hnil | ⟨hne, _⟩ := halike.limit
        · simpa [hnil] using hlength
        · exact absurd hlimit hne
      | succ limit => rfl
  rw [hlist, List.map_take, ← hrows, ← List.map_take, List.map_map]
  rfl

end Lists

def parkedOrder : OrderSyncLogInput where
  environment := .prod
  connectionId := "acme-us"
  shopifyOrderGid := "gid://shopify/Order/100"
  shopifyOrderId := "100"
  shopifyOrderName := some "#1001"
  shopifyCreatedAt := none
  shopifyProcessedAt := none
  shopifyUpdatedAt := none
  customerEmail := none
  currencyCode := some "USD"
  totalPrice := none
  subtotalPrice := none
  totalTax := none
  totalDiscounts := none
  totalShipping := none
  status := .parked
  nsAccountId := some "1234567"
  nsRecordType := none
  nsInternalId := none
  nsTranId := none
  parkStage := some "mapping"
  parkDetail := some "discount unmapped"
  parkErrorClass := some "mapping_error"
  ignoredReason := none
  syncedAt := none
  attemptCount := some 1
  lastDeliveryCount := some 1
  lastOutboundPayloadUri := none
  lastInboundEnvelopeUri := none

def importedOrder : OrderSyncLogInput :=
  { parkedOrder with
    status := .imported
    nsRecordType := some "salesorder"
    nsInternalId := some "664"
    parkStage := none
    parkDetail := none
    parkErrorClass := none
    syncedAt := some 1000 }

theorem fits_parkedOrder : parkedOrder.Fits := ⟨by decide, by decide, by decide⟩

theorem fits_importedOrder : importedOrder.Fits := ⟨by decide, by decide, by decide⟩

/-- Two upserts can follow one another in both stores. -/
theorem exists_upserts {first second : OrderSyncLogInput} (hfirst : first.Fits)
    (hsecond : second.Fits) : ∃ memory t, Upserts id [first, second] memory t := by
  obtain ⟨_, _, hexec⟩ := exists_exec_upsert id first (fun _ => none) ⟨1000, 1⟩
  obtain ⟨_, _, hexec'⟩ := exists_exec_upsert id second
    (Function.update _ first.orderKey (some (written id first ⟨1000, 1⟩ none))) ⟨2000, 2⟩
  exact ⟨_, _, (Upserts.start.upsert first hfirst 1000 hexec).upsert second hsecond 2000 hexec'⟩

end DpIntegrator
