import DpIntegrator.Effects.World
import DpIntegrator.Functions.Addressbook

/-!
# Importing an order again

A customer's addressbook as NetSuite keeps it, and what the customer writes of imports do to it.
Once an import of an order has written its addresses, every further import of the order
finds them under their Shopify ids and leaves the addressbook as it is.
-/

namespace DpIntegrator

open Effects

/-! ## Addressbooks in NetSuite -/

/-- An entry with the fields of its address. -/
structure BookEntry where
  defaultBilling : Bool
  defaultShipping : Bool
  label : Option String
  address : String → Option Js.Value

/-- The entries of an addressbook by internal id. -/
abbrev Book := String → Option BookEntry

/-- The Shopify id that is stamped on an entry. -/
def BookEntry.stamp (shopifyIdField : String) (e : BookEntry) : Option String :=
  (e.address shopifyIdField).bind fun v => if v.isNullish then none else truthy (some v.toText)

/-- An entry as it is read. -/
def BookEntry.listed (shopifyIdField id : String) (e : BookEntry) : CustomerAddressbookEntry where
  internalId := id
  shopifyAddressId := e.stamp shopifyIdField
  defaultBilling := e.defaultBilling
  defaultShipping := e.defaultShipping
  label := e.label

/-- `entries` are the entries of a book, in any order. -/
structure ListsBook (shopifyIdField : String) (book : Book) (entries : List CustomerAddressbookEntry) :
    Prop where
  distinct : (entries.map CustomerAddressbookEntry.internalId).Nodup
  complete : ∀ id e, book id = some e → e.listed shopifyIdField id ∈ entries
  sound : ∀ c ∈ entries, ∃ e, book c.internalId = some e ∧
    c = e.listed shopifyIdField c.internalId

/-- What becomes of an entry for which an item is sent: the fields sent take the place of its own. -/
def writeItem (old : Option BookEntry) (item : Js.Value) : BookEntry where
  defaultBilling := match item.prop "defaultBilling" with
    | .bool b => b
    | _ => (old.map BookEntry.defaultBilling).getD false
  defaultShipping := match item.prop "defaultShipping" with
    | .bool b => b
    | _ => (old.map BookEntry.defaultShipping).getD false
  label := match item.prop "label" with
    | .str label => some label
    | _ => old.bind BookEntry.label
  address key := match item.prop "addressbookaddress" with
    | .obj content => (Js.Fields.get? content key).or (old.bind fun e => e.address key)
    | _ => old.bind fun e => e.address key

/-- `sent` are the items of a sublist with the ids of their entries. An item without an id gets a
fresh one. -/
structure Sent (book : Book) (items : List Js.Value) (sent : List (String × Js.Value)) : Prop where
  items : sent.map Prod.snd = items
  distinct : (sent.map Prod.fst).Nodup
  named : ∀ p ∈ sent, ∀ id, itemId p.2 = some id → p.1 = id ∧ ∃ e, book id = some e
  fresh : ∀ p ∈ sent, itemId p.2 = none → book p.1 = none

/-- A sublist of items takes a book to another. Entries that are not sent are dropped or stay. -/
def StoresItems (items : List Js.Value) (book book' : Book) : Prop :=
  (items = [] ∧ book' = book) ∨ items ≠ [] ∧ ∃ sent, Sent book items sent ∧
    (∀ p ∈ sent, book' p.1 = some (writeItem (book p.1) p.2)) ∧
    ∀ id, id ∉ sent.map Prod.fst → book' id = none ∨ book' id = book id

/-- A customer in NetSuite. -/
structure NsCustomer where
  internalId : String
  book : Book

/-- The book of a customer; a customer that does not exist has none. -/
def bookOf : Option NsCustomer → Book
  | some c => c.book
  | none => fun _ => none

/-- How NetSuite answers the calls for one customer. -/
inductive CustomerStep (nsAccountId externalId shopifyIdField : String) :
    (o : Op) → Option NsCustomer → o.Resp → Option NsCustomer → Prop
  | missing {fields : List String} : CustomerStep nsAccountId externalId shopifyIdField
      (.io (.findByExternalId ⟨nsAccountId, .customer, externalId, fields⟩)) none (.ok none) none
  | found {fields : List String} {c : NsCustomer} {row : Js.Fields} {id : Js.Value}
      (hrow : row.get? "id" = some id) (hid : id.isNullish = false)
      (htext : id.toText = c.internalId) :
      CustomerStep nsAccountId externalId shopifyIdField
        (.io (.findByExternalId ⟨nsAccountId, .customer, externalId, fields⟩)) (some c)
        (.ok (some row)) (some c)
  | listed {c : NsCustomer} {id : String} {entries : List CustomerAddressbookEntry}
      (hid : id = c.internalId) (h : ListsBook shopifyIdField c.book entries) :
      CustomerStep nsAccountId externalId shopifyIdField
        (.io (.getCustomerAddressbook ⟨nsAccountId, id, shopifyIdField⟩)) (some c) (.ok entries)
        (some c)
  | stored {state : Option NsCustomer} {payload : Js.Fields} {result : UpsertResult} {book : Book}
      (hid : ∀ c, state = some c → result.internalId = c.internalId)
      (h : StoresItems (addressbookItems payload) (bookOf state) book) :
      CustomerStep nsAccountId externalId shopifyIdField
        (.io (.upsertByExternalId ⟨nsAccountId, .customer, externalId, payload⟩)) state
        (.ok result) (some ⟨result.internalId, book⟩)
  -- The write takes effect, but the answer does not arrive.
  | unanswered {state : Option NsCustomer} {payload : Js.Fields} {id : String} {book : Book}
      (e : Thrown) (hid : ∀ c, state = some c → id = c.internalId)
      (h : StoresItems (addressbookItems payload) (bookOf state) book) :
      CustomerStep nsAccountId externalId shopifyIdField
        (.io (.upsertByExternalId ⟨nsAccountId, .customer, externalId, payload⟩)) state
        (.error e) (some ⟨id, book⟩)
  | failed {c : Call} {state : Option NsCustomer} (e : Thrown) :
      CustomerStep nsAccountId externalId shopifyIdField (.io c) state (.error e) state

/-! ## What is written -/

section Items

variable {old : Option BookEntry} {e : BookEntry} {shopifyIdField id : String}

theorem writeItem_entry (old : Option BookEntry) (w : AddressbookEntry) :
    writeItem old (toJs w) = ⟨w.defaultBilling, w.defaultShipping, some w.label,
      fun key => (w.address.get? key).or (old.bind fun e => e.address key)⟩ := rfl

/-- What is sent once more changes nothing. -/
theorem writeItem_again (old : Option BookEntry) (w : AddressbookEntry) (id id' : Option String) :
    writeItem (some (writeItem old (toJs { w with id }))) (toJs { w with id := id' }) =
      writeItem old (toJs { w with id }) := by
  rw [writeItem_entry, writeItem_entry]
  simp only [Option.bind_some, ← Option.or_assoc, Option.or_self]

/-- A preserved entry loses its defaults and nothing else. -/
theorem writeItem_preserved (e : BookEntry) (shopifyIdField id : String) :
    writeItem (some e) (preservedEntry true true (e.listed shopifyIdField id)) =
      { e with defaultBilling := false, defaultShipping := false } := by
  have hlabel : (match (preservedEntry true true (e.listed shopifyIdField id)).prop "label" with
      | .str label => some label
      | _ => (some e).bind BookEntry.label) = e.label := by
    cases htruthy : truthy (e.listed shopifyIdField id).label with
    | none =>
      unfold preservedEntry whenTruthy
      rw [htruthy]
      rfl
    | some label =>
      rw [label_preserved _ _ _ htruthy]
      exact (truthy_eq_some.mp htruthy).1.symm
  unfold writeItem
  rw [hlabel, content_preserved]
  rfl

theorem shopifyAddressToNs_stamp {a : ShopifyAddress} {content : Js.Fields} {gid : String}
    (hfield : shopifyIdField ≠ "") (hid : truthy a.id = some gid)
    (h : shopifyAddressToNs (some a) (some shopifyIdField) = some content) :
    content.get? shopifyIdField = some (.str gid) := by
  have hkey : truthy (some shopifyIdField) = some shopifyIdField :=
    truthy_eq_some.mpr ⟨rfl, hfield⟩
  unfold shopifyAddressToNs at h
  dsimp only at h
  split at h
  · cases h
  · rw [← Option.some.inj h, Js.Fields.get?_spread, hkey]
    simp only [Option.toList_some, List.flatMap_cons, List.flatMap_nil, whenTruthy, optional, hid]
    simp [Js.Fields.get?_cons]
    rfl

end Items

section Writes

variable {addresses : OrderAddressesForCustomer} {shopifyIdField : String}
  {out : List (ShopifyAddress × AddressbookEntry)} {book book' : Book}
  {entries : List CustomerAddressbookEntry} {sent : List (String × Js.Value)}

/-- No two entries carry the same Shopify id. -/
def DistinctStamps (shopifyIdField : String) (book : Book) : Prop :=
  ∀ i j e e' gid, book i = some e → book j = some e' → e.stamp shopifyIdField = some gid →
    e'.stamp shopifyIdField = some gid → i = j

/-- The addresses of the order that have content carry Shopify ids. -/
def Identified (addresses : OrderAddressesForCustomer) (shopifyIdField : String) : Prop :=
  ∀ a content, HasContent addresses shopifyIdField a content → ∃ gid, truthy a.id = some gid

/-- The items for the addresses of the order and for the other entries. -/
abbrev mergedItems (entries : List CustomerAddressbookEntry)
    (out : List (ShopifyAddress × AddressbookEntry)) : List Js.Value :=
  (writtenItems entries out).map Prod.snd ++ keptItems entries out

theorem mem_mergedItems {item : Js.Value} : item ∈ mergedItems entries out ↔
    (∃ w ∈ out, item = toJs (identified entries w)) ∨
      ∃ c ∈ entries, c.internalId ∉ claimedIds entries out ∧ item = preservedEntry true true c := by
  unfold mergedItems writtenItems keptItems
  simp only [List.mem_append, List.mem_map, List.mem_filter, decide_eq_true_eq]
  constructor
  · rintro (⟨_, ⟨w, hw, rfl⟩, rfl⟩ | ⟨c, ⟨hc, hfree⟩, rfl⟩)
    · exact .inl ⟨w, hw, rfl⟩
    · exact .inr ⟨c, hc, hfree, rfl⟩
  · rintro (⟨w, hw, rfl⟩ | ⟨c, hc, hfree, rfl⟩)
    · exact .inl ⟨_, ⟨w, hw, rfl⟩, rfl⟩
    · exact .inr ⟨c, ⟨hc, hfree⟩, rfl⟩

/-- No item is sent twice: the entries of the order differ in their defaults, the others in their
ids. -/
theorem mergedItems_nodup (h : Incoming addresses shopifyIdField out)
    (hdistinct : (entries.map CustomerAddressbookEntry.internalId).Nodup) :
    (mergedItems entries out).Nodup := by
  have hkept : (keptItems entries out).Nodup := by
    have hids : ((keptItems entries out).map itemId).Nodup := by
      have hmap : (keptItems entries out).map itemId =
          ((entries.filter fun c => c.internalId ∉ claimedIds entries out).map
            CustomerAddressbookEntry.internalId).map some := by
        unfold keptItems
        rw [List.map_map, List.map_map]
        exact List.map_congr_left fun c _ => itemId_preserved ..
      rw [hmap]
      refine List.Nodup.map (Option.some_injective _) ?_
      exact hdistinct.sublist (List.filter_sublist.map _)
    exact List.Nodup.of_map _ hids
  have hflags {item : Js.Value} (hitem : item ∈ keptItems entries out) :
      itemFlag "defaultBilling" item = false ∧ itemFlag "defaultShipping" item = false := by
    obtain ⟨c, _, rfl⟩ := List.mem_map.mp hitem
    exact ⟨by simp, by simp⟩
  refine List.Nodup.append ?_ hkept ?_
  · cases h with
    | single => simp [writtenItems]
    | both =>
      simp only [writtenItems, List.map_cons, List.map_nil, List.nodup_cons, List.mem_singleton,
        List.not_mem_nil, not_false_iff, List.nodup_nil, and_true]
      intro heq
      have hflag := congrArg (itemFlag "defaultBilling") heq
      simp [identified] at hflag
  · intro item hwritten hitem
    obtain ⟨hbilling, hshipping⟩ := hflags hitem
    cases h with
    | single =>
      simp only [writtenItems, List.map_cons, List.map_nil, List.mem_singleton] at hwritten
      rw [hwritten, itemFlag_billing] at hbilling
      cases hbilling
    | both =>
      simp only [writtenItems, List.map_cons, List.map_nil, List.mem_cons, List.not_mem_nil,
        or_false] at hwritten
      obtain rfl | rfl := hwritten
      · rw [itemFlag_billing] at hbilling
        cases hbilling
      · rw [itemFlag_shipping] at hshipping
        cases hshipping

/-- Two entries of the order with one Shopify id are one. -/
theorem Incoming.eq_of_id (h : Incoming addresses shopifyIdField out)
    {w w' : ShopifyAddress × AddressbookEntry} (hw : w ∈ out) (hw' : w' ∈ out) {gid : String}
    (hid : truthy w.1.id = some gid) (hid' : truthy w'.1.id = some gid) : w = w' := by
  cases h with
  | single =>
    obtain rfl := List.mem_singleton.mp hw
    exact (List.mem_singleton.mp hw').symm
  | @both a b _ _ _ _ _ _ hne =>
    have hab : ¬ (truthy a.id = some gid ∧ truthy b.id = some gid) := by
      rintro ⟨ha, hb⟩
      rw [hne (ha.trans hb.symm)] at ha
      cases ha
    simp only [List.mem_cons, List.not_mem_nil, or_false] at hw hw'
    obtain rfl | rfl := hw <;> obtain rfl | rfl := hw'
    · rfl
    · exact absurd ⟨hid, hid'⟩ hab
    · exact absurd ⟨hid', hid⟩ hab
    · rfl

/-- An address with content is written, with its Shopify id. -/
theorem Incoming.exists_mem (h : Incoming addresses shopifyIdField out) {a : ShopifyAddress}
    {content : Js.Fields} (ha : HasContent addresses shopifyIdField a content) :
    ∃ w ∈ out, truthy w.1.id = truthy a.id := by
  cases h with
  | @single a' _ _ _ honly => exact ⟨_, List.mem_singleton_self _, (honly a content ha).symm⟩
  | @both b c _ _ hbilling hshipping =>
    obtain hb | hc := ha.1
    · obtain rfl := Option.some.inj (hb.symm.trans hbilling)
      exact ⟨_, List.mem_cons_self .., rfl⟩
    · obtain rfl := Option.some.inj (hc.symm.trans hshipping)
      exact ⟨_, List.mem_cons_of_mem _ (List.mem_singleton_self _), rfl⟩

/-- An entry of a book that carries the Shopify id of an address is taken over. -/
theorem ListsBook.matchedId_eq (h : ListsBook shopifyIdField book entries)
    (hdistinct : DistinctStamps shopifyIdField book) {i gid : String} {e : BookEntry}
    {id : Option String} (he : book i = some e) (hstamp : e.stamp shopifyIdField = some gid)
    (hid : truthy id = some gid) : matchedId entries id = some i := by
  have htruthy : truthy (some gid) = some gid := truthy_eq_some.mpr ⟨rfl, (truthy_eq_some.mp hid).2⟩
  have hlisted : truthy (e.listed shopifyIdField i).shopifyAddressId = some gid := by
    change truthy (e.stamp shopifyIdField) = some gid
    rw [hstamp, htruthy]
  obtain ⟨c, hmatch⟩ := exists_matchingEntry hid ⟨_, h.complete i e he, hlisted⟩
  obtain ⟨hc, gid', hid', hcstamp⟩ := matchingEntry_eq_some hmatch
  obtain rfl := Option.some.inj (hid.symm.trans hid')
  obtain ⟨e', he', hce'⟩ := h.sound c hc
  have hstamp' : e'.stamp shopifyIdField = some gid := by
    rw [hce'] at hcstamp
    exact (truthy_eq_some.mp hcstamp).1
  rw [matchedId, hmatch, Option.map_some, hdistinct i c.internalId e e' gid he he' hstamp hstamp']

theorem without_defaults {e : BookEntry} (hbilling : e.defaultBilling = false)
    (hshipping : e.defaultShipping = false) :
    { e with defaultBilling := false, defaultShipping := false } = e := by
  obtain ⟨_, _, _, _⟩ := e
  cases hbilling
  cases hshipping
  rfl

/-- The addresses of an order are written to a book that was read as `entries`. -/
structure MergedWrite (addresses : OrderAddressesForCustomer) (shopifyIdField : String)
    (out : List (ShopifyAddress × AddressbookEntry)) (book : Book)
    (entries : List CustomerAddressbookEntry) (book' : Book) (sent : List (String × Js.Value)) :
    Prop where
  incoming : Incoming addresses shopifyIdField out
  lists : ListsBook shopifyIdField book entries
  distinct : DistinctStamps shopifyIdField book
  sublist : Sent book (mergedItems entries out) sent
  stored : ∀ p ∈ sent, book' p.1 = some (writeItem (book p.1) p.2)
  unsent : ∀ id, id ∉ sent.map Prod.fst → book' id = none ∨ book' id = book id

namespace MergedWrite

variable {i j gid : String} {e e' : BookEntry} {w : ShopifyAddress × AddressbookEntry}

/-- An item is sent for every entry of the book. -/
theorem mem_sent (h : MergedWrite addresses shopifyIdField out book entries book' sent)
    (he : book i = some e) : i ∈ sent.map Prod.fst := by
  have hitem : ∃ item ∈ mergedItems entries out, itemId item = some i := by
    by_cases hclaimed : i ∈ claimedIds entries out
    · obtain ⟨w, hw, hid⟩ := List.mem_filterMap.mp hclaimed
      refine ⟨_, mem_mergedItems.mpr (.inl ⟨w, hw, rfl⟩), ?_⟩
      rw [itemId_toJs]
      exact hid
    · exact ⟨_, mem_mergedItems.mpr (.inr ⟨_, h.lists.complete i e he, hclaimed, rfl⟩),
        itemId_preserved ..⟩
  obtain ⟨item, hmem, hid⟩ := hitem
  rw [← h.sublist.items] at hmem
  obtain ⟨p, hp, rfl⟩ := List.mem_map.mp hmem
  obtain ⟨rfl, _⟩ := h.sublist.named p hp i hid
  exact List.mem_map_of_mem hp

/-- Every item is sent for one entry. -/
theorem eq_of_mem_sent (h : MergedWrite addresses shopifyIdField out book entries book' sent)
    {item : Js.Value} (hi : (i, item) ∈ sent) (hj : (j, item) ∈ sent) : i = j := by
  have hnodup : (sent.map Prod.snd).Nodup := by
    rw [h.sublist.items]
    exact mergedItems_nodup h.incoming h.lists.distinct
  exact congrArg Prod.fst (List.inj_on_of_nodup_map hnodup hi hj rfl)

/-- An address of the order is written to some entry. -/
theorem exists_sent (h : MergedWrite addresses shopifyIdField out book entries book' sent)
    (hw : w ∈ out) : ∃ i, (i, toJs (identified entries w)) ∈ sent := by
  have hmem : toJs (identified entries w) ∈ sent.map Prod.snd := by
    rw [h.sublist.items]
    exact mem_mergedItems.mpr (.inl ⟨w, hw, rfl⟩)
  obtain ⟨p, hp, heq⟩ := List.mem_map.mp hmem
  exact ⟨p.1, heq ▸ hp⟩

/-- An entry after the write has the content of an address of the order, or is an entry from before
that no address of the order takes over, without its defaults. -/
theorem entry_cases (h : MergedWrite addresses shopifyIdField out book entries book' sent)
    (he' : book' i = some e') :
    (∃ w ∈ out, (i, toJs (identified entries w)) ∈ sent ∧
      e' = writeItem (book i) (toJs (identified entries w))) ∨
    ∃ e, book i = some e ∧ e' = { e with defaultBilling := false, defaultShipping := false } ∧
      ∀ w ∈ out, ∀ gid, truthy w.1.id = some gid → e.stamp shopifyIdField ≠ some gid := by
  have hmem : i ∈ sent.map Prod.fst := by
    by_contra hnot
    obtain hnone | hsame := h.unsent i hnot
    · rw [hnone] at he'
      cases he'
    · exact hnot (h.mem_sent (hsame ▸ he'))
  obtain ⟨⟨_, item⟩, hp, rfl⟩ := List.mem_map.mp hmem
  have hstored := h.stored _ hp
  rw [he'] at hstored
  have hitem : item ∈ mergedItems entries out := by
    rw [← h.sublist.items]
    exact List.mem_map_of_mem hp
  obtain ⟨w, hw, rfl⟩ | ⟨c, hc, hfree, rfl⟩ := mem_mergedItems.mp hitem
  · exact .inl ⟨w, hw, hp, Option.some.inj hstored⟩
  · obtain ⟨hid, _⟩ := h.sublist.named _ hp _ (itemId_preserved ..)
    obtain ⟨e, he, hlisted⟩ := h.lists.sound c hc
    dsimp only at hid hstored
    rw [← hid] at he hlisted hfree
    refine .inr ⟨e, he, ?_, ?_⟩
    · rw [he, hlisted, writeItem_preserved] at hstored
      exact Option.some.inj hstored
    · intro w hw gid hgid hstamp
      have hmatched := h.lists.matchedId_eq h.distinct he hstamp hgid
      exact hfree (List.mem_filterMap.mpr ⟨w, hw, hmatched⟩)

theorem stamp_written (h : MergedWrite addresses shopifyIdField out book entries book' sent)
    (hfield : shopifyIdField ≠ "") (hw : w ∈ out) (hid : truthy w.1.id = some gid)
    (old : Option BookEntry) :
    (writeItem old (toJs (identified entries w))).stamp shopifyIdField = some gid := by
  have hget := shopifyAddressToNs_stamp hfield hid (h.incoming.of_mem hw).2
  rw [writeItem_entry]
  unfold BookEntry.stamp identified
  dsimp only
  rw [hget]
  exact truthy_eq_some.mpr ⟨rfl, (truthy_eq_some.mp hid).2⟩

end MergedWrite

/-- A book to which the addresses of an order were written last. -/
structure ImportedBook (shopifyIdField : String) (out : List (ShopifyAddress × AddressbookEntry))
    (book : Book) : Prop where
  distinct : DistinctStamps shopifyIdField book
  /-- Writing an address of the order once more changes nothing. -/
  holds : ∀ w ∈ out, ∀ gid, truthy w.1.id = some gid → ∃ i e, book i = some e ∧
    e.stamp shopifyIdField = some gid ∧ ∀ id, writeItem (some e) (toJs { w.2 with id }) = e
  others : ∀ i e, book i = some e →
    (∀ w ∈ out, ∀ gid, truthy w.1.id = some gid → e.stamp shopifyIdField ≠ some gid) →
      e.defaultBilling = false ∧ e.defaultShipping = false

theorem MergedWrite.imported
    (h : MergedWrite addresses shopifyIdField out book entries book' sent)
    (hfield : shopifyIdField ≠ "") (hids : Identified addresses shopifyIdField) :
    ImportedBook shopifyIdField out book' where
  distinct i j e e' gid he he' hstamp hstamp' := by
    have hgid {w : ShopifyAddress × AddressbookEntry} {k : String} (hw : w ∈ out)
        (hstamp : (writeItem (book k) (toJs (identified entries w))).stamp shopifyIdField =
          some gid) : truthy w.1.id = some gid := by
      obtain ⟨gid', hgid'⟩ := hids _ _ (h.incoming.of_mem hw)
      rw [h.stamp_written hfield hw hgid'] at hstamp
      exact hgid'.trans hstamp
    obtain ⟨w, hw, hsent, rfl⟩ | ⟨e₀, he₀, rfl, hfree⟩ := h.entry_cases he
    · obtain ⟨w', hw', hsent', rfl⟩ | ⟨e₁, _, rfl, hfree'⟩ := h.entry_cases he'
      · obtain rfl := h.incoming.eq_of_id hw hw' (hgid hw hstamp) (hgid hw' hstamp')
        exact h.eq_of_mem_sent hsent hsent'
      · exact absurd hstamp' (hfree' w hw gid (hgid hw hstamp))
    · obtain ⟨w', hw', _, rfl⟩ | ⟨e₁, he₁, rfl, _⟩ := h.entry_cases he'
      · exact absurd hstamp (hfree w' hw' gid (hgid hw' hstamp'))
      · exact h.distinct i j e₀ e₁ gid he₀ he₁ hstamp hstamp'
  holds w hw gid hid := by
    obtain ⟨i, hsent⟩ := h.exists_sent hw
    exact ⟨i, _, h.stored _ hsent, h.stamp_written hfield hw hid _,
      fun id => writeItem_again (book i) w.2 _ id⟩
  others i e he hfree := by
    obtain ⟨w, hw, _, rfl⟩ | ⟨e₀, _, rfl, _⟩ := h.entry_cases he
    · obtain ⟨gid, hgid⟩ := hids _ _ (h.incoming.of_mem hw)
      exact absurd (h.stamp_written hfield hw hgid _) (hfree w hw gid hgid)
    · exact ⟨rfl, rfl⟩

/-- Every item that is sent to such a book names an entry. -/
theorem ImportedBook.itemId_ne_none (h : ImportedBook shopifyIdField out book)
    (hout : Incoming addresses shopifyIdField out) (hids : Identified addresses shopifyIdField)
    (hlists : ListsBook shopifyIdField book entries) {item : Js.Value}
    (hitem : item ∈ mergedItems entries out) : itemId item ≠ none := by
  obtain ⟨w, hw, rfl⟩ | ⟨c, _, _, rfl⟩ := mem_mergedItems.mp hitem
  · obtain ⟨gid, hgid⟩ := hids _ _ (hout.of_mem hw)
    obtain ⟨i, e, he, hstamp, _⟩ := h.holds w hw gid hgid
    rw [itemId_toJs, identified, hlists.matchedId_eq h.distinct he hstamp hgid]
    simp
  · rw [itemId_preserved]
    simp

/-- Writing the addresses of the order to such a book changes nothing. -/
theorem ImportedBook.eq_of_write (h : ImportedBook shopifyIdField out book)
    (hids : Identified addresses shopifyIdField)
    (hwrite : MergedWrite addresses shopifyIdField out book entries book' sent) :
    book' = book := by
  funext i
  by_cases hsent : i ∈ sent.map Prod.fst
  · obtain ⟨p, hp, rfl⟩ := List.mem_map.mp hsent
    have hstored := hwrite.stored p hp
    obtain ⟨w, hw, hmem, heq⟩ | ⟨e, he, heq, hfree⟩ := hwrite.entry_cases hstored
    · obtain ⟨gid, hgid⟩ := hids _ _ (hwrite.incoming.of_mem hw)
      obtain ⟨j, e, he, hstamp, hagain⟩ := h.holds w hw gid hgid
      have hmatched := hwrite.lists.matchedId_eq h.distinct he hstamp hgid
      obtain ⟨hid, _⟩ := hwrite.sublist.named _ hmem j (by rw [itemId_toJs]; exact hmatched)
      dsimp only at hid
      rw [hstored, heq, hid, he]
      exact congrArg some (hagain _)
    · obtain ⟨hbilling, hshipping⟩ := h.others p.1 e he hfree
      rw [hstored, heq, he, without_defaults hbilling hshipping]
  · obtain hnone | hsame := hwrite.unsent i hsent
    · rw [hnone]
      by_contra hne
      obtain ⟨e, he⟩ := Option.ne_none_iff_exists'.mp (Ne.symm hne)
      exact hsent (hwrite.mem_sent he)
    · exact hsame

end Writes

/-! ## Runs -/

section Runs

variable {connection : Connection} {customer : ShopifyCustomer} {guest shopifyIdField : String}
  {addresses : OrderAddressesForCustomer} {s s' : Option NsCustomer} {tr : List Ev}

/-- How NetSuite answers the calls for the customer of an order. -/
abbrev customerStep (connection : Connection) (customerId shopifyIdField : String) :
    (o : Op) → Option NsCustomer → o.Resp → Option NsCustomer → Prop :=
  CustomerStep connection.nsAccountId customerId shopifyIdField

/-- What the calls of a list send to the addressbook of the customer. -/
def SendsItems (items : List Js.Value) (tr : List Ev) : Prop :=
  ∀ args r, answered (.upsertByExternalId args) r ∈ tr → addressbookItems args.payload = items

/-- A call of the run that reads. -/
def IsRead (ev : Ev) : Prop :=
  match ev.1 with
  | .io (.upsertByExternalId _) => False
  | _ => True

theorem sends_of_reads {items : List Js.Value} (h : ∀ ev ∈ tr, IsRead ev) : SendsItems items tr := by
  intro args r hmem
  exact (h _ hmem).elim

theorem eq_of_reads (h : ∀ ev ∈ tr, IsRead ev)
    (hsteps : Steps (customerStep connection customer.id shopifyIdField) s tr s') : s' = s := by
  refine hsteps.frame (f := id) fun ev hev w w' hstep => ?_
  have hread := h ev hev
  obtain ⟨o, r⟩ := ev
  cases hstep with
  | missing | found | listed | failed => rfl
  | stored | unanswered => exact hread.elim

theorem existingAddressbook_reads (connection : Connection) (customer : ShopifyCustomer) :
    Issues IsRead (existingAddressbook connection customer) := by
  unfold existingAddressbook
  split
  · exact .pure _
  · refine .bind (issues_io fun _ => trivial) fun existing => ?_
    dsimp only
    split
    · exact .pure _
    · exact issues_io fun _ => trivial

theorem listed_nil : ListsBook shopifyIdField (bookOf none) [] :=
  ⟨List.nodup_nil, by simp [bookOf], by simp⟩

/-- The entries that a run reads are those of the book. -/
theorem existingAddressbook_lists (hfield : truthy connection.shopifyAddressIdField =
      some shopifyIdField) {entries : List CustomerAddressbookEntry}
    (h : Settles (existingAddressbook connection customer) tr (.ok entries))
    (hsteps : Steps (customerStep connection customer.id shopifyIdField) s tr s') :
    s' = s ∧ ListsBook shopifyIdField (bookOf s) entries := by
  unfold existingAddressbook at h
  simp only [hfield] at h
  rw [settles_bind_ok] at h
  obtain ⟨found, t₁, t₂, rfl, h₁, h₂⟩ := h
  rw [settles_io.mp h₁] at hsteps
  obtain ⟨s₁, hstep, hsteps⟩ := steps_cons.mp hsteps
  cases hstep with
  | missing =>
    obtain ⟨rfl, hentries⟩ := settles_pure.mp h₂
    obtain rfl := Except.ok.inj hentries
    exact ⟨steps_nil.mp hsteps, listed_nil⟩
  | @found _ c row id hrow hid htext =>
    have hid' : ((some row).bind fun fields => Js.Fields.get? fields "id").getD .undefined = id := by
      rw [Option.bind_some, hrow, Option.getD_some]
    rw [hid', hid, if_neg (by decide), htext] at h₂
    rw [settles_io.mp h₂] at hsteps
    obtain ⟨s₂, hstep, hsteps⟩ := steps_cons.mp hsteps
    cases hstep with
    | listed _ hlists => exact ⟨steps_nil.mp hsteps, hlists⟩

/-- A run reads the addressbook and then writes to it, unless a call fails. -/
theorem resolveCustomer_cases (hfield : truthy connection.shopifyAddressIdField =
      some shopifyIdField) {res : Except Thrown CustomerResolution}
    (h : Settles (resolveCustomer connection (some customer) guest addresses) tr res)
    (hsteps : Steps (customerStep connection customer.id shopifyIdField) s tr s') :
    (s' = s ∧ (∃ e, res = .error e) ∧ ∀ items, SendsItems items tr) ∨
      ∃ entries, ListsBook shopifyIdField (bookOf s) entries ∧
        SendsItems (buildAddressbookMerged addresses entries shopifyIdField) tr ∧
        ((s' = s ∧ ∃ e, res = .error e) ∨ ∃ id book, s' = some ⟨id, book⟩ ∧
          (∀ c, s = some c → id = c.internalId) ∧
          StoresItems (buildAddressbookMerged addresses entries shopifyIdField) (bookOf s) book) := by
  unfold resolveCustomer at h
  dsimp only at h
  obtain ⟨e, rfl, h₁⟩ | ⟨entries, t₁, t₂, rfl, h₁, h₂⟩ := settles_bind.mp h
  · have hreads := existingAddressbook_reads connection customer _ _ h₁
    exact .inl ⟨eq_of_reads hreads hsteps, ⟨e, rfl⟩, fun _ => sends_of_reads hreads⟩
  · have hreads := existingAddressbook_reads connection customer _ _ h₁
    obtain ⟨s₁, hsteps₁, hsteps₂⟩ := steps_append.mp hsteps
    obtain ⟨rfl, hlists⟩ := existingAddressbook_lists hfield h₁ hsteps₁
    have hitems : addressbookItems (buildCustomerPayload connection customer addresses entries) =
        buildAddressbookMerged addresses entries shopifyIdField := by
      rw [addressbookItems_buildCustomerPayload, hfield]
    have hsends (r : Except Thrown UpsertResult) : SendsItems
        (buildAddressbookMerged addresses entries shopifyIdField) (t₁ ++ [answered
          (.upsertByExternalId ⟨connection.nsAccountId, .customer, customer.id,
            buildCustomerPayload connection customer addresses entries⟩) r]) := by
      intro args r' hmem
      obtain hmem | hmem := List.mem_append.mp hmem
      · exact sends_of_reads hreads args r' hmem
      · obtain ⟨heq, _⟩ := Sigma.mk.inj (List.mem_singleton.mp hmem)
        injection heq with heq
        injection heq with heq
        rw [heq, hitems]
    obtain ⟨e, rfl, hcall⟩ | ⟨result, t₃, t₄, rfl, hcall, hret⟩ := settles_bind.mp h₂
    · obtain rfl := settles_io.mp hcall
      refine .inr ⟨entries, hlists, hsends _, ?_⟩
      obtain ⟨s₂, hstep, hnil⟩ := steps_cons.mp hsteps₂
      obtain rfl := steps_nil.mp hnil
      cases hstep with
      | unanswered _ hid hstores => exact .inr ⟨_, _, rfl, hid, hitems ▸ hstores⟩
      | failed => exact .inl ⟨rfl, _, rfl⟩
    · obtain rfl := settles_io.mp hcall
      obtain ⟨rfl, _⟩ := settles_pure.mp hret
      refine .inr ⟨entries, hlists, hsends _, ?_⟩
      obtain ⟨s₂, hstep, hnil⟩ := steps_cons.mp hsteps₂
      obtain rfl := steps_nil.mp hnil
      cases hstep with
      | stored hid hstores => exact .inr ⟨_, _, rfl, hid, hitems ▸ hstores⟩

/-- Every item that is sent to the addressbook names an entry. -/
def SendsNoNew (tr : List Ev) : Prop :=
  ∀ args r, answered (.upsertByExternalId args) r ∈ tr →
    ∀ item ∈ addressbookItems args.payload, itemId item ≠ none

/-- A run of the import's customer step. -/
abbrev CustomerRun (connection : Connection) (customer : ShopifyCustomer) (guest : String)
    (addresses : OrderAddressesForCustomer) (shopifyIdField : String) (s : Option NsCustomer)
    (tr : List Ev) (res : Except Thrown CustomerResolution) (s' : Option NsCustomer) : Prop :=
  Exec (customerStep connection customer.id shopifyIdField)
    (resolveCustomer connection (some customer) guest addresses).run s tr res s'

/-- No further run for the addresses of an order changes anything in NetSuite. -/
def Fixed (connection : Connection) (customerId : String) (addresses : OrderAddressesForCustomer)
    (shopifyIdField : String) (s : Option NsCustomer) : Prop :=
  ∀ customer : ShopifyCustomer, customer.id = customerId → ∀ guest tr res s',
    CustomerRun connection customer guest addresses shopifyIdField s tr res s' →
      s' = s ∧ SendsNoNew tr

variable {out : List (ShopifyAddress × AddressbookEntry)} {res : Except Thrown CustomerResolution}

/-- A write without a sublist leaves the book. -/
theorem eq_of_stores_nil {book book' : Book} (h : StoresItems [] book book') : book' = book := by
  obtain ⟨_, hbook⟩ | ⟨hne, _⟩ := h
  · exact hbook
  · exact absurd rfl hne

theorem exists_mergedWrite (hout : Incoming addresses shopifyIdField out) {book book' : Book}
    {entries : List CustomerAddressbookEntry} (hlists : ListsBook shopifyIdField book entries)
    (hdistinct : DistinctStamps shopifyIdField book)
    (h : StoresItems (mergedItems entries out) book book') :
    ∃ sent, MergedWrite addresses shopifyIdField out book entries book' sent := by
  obtain ⟨hnil, _⟩ | ⟨_, sent, hsent, hstored, hunsent⟩ := h
  · cases hout <;> simp [mergedItems, writtenItems] at hnil
  · exact ⟨sent, hout, hlists, hdistinct, hsent, hstored, hunsent⟩

/-- A book to which the addresses of an order were written last stays as it is. -/
theorem fixed_of_imported (hfield : truthy connection.shopifyAddressIdField = some shopifyIdField)
    (hids : Identified addresses shopifyIdField) (hout : Incoming addresses shopifyIdField out)
    (hmerged : ∀ entries, buildAddressbookMerged addresses entries shopifyIdField =
      mergedItems entries out) {customerId : String}
    (h : ImportedBook shopifyIdField out (bookOf s)) :
    Fixed connection customerId addresses shopifyIdField s := by
  rintro customer - guest tr res s' ⟨hruns, hsteps⟩
  obtain ⟨rfl, _, hsends⟩ | ⟨entries, hlists, hsends, hstate⟩ :=
    resolveCustomer_cases hfield hruns hsteps
  · refine ⟨rfl, fun args r hmem item hitem => ?_⟩
    rw [hsends [] args r hmem] at hitem
    cases hitem
  · rw [hmerged] at hsends
    refine ⟨?_, fun args r hmem item hitem => ?_⟩
    · obtain ⟨rfl, _⟩ | ⟨id, book, rfl, hid, hstores⟩ := hstate
      · rfl
      · rw [hmerged] at hstores
        obtain ⟨sent, hwrite⟩ := exists_mergedWrite hout hlists h.distinct hstores
        have hbook := h.eq_of_write hids hwrite
        cases s with
        | some c => rw [hid c rfl, hbook]; rfl
        | none =>
          obtain ⟨w, hw⟩ : ∃ w, w ∈ out := by
            cases hout with
            | single | both => exact ⟨_, List.mem_cons_self ..⟩
          obtain ⟨gid, hgid⟩ := hids _ _ (hout.of_mem hw)
          obtain ⟨i, e, he, _⟩ := h.holds w hw gid hgid
          cases he
    · rw [hsends args r hmem] at hitem
      exact h.itemId_ne_none hout hids hlists hitem

/-- An order whose addresses have no content changes nothing in the addressbook of a customer. -/
theorem fixed_of_nothing (hfield : truthy connection.shopifyAddressIdField = some shopifyIdField)
    (hmerged : ∀ entries, buildAddressbookMerged addresses entries shopifyIdField = [])
    {customerId : String} (c : NsCustomer) :
    Fixed connection customerId addresses shopifyIdField (some c) := by
  rintro customer - guest tr res s' ⟨hruns, hsteps⟩
  have hnone (hsends : SendsItems [] tr) : SendsNoNew tr := by
    intro args r hmem item hitem
    rw [hsends args r hmem] at hitem
    cases hitem
  obtain ⟨rfl, _, hsends⟩ | ⟨entries, _, hsends, hstate⟩ :=
    resolveCustomer_cases hfield hruns hsteps
  · exact ⟨rfl, hnone (hsends [])⟩
  · rw [hmerged] at hsends
    refine ⟨?_, hnone hsends⟩
    obtain ⟨rfl, _⟩ | ⟨id, book, rfl, hid, hstores⟩ := hstate
    · rfl
    · rw [hmerged] at hstores
      rw [hid c rfl, eq_of_stores_nil hstores]
      rfl

/-- The first import that writes. -/
theorem imported_of_run (hfield : truthy connection.shopifyAddressIdField = some shopifyIdField)
    (hids : Identified addresses shopifyIdField)
    (hdistinct : DistinctStamps shopifyIdField (bookOf s))
    (h : CustomerRun connection customer guest addresses shopifyIdField s tr res s')
    (hwrote : (∃ r, res = .ok r) ∨ s' ≠ s) :
    Fixed connection customer.id addresses shopifyIdField s' ∧
      ∀ a content gid, HasContent addresses shopifyIdField a content → truthy a.id = some gid →
        ∃! i, ∃ e, bookOf s' i = some e ∧ e.stamp shopifyIdField = some gid := by
  obtain ⟨hruns, hsteps⟩ := h
  have hfailed : ¬ (s' = s ∧ ∃ e, res = .error e) := by
    rintro ⟨rfl, e, rfl⟩
    simp at hwrote
  obtain ⟨hsame, herror, _⟩ | ⟨entries, hlists, _, hstate | ⟨id, book, rfl, hid, hstores⟩⟩ :=
    resolveCustomer_cases hfield hruns hsteps
  · exact absurd ⟨hsame, herror⟩ hfailed
  · exact absurd hstate hfailed
  obtain ⟨hnone, hmerged⟩ | ⟨out, hout, hmerged⟩ :=
    buildAddressbookMerged_cases addresses shopifyIdField
  · exact ⟨fixed_of_nothing hfield hmerged _, fun a content gid ha => absurd ha (hnone a content)⟩
  · rw [hmerged] at hstores
    obtain ⟨sent, hwrite⟩ := exists_mergedWrite hout hlists hdistinct hstores
    have himported := hwrite.imported (truthy_eq_some.mp hfield).2 hids
    refine ⟨fixed_of_imported hfield hids hout hmerged himported, ?_⟩
    intro a content gid ha hid
    obtain ⟨w, hw, hsame⟩ := hout.exists_mem ha
    obtain ⟨i, e, he, hstamp, _⟩ := himported.holds w hw gid (hsame.trans hid)
    refine ⟨i, ⟨e, he, hstamp⟩, ?_⟩
    rintro j ⟨e', he', hstamp'⟩
    exact himported.distinct j i e' e gid he' he hstamp' hstamp

/-- Further imports of an order, one after another; whatever else the customer record says. -/
inductive Reimports (connection : Connection) (customerId : String)
    (addresses : OrderAddressesForCustomer) (shopifyIdField : String) :
    Option NsCustomer → List (List Ev) → Option NsCustomer → Prop
  | nil (s : Option NsCustomer) : Reimports connection customerId addresses shopifyIdField s [] s
  | cons {customer : ShopifyCustomer} {guest : String} {s s₁ s' : Option NsCustomer}
      {tr : List Ev} {trs : List (List Ev)} {res : Except Thrown CustomerResolution}
      (hid : customer.id = customerId)
      (h : CustomerRun connection customer guest addresses shopifyIdField s tr res s₁)
      (hrest : Reimports connection customerId addresses shopifyIdField s₁ trs s') :
      Reimports connection customerId addresses shopifyIdField s (tr :: trs) s'

theorem Fixed.reimports {customerId : String} {trs : List (List Ev)}
    (hfixed : Fixed connection customerId addresses shopifyIdField s)
    (h : Reimports connection customerId addresses shopifyIdField s trs s') :
    s' = s ∧ ∀ tr ∈ trs, SendsNoNew tr := by
  induction h with
  | nil s => exact ⟨rfl, by simp⟩
  | cons hid hrun _ ih =>
    obtain ⟨rfl, hsends⟩ := hfixed _ hid _ _ _ _ hrun
    obtain ⟨rfl, hrest⟩ := ih hfixed
    exact ⟨rfl, List.forall_mem_cons.mpr ⟨hsends, hrest⟩⟩

end Runs

/-- Importing an order again leaves the addressbook of its customer as the first import that wrote
to it left it, with one entry for each of its addresses. -/
theorem reimports_keep_addressbook {connection : Connection} {customer : ShopifyCustomer}
    {guest shopifyIdField : String} {addresses : OrderAddressesForCustomer}
    {s s₁ s₂ : Option NsCustomer} {tr : List Ev} {trs : List (List Ev)}
    {res : Except Thrown CustomerResolution}
    (hfield : truthy connection.shopifyAddressIdField = some shopifyIdField)
    (hids : Identified addresses shopifyIdField)
    (hdistinct : DistinctStamps shopifyIdField (bookOf s))
    (hfirst : CustomerRun connection customer guest addresses shopifyIdField s tr res s₁)
    (hwrote : (∃ r, res = .ok r) ∨ s₁ ≠ s)
    (hrest : Reimports connection customer.id addresses shopifyIdField s₁ trs s₂) :
    s₂ = s₁ ∧ (∀ tr ∈ trs, SendsNoNew tr) ∧
      ∀ a content gid, HasContent addresses shopifyIdField a content → truthy a.id = some gid →
        ∃! i, ∃ e, bookOf s₂ i = some e ∧ e.stamp shopifyIdField = some gid := by
  obtain ⟨hfixed, hone⟩ := imported_of_run hfield hids hdistinct hfirst hwrote
  obtain ⟨rfl, hsends⟩ := hfixed.reimports hrest
  exact ⟨rfl, hsends, hone⟩

namespace Returning

def stampField : String := "custrecord_shopify_address_id"

/-- An order with a billing address. -/
def home : OrderAddressesForCustomer where
  billing := some { id := some "gid://shopify/MailingAddress/1", city := some "Oslo" }
  shipping := none

def payload (entries : List CustomerAddressbookEntry) : Js.Fields :=
  buildCustomerPayload connection customer home entries

/-- What is sent to a book of one entry, or of none. -/
def item (entries : List CustomerAddressbookEntry) : Js.Value :=
  (addressbookItems (payload entries)).headD .undefined

/-- The entry that the first import writes. -/
def entry : BookEntry := writeItem none (item [])

def entriesAfter : List CustomerAddressbookEntry := [entry.listed stampField "51"]

/-- A book of one entry. -/
def oneEntry (e : BookEntry) : Book := fun id => if id = "51" then some e else none

def result : UpsertResult := ⟨"7", "gid://shopify/Customer/7", true, none⟩

theorem items_eq (entries : List CustomerAddressbookEntry)
    (h : (addressbookItems (payload entries)).length = 1) :
    addressbookItems (payload entries) = [item entries] := by
  obtain ⟨i, hi⟩ := List.length_eq_one_iff.mp h
  unfold item
  rw [hi]
  rfl

/-- Writing the one item of a sublist. -/
theorem stores_one {book : Book} {i : Js.Value}
    (h : (itemId i = none ∧ book "51" = none) ∨ (itemId i = some "51" ∧ ∃ e, book "51" = some e)) :
    StoresItems [i] book (oneEntry (writeItem (book "51") i)) := by
  refine .inr ⟨by simp, [("51", i)], ⟨rfl, by simp, ?_, ?_⟩, ?_, ?_⟩
  · intro p hp id hid
    obtain rfl := List.mem_singleton.mp hp
    obtain ⟨hnone, _⟩ | ⟨hsome, hbook⟩ := h
    · rw [hnone] at hid
      cases hid
    · obtain rfl := Option.some.inj (hsome.symm.trans hid)
      exact ⟨rfl, hbook⟩
  · intro p hp hid
    obtain rfl := List.mem_singleton.mp hp
    obtain ⟨_, hbook⟩ | ⟨hsome, _⟩ := h
    · exact hbook
    · rw [hsome] at hid
      cases hid
  · intro p hp
    obtain rfl := List.mem_singleton.mp hp
    exact if_pos rfl
  · intro id hid
    exact .inl (if_neg (by simpa using hid))

theorem hasField : truthy connection.shopifyAddressIdField = some stampField := by decide +kernel

theorem upsert_settles (entries : List CustomerAddressbookEntry) :
    Settles (do
        let result ← Async.io
          (.upsertByExternalId ⟨"100", .customer, customer.id, payload entries⟩)
        return (⟨result.internalId, false, result.created⟩ : CustomerResolution))
      [answered (.upsertByExternalId ⟨"100", .customer, customer.id, payload entries⟩) (.ok result)]
      (.ok ⟨"7", false, true⟩) := .call (.ret _)

/-- The customer is new at the first import. -/
theorem firstRun : CustomerRun connection customer "1" home stampField none
    [answered (.findByExternalId ⟨"100", .customer, customer.id, ["id"]⟩) (.ok none),
      answered (.upsertByExternalId ⟨"100", .customer, customer.id, payload []⟩) (.ok result)]
    (.ok ⟨"7", false, true⟩) (some ⟨"7", oneEntry entry⟩) := by
  have hruns : Settles (existingAddressbook connection customer)
      [answered (.findByExternalId ⟨"100", .customer, customer.id, ["id"]⟩) (.ok none)]
      (.ok []) := by
    unfold existingAddressbook
    rw [hasField]
    exact .call (.ret _)
  refine ⟨settles_bind_ok.mpr ⟨[], _, _, rfl, hruns, upsert_settles _⟩, ?_⟩
  refine .cons .missing (.cons (.stored (by simp) ?_) (.nil _))
  have hitems : addressbookItems (payload []) = [item []] := items_eq [] (by decide +kernel)
  rw [hitems]
  exact stores_one (.inl ⟨by decide +kernel, rfl⟩)

/-- A redelivery finds the entry that the first import wrote. -/
theorem secondRun : CustomerRun connection customer "1" home stampField
    (some ⟨"7", oneEntry entry⟩)
    [answered (.findByExternalId ⟨"100", .customer, customer.id, ["id"]⟩)
        (.ok (some [("id", .str "7")])),
      answered (.getCustomerAddressbook ⟨"100", "7", stampField⟩) (.ok entriesAfter),
      answered (.upsertByExternalId ⟨"100", .customer, customer.id, payload entriesAfter⟩)
        (.ok result)]
    (.ok ⟨"7", false, true⟩)
    (some ⟨"7", oneEntry (writeItem (some entry) (item entriesAfter))⟩) := by
  have hruns : Settles (existingAddressbook connection customer)
      [answered (.findByExternalId ⟨"100", .customer, customer.id, ["id"]⟩)
          (.ok (some [("id", .str "7")])),
        answered (.getCustomerAddressbook ⟨"100", "7", stampField⟩) (.ok entriesAfter)]
      (.ok entriesAfter) := by
    unfold existingAddressbook
    rw [hasField]
    exact .call (.call (.ret _))
  have hlists : ListsBook stampField (oneEntry entry) entriesAfter := by
    refine ⟨by simp [entriesAfter], ?_, ?_⟩
    · intro id e he
      unfold oneEntry at he
      split at he
      · next hid =>
        rw [hid, ← Option.some.inj he]
        exact List.mem_singleton_self _
      · cases he
    · intro c hc
      obtain rfl := List.mem_singleton.mp hc
      exact ⟨entry, rfl, rfl⟩
  refine ⟨settles_bind_ok.mpr ⟨entriesAfter, _, _, rfl, hruns, upsert_settles _⟩, ?_⟩
  refine .cons (.found rfl rfl rfl) (.cons (.listed rfl hlists) (.cons (.stored ?_ ?_) (.nil _)))
  · rintro c hc
    rw [← Option.some.inj hc]
    rfl
  · have hitems : addressbookItems (payload entriesAfter) = [item entriesAfter] :=
      items_eq entriesAfter (by decide +kernel)
    rw [hitems]
    exact stores_one (.inr ⟨by decide +kernel, entry, rfl⟩)

end Returning

theorem reimports_keep_addressbook_returning :
    ∃ s₂, (∃ trs, trs ≠ [] ∧ Reimports Returning.connection Returning.customer.id Returning.home
        Returning.stampField (some ⟨"7", Returning.oneEntry Returning.entry⟩) trs s₂) ∧
      s₂ = some ⟨"7", Returning.oneEntry Returning.entry⟩ := by
  refine ⟨_, ⟨_, List.cons_ne_nil _ _, .cons rfl Returning.secondRun (.nil _)⟩, ?_⟩
  refine (reimports_keep_addressbook Returning.hasField ?_ ?_ Returning.firstRun
    (.inl ⟨_, rfl⟩) (.cons rfl Returning.secondRun (.nil _))).1
  · rintro a content ⟨ha | ha, _⟩
    · obtain rfl := Option.some.inj ha
      exact ⟨"gid://shopify/MailingAddress/1", by decide +kernel⟩
    · cases ha
  · intro i j e e' gid he
    cases he

end DpIntegrator
