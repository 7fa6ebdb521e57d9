import DpIntegrator.Functions.CustomerResolver

/-!
# The addressbook of a customer payload

The entries that are written for the addresses of an order, next to the entries that the
customer already has. However these overlap there is one default for billing and one for
shipping, and no existing entry is lost or written twice.
-/

namespace DpIntegrator

/-! ## Items of the sublist -/

/-- A flag of an item. -/
def itemFlag (key : String) (item : Js.Value) : Bool :=
  match item.prop key with
  | .bool b => b
  | _ => false

/-- The internal id under which an item is written; an item without one is a new entry. -/
def itemId (item : Js.Value) : Option String :=
  match item.prop "id" with
  | .str id => some id
  | _ => none

/-- The Shopify id that the address content of an item carries. -/
def itemStamp (shopifyIdField : String) (item : Js.Value) : Option String :=
  match (item.prop "addressbookaddress").prop shopifyIdField with
  | .str id => some id
  | _ => none

section Items

variable (e : AddressbookEntry) (existing : CustomerAddressbookEntry) (b s : Bool)
  (shopifyIdField : String)

@[simp] theorem itemFlag_billing : itemFlag "defaultBilling" (toJs e) = e.defaultBilling := rfl

@[simp] theorem itemFlag_shipping : itemFlag "defaultShipping" (toJs e) = e.defaultShipping := rfl

@[simp] theorem itemId_toJs : itemId (toJs e) = e.id := by
  obtain ⟨_, _, _, _, id⟩ := e
  cases id <;> rfl

@[simp] theorem content_toJs : (toJs e).prop "addressbookaddress" = .obj e.address := rfl

@[simp] theorem label_toJs : (toJs e).prop "label" = .str e.label := rfl

@[simp] theorem itemFlag_billing_preserved :
    itemFlag "defaultBilling" (preservedEntry b s existing) = (!b && existing.defaultBilling) := by
  cases b <;> rfl

@[simp] theorem itemFlag_shipping_preserved :
    itemFlag "defaultShipping" (preservedEntry b s existing) =
      (!s && existing.defaultShipping) := by
  cases s <;> rfl

@[simp] theorem itemId_preserved :
    itemId (preservedEntry b s existing) = some existing.internalId := rfl

@[simp] theorem content_preserved :
    (preservedEntry b s existing).prop "addressbookaddress" = .undefined := by
  unfold preservedEntry whenTruthy
  cases truthy existing.label <;> rfl

@[simp] theorem itemStamp_preserved :
    itemStamp shopifyIdField (preservedEntry b s existing) = none := by
  unfold itemStamp
  rw [content_preserved]
  rfl

theorem label_preserved {label : String} (h : truthy existing.label = some label) :
    (preservedEntry b s existing).prop "label" = .str label := by
  unfold preservedEntry whenTruthy
  rw [h]
  rfl

end Items

/-! ## Matching -/

theorem truthy_eq_some {s : Option String} {v : String} :
    truthy s = some v ↔ s = some v ∧ v ≠ "" := by
  simp [truthy, Option.filter_eq_some_iff]

variable {addresses : OrderAddressesForCustomer} {existing : List CustomerAddressbookEntry}
  {shopifyIdField : String} {id : Option String} {gid : String}

/-- The entry that a Shopify id matches carries it. -/
theorem matchingEntry_eq_some {e : CustomerAddressbookEntry} (h : matchingEntry existing id = some e) :
    e ∈ existing ∧ ∃ gid, truthy id = some gid ∧ truthy e.shopifyAddressId = some gid := by
  obtain ⟨gid, hid, hfind⟩ := Option.bind_eq_some_iff.mp h
  have hstamp := List.find?_some hfind
  have hmem := List.mem_of_find?_eq_some hfind
  exact ⟨List.mem_reverse.mp hmem, gid, hid, by simpa using hstamp⟩

/-- A Shopify id that an entry carries matches an entry. -/
theorem exists_matchingEntry (hid : truthy id = some gid)
    (h : ∃ e ∈ existing, truthy e.shopifyAddressId = some gid) :
    ∃ e, matchingEntry existing id = some e := by
  obtain ⟨e, he, hstamp⟩ := h
  unfold matchingEntry
  rw [hid, Option.bind_some]
  refine Option.isSome_iff_exists.mp ?_
  rw [List.find?_isSome]
  exact ⟨e, List.mem_reverse.mpr he, by simpa using hstamp⟩

/-- The internal id of the entry that a Shopify id matches. -/
abbrev matchedId (existing : List CustomerAddressbookEntry) (id : Option String) : Option String :=
  (matchingEntry existing id).map CustomerAddressbookEntry.internalId

/-- Of existing entries with distinct internal ids, two with one internal id are one. -/
theorem eq_of_internalId (hdistinct : (existing.map CustomerAddressbookEntry.internalId).Nodup)
    {e e' : CustomerAddressbookEntry} (he : e ∈ existing) (he' : e' ∈ existing)
    (h : e.internalId = e'.internalId) : e = e' := List.inj_on_of_nodup_map hdistinct he he' h

/-- Different Shopify ids match different entries. -/
theorem matchedId_ne (hdistinct : (existing.map CustomerAddressbookEntry.internalId).Nodup)
    {id' : Option String} {i : String} (h : matchedId existing id = some i)
    (h' : matchedId existing id' = some i) : truthy id = truthy id' ∧ truthy id ≠ none := by
  obtain ⟨e, he, rfl⟩ := Option.map_eq_some_iff.mp h
  obtain ⟨e', he', heq⟩ := Option.map_eq_some_iff.mp h'
  obtain ⟨hmem, gid, hid, hstamp⟩ := matchingEntry_eq_some he
  obtain ⟨hmem', gid', hid', hstamp'⟩ := matchingEntry_eq_some he'
  obtain rfl := eq_of_internalId hdistinct hmem' hmem heq
  rw [hid, hid', ← hstamp, ← hstamp']
  exact ⟨rfl, by rw [hstamp]; simp⟩

/-! ## Incoming entries -/

/-- An address of the order. -/
def IsIncoming (addresses : OrderAddressesForCustomer) (a : ShopifyAddress) : Prop :=
  addresses.billing = some a ∨ addresses.shipping = some a

/-- An address of the order with its content. -/
def HasContent (addresses : OrderAddressesForCustomer) (shopifyIdField : String)
    (a : ShopifyAddress) (content : Js.Fields) : Prop :=
  IsIncoming addresses a ∧ shopifyAddressToNs (some a) (some shopifyIdField) = some content

/-- The entries for the addresses of an order, each with its address and before it takes over an
existing entry: one for both sides, or one for each side where the Shopify ids differ. -/
inductive Incoming (addresses : OrderAddressesForCustomer) (shopifyIdField : String) :
    List (ShopifyAddress × AddressbookEntry) → Prop
  | single {a : ShopifyAddress} {content : Js.Fields} (label : String)
      (h : HasContent addresses shopifyIdField a content)
      (honly : ∀ a' content', HasContent addresses shopifyIdField a' content' →
        truthy a'.id = truthy a.id) :
      Incoming addresses shopifyIdField [(a, ⟨true, true, label, content, none⟩)]
  | both {a b : ShopifyAddress} {content content' : Js.Fields}
      (hbilling : addresses.billing = some a) (hshipping : addresses.shipping = some b)
      (ha : HasContent addresses shopifyIdField a content)
      (hb : HasContent addresses shopifyIdField b content')
      (hne : truthy a.id = truthy b.id → truthy a.id = none) :
      Incoming addresses shopifyIdField
        [(a, ⟨true, false, "Billing", content, none⟩), (b, ⟨false, true, "Shipping", content', none⟩)]

/-- An entry takes over the existing entry that its Shopify id matches. -/
def identified (existing : List CustomerAddressbookEntry) (w : ShopifyAddress × AddressbookEntry) :
    AddressbookEntry := { w.2 with id := matchedId existing w.1.id }

theorem exists_address {o : Option ShopifyAddress} {content : Js.Fields}
    (h : shopifyAddressToNs o (some shopifyIdField) = some content) :
    ∃ a, o = some a ∧ shopifyAddressToNs (some a) (some shopifyIdField) = some content := by
  cases o with
  | none => cases h
  | some a => exact ⟨a, rfl, h⟩

theorem incoming_of_entries {billing shipping : Option Js.Fields}
    (hbilling : shopifyAddressToNs addresses.billing (some shopifyIdField) = billing)
    (hshipping : shopifyAddressToNs addresses.shipping (some shopifyIdField) = shipping)
    (hsome : ¬ (billing.isNone ∧ shipping.isNone)) :
    ∃ out, Incoming addresses shopifyIdField out ∧ ∀ existing,
      incomingEntries addresses existing billing shipping = out.map (identified existing) := by
  cases billing with
  | none =>
    cases shipping with
    | none => simp at hsome
    | some content =>
      obtain ⟨a, ha, hcontent⟩ := exists_address hshipping
      refine ⟨_, .single "Shipping" ⟨.inr ha, hcontent⟩ ?_,
        fun existing => by simp [incomingEntries, identified, ha]⟩
      rintro a' content' ⟨ha' | ha', hcontent'⟩
      · rw [ha', hcontent'] at hbilling
        cases hbilling
      · rw [Option.some.inj (ha'.symm.trans ha)]
  | some content =>
    obtain ⟨a, ha, hcontent⟩ := exists_address hbilling
    by_cases hsame : a.id.isSome ∧ a.id = addresses.shipping.bind ShopifyAddress.id
    · have hentries (existing : List CustomerAddressbookEntry) :
          incomingEntries addresses existing (some content) shipping =
            [⟨true, true, "Default", content, matchedId existing a.id⟩] := by
        unfold incomingEntries
        simp only [ha, Option.bind_some]
        rw [if_pos hsame]
      refine ⟨_, .single "Default" ⟨.inl ha, hcontent⟩ ?_, hentries⟩
      rintro a' content' ⟨ha' | ha', _⟩
      · rw [Option.some.inj (ha'.symm.trans ha)]
      · rw [hsame.2, ha', Option.bind_some]
    · cases shipping with
      | none =>
        refine ⟨_, .single "Billing" ⟨.inl ha, hcontent⟩ ?_,
          fun existing => by simp [incomingEntries, identified, ha, hsame]⟩
        rintro a' content' ⟨ha' | ha', hcontent'⟩
        · rw [Option.some.inj (ha'.symm.trans ha)]
        · rw [ha', hcontent'] at hshipping
          cases hshipping
      | some content' =>
        obtain ⟨b, hb, hcontent'⟩ := exists_address hshipping
        rw [hb, Option.bind_some] at hsame
        refine ⟨_, .both ha hb ⟨.inl ha, hcontent⟩ ⟨.inr hb, hcontent'⟩ ?_, ?_⟩
        · intro htruthy
          by_contra hne
          obtain ⟨gid, hgid⟩ := Option.ne_none_iff_exists'.mp hne
          have hid : a.id = some gid := (truthy_eq_some.mp hgid).1
          have hid' : b.id = some gid := (truthy_eq_some.mp (htruthy ▸ hgid)).1
          exact hsame ⟨by rw [hid]; rfl, by rw [hid, hid']⟩
        · intro existing
          simp [incomingEntries, identified, ha, hb, hsame]

/-! ## The merged addressbook -/

/-- The internal ids that the entries of the order take over. -/
def claimedIds (existing : List CustomerAddressbookEntry)
    (out : List (ShopifyAddress × AddressbookEntry)) : List String :=
  out.filterMap fun w => matchedId existing w.1.id

/-- The items for the addresses of the order. -/
def writtenItems (existing : List CustomerAddressbookEntry)
    (out : List (ShopifyAddress × AddressbookEntry)) : List (ShopifyAddress × Js.Value) :=
  out.map fun w => (w.1, toJs (identified existing w))

/-- The items for the existing entries that no address of the order takes over. -/
def keptItems (existing : List CustomerAddressbookEntry)
    (out : List (ShopifyAddress × AddressbookEntry)) : List Js.Value :=
  (existing.filter fun e => e.internalId ∉ claimedIds existing out).map (preservedEntry true true)

section Merged

variable {out : List (ShopifyAddress × AddressbookEntry)}

/-- The addresses of an order claim both defaults. -/
theorem Incoming.claims (h : Incoming addresses shopifyIdField out)
    (existing : List CustomerAddressbookEntry) :
    (out.map (identified existing)).any AddressbookEntry.defaultBilling = true ∧
      (out.map (identified existing)).any AddressbookEntry.defaultShipping = true := by
  cases h <;> simp [identified]

theorem buildAddressbookMerged_cases (addresses : OrderAddressesForCustomer)
    (shopifyIdField : String) :
    ((∀ a content, ¬ HasContent addresses shopifyIdField a content) ∧ ∀ existing,
        buildAddressbookMerged addresses existing shopifyIdField = []) ∨
      ∃ out, Incoming addresses shopifyIdField out ∧ ∀ existing,
        buildAddressbookMerged addresses existing shopifyIdField =
          (writtenItems existing out).map Prod.snd ++ keptItems existing out := by
  by_cases hnone : (shopifyAddressToNs addresses.billing (some shopifyIdField)).isNone ∧
    (shopifyAddressToNs addresses.shipping (some shopifyIdField)).isNone
  · refine .inl ⟨?_, fun existing => if_pos hnone⟩
    rintro a content ⟨ha | ha, hcontent⟩
    · simp [ha, hcontent] at hnone
    · simp [ha, hcontent] at hnone
  · obtain ⟨out, hout, hentries⟩ := incoming_of_entries rfl rfl hnone
    refine .inr ⟨out, hout, fun existing => ?_⟩
    have hclaimed : (out.map (identified existing)).filterMap AddressbookEntry.id =
        claimedIds existing out := by
      rw [List.filterMap_map]
      rfl
    have hwritten : (out.map (identified existing)).map toJs =
        (writtenItems existing out).map Prod.snd := by
      rw [writtenItems, List.map_map, List.map_map]
      rfl
    have hclaims := hout.claims existing
    refine (if_neg hnone).trans ?_
    rw [hentries, hclaims.1, hclaims.2, hclaimed, hwritten]
    rfl

/-- Two addresses of an order take over different entries. -/
theorem Incoming.claimedIds_nodup (h : Incoming addresses shopifyIdField out)
    (hdistinct : (existing.map CustomerAddressbookEntry.internalId).Nodup) :
    (claimedIds existing out).Nodup := by
  cases h with
  | @single a _ label =>
    simp only [claimedIds, List.filterMap_cons, List.filterMap_nil]
    cases matchedId existing a.id <;> simp
  | @both a b _ _ _ _ _ _ hne =>
    simp only [claimedIds, List.filterMap_cons, List.filterMap_nil]
    cases hid : matchedId existing a.id with
    | none => cases matchedId existing b.id <;> simp
    | some i =>
      cases hid' : matchedId existing b.id with
      | none => simp
      | some i' =>
        have hii : i ≠ i' := by
          rintro rfl
          obtain ⟨hsame, hsome⟩ := matchedId_ne hdistinct hid hid'
          exact hsome (hne hsame)
        simpa using hii

/-- The items of the order claim what its entries claim. -/
theorem countP_writtenItems (existing : List CustomerAddressbookEntry)
    (out : List (ShopifyAddress × AddressbookEntry)) (i : String) :
    ((writtenItems existing out).map Prod.snd).countP (fun item => itemId item = some i) =
      (claimedIds existing out).count i := by
  induction out with
  | nil => rfl
  | cons w rest ih =>
    have hrest : ((writtenItems existing (w :: rest)).map Prod.snd) =
        toJs (identified existing w) :: (writtenItems existing rest).map Prod.snd := rfl
    rw [hrest, List.countP_cons, ih, itemId_toJs]
    change _ + (if decide (matchedId existing w.1.id = some i) = true then 1 else 0) = _
    cases hid : matchedId existing w.1.id with
    | none => simp [claimedIds, hid]
    | some i' => simp [claimedIds, hid, List.count_cons]

/-- An existing id is kept once, unless the order takes it over. -/
theorem countP_keptItems (hdistinct : (existing.map CustomerAddressbookEntry.internalId).Nodup)
    {e : CustomerAddressbookEntry} (he : e ∈ existing) :
    (keptItems existing out).countP (fun item => itemId item = some e.internalId) =
      if e.internalId ∈ claimedIds existing out then 0 else 1 := by
  unfold keptItems
  rw [List.countP_map]
  have hcomp : ((fun item => decide (itemId item = some e.internalId)) ∘
      preservedEntry true true) = fun e' => decide (e'.internalId = e.internalId) := by
    funext e'
    simp
  rw [hcomp, List.countP_filter]
  split
  · next hmem =>
    rw [List.countP_eq_zero]
    intro e' _ hboth
    simp only [Bool.and_eq_true, decide_eq_true_eq] at hboth
    exact hboth.2 (hboth.1 ▸ hmem)
  · next hmem =>
    have hcount := List.count_eq_one_of_mem hdistinct (List.mem_map_of_mem he)
    rw [List.count, List.countP_map] at hcount
    rw [← hcount]
    refine List.countP_congr fun e' _ => ?_
    simp only [Bool.and_eq_true, decide_eq_true_eq, Function.comp_apply, beq_iff_eq]
    constructor
    · exact And.left
    · exact fun heq => ⟨heq, heq ▸ hmem⟩

/-- Exactly one item is the default of each kind. -/
def OneDefault (items : List Js.Value) : Prop :=
  items.countP (itemFlag "defaultBilling") = 1 ∧ items.countP (itemFlag "defaultShipping") = 1

/-- What is written of the addresses of an order next to the existing entries. -/
structure WellMerged (addresses : OrderAddressesForCustomer)
    (existing : List CustomerAddressbookEntry) (shopifyIdField : String) (items : List Js.Value) :
    Prop where
  /-- Nothing is written for an order whose addresses have no content. -/
  nothing_iff : items = [] ↔ ∀ a content, ¬ HasContent addresses shopifyIdField a content
  /-- Every existing entry is written once. -/
  once : items ≠ [] → ∀ e ∈ existing, items.countP (fun item => itemId item = some e.internalId) = 1
  /-- The items with the content of an address come first. One that takes over an existing entry has
  its Shopify id; the other existing entries keep their label and their content. -/
  parts : items ≠ [] → ∃ (written : List (ShopifyAddress × Js.Value)) (kept : List Js.Value),
    items = written.map Prod.snd ++ kept ∧
    (∀ w ∈ written, (∃ content, HasContent addresses shopifyIdField w.1 content ∧
        w.2.prop "addressbookaddress" = .obj content) ∧
      ∀ i, itemId w.2 = some i → ∃ e ∈ existing, e.internalId = i ∧
        ∃ gid, truthy w.1.id = some gid ∧ truthy e.shopifyAddressId = some gid) ∧
    (∀ item ∈ kept, ∃ e ∈ existing, itemId item = some e.internalId ∧
      item.prop "addressbookaddress" = .undefined ∧
        ∀ label, truthy e.label = some label → item.prop "label" = .str label) ∧
    -- A Shopify id that existing entries carry is written once, over one of them.
    ∀ a content gid, HasContent addresses shopifyIdField a content → truthy a.id = some gid →
      (∃ e ∈ existing, truthy e.shopifyAddressId = some gid) →
        written.countP (fun w => truthy w.1.id = some gid) = 1 ∧
          ∀ w ∈ written, truthy w.1.id = some gid → ∃ e ∈ existing,
            truthy e.shopifyAddressId = some gid ∧ itemId w.2 = some e.internalId

/-- An entry of the order has the content of its address. -/
theorem Incoming.of_mem (h : Incoming addresses shopifyIdField out)
    {w : ShopifyAddress × AddressbookEntry} (hw : w ∈ out) :
    HasContent addresses shopifyIdField w.1 w.2.address := by
  cases h with
  | single _ h =>
    obtain rfl := List.mem_singleton.mp hw
    exact h
  | both _ _ ha hb _ =>
    simp only [List.mem_cons, List.not_mem_nil, or_false] at hw
    obtain rfl | rfl := hw
    · exact ha
    · exact hb

/-- The Shopify id of an address with content is written once. -/
theorem Incoming.countP_stamp (h : Incoming addresses shopifyIdField out)
    {a : ShopifyAddress} {content : Js.Fields}
    (ha : HasContent addresses shopifyIdField a content) (hid : truthy a.id = some gid) :
    (writtenItems existing out).countP (fun w => truthy w.1.id = some gid) = 1 := by
  cases h with
  | @single a' _ _ _ honly =>
    have hsame : truthy a'.id = some gid := by rw [← honly a content ha, hid]
    simp [writtenItems, hsame]
  | @both b c _ _ hbilling hshipping _ _ hne =>
    have hone : (truthy b.id = some gid ∧ truthy c.id ≠ some gid) ∨
        (truthy b.id ≠ some gid ∧ truthy c.id = some gid) := by
      have hnot : ¬ (truthy b.id = some gid ∧ truthy c.id = some gid) := by
        rintro ⟨hb, hc⟩
        rw [hne (hb.trans hc.symm)] at hb
        cases hb
      obtain hb | hc := ha.1
      · obtain rfl := Option.some.inj (hb.symm.trans hbilling)
        exact .inl ⟨hid, fun hc => hnot ⟨hid, hc⟩⟩
      · obtain rfl := Option.some.inj (hc.symm.trans hshipping)
        exact .inr ⟨fun hb => hnot ⟨hb, hid⟩, hid⟩
    obtain ⟨hb, hc⟩ | ⟨hb, hc⟩ := hone <;> simp [writtenItems, hb, hc]

theorem oneDefault_merged (h : Incoming addresses shopifyIdField out) :
    OneDefault ((writtenItems existing out).map Prod.snd ++ keptItems existing out) := by
  have hbilling : (keptItems existing out).countP (itemFlag "defaultBilling") = 0 := by
    rw [List.countP_eq_zero]
    intro item hitem
    obtain ⟨e, _, rfl⟩ := List.mem_map.mp hitem
    simp
  have hshipping : (keptItems existing out).countP (itemFlag "defaultShipping") = 0 := by
    rw [List.countP_eq_zero]
    intro item hitem
    obtain ⟨e, _, rfl⟩ := List.mem_map.mp hitem
    simp
  unfold OneDefault
  rw [List.countP_append, List.countP_append, hbilling, hshipping]
  cases h <;> simp [writtenItems, identified, List.countP_cons]

theorem wellMerged_of_incoming (h : Incoming addresses shopifyIdField out)
    (hdistinct : (existing.map CustomerAddressbookEntry.internalId).Nodup) :
    WellMerged addresses existing shopifyIdField
      ((writtenItems existing out).map Prod.snd ++ keptItems existing out) where
  nothing_iff := by
    refine iff_of_false ?_ fun hnone => ?_
    · cases h <;> simp [writtenItems]
    · cases h with
      | single _ h => exact hnone _ _ h
      | both _ _ ha => exact hnone _ _ ha
  once _ e he := by
    rw [List.countP_append, countP_writtenItems, countP_keptItems hdistinct he]
    split
    · next hmem => rw [List.count_eq_one_of_mem (h.claimedIds_nodup hdistinct) hmem]
    · next hmem => rw [List.count_eq_zero_of_not_mem hmem]
  parts _ := by
    have hmatched {w : ShopifyAddress × AddressbookEntry} {i : String}
        (hi : matchedId existing w.1.id = some i) : ∃ e ∈ existing, e.internalId = i ∧
          ∃ gid, truthy w.1.id = some gid ∧ truthy e.shopifyAddressId = some gid := by
      obtain ⟨e, hmatch, rfl⟩ := Option.map_eq_some_iff.mp hi
      obtain ⟨he, gid, hid, hstamp⟩ := matchingEntry_eq_some hmatch
      exact ⟨e, he, rfl, gid, hid, hstamp⟩
    refine ⟨writtenItems existing out, keptItems existing out, rfl, ?_, ?_, ?_⟩
    · intro w hw
      obtain ⟨v, hv, rfl⟩ := List.mem_map.mp hw
      refine ⟨⟨_, h.of_mem hv, content_toJs _⟩, fun i hi => ?_⟩
      rw [itemId_toJs] at hi
      exact hmatched hi
    · intro item hitem
      obtain ⟨e, he, rfl⟩ := List.mem_map.mp hitem
      exact ⟨e, (List.mem_filter.mp he).1, itemId_preserved .., content_preserved ..,
        fun label hlabel => label_preserved e true true hlabel⟩
    · intro a content gid ha hid hstamped
      refine ⟨h.countP_stamp ha hid, fun w hw hgid => ?_⟩
      obtain ⟨v, hv, rfl⟩ := List.mem_map.mp hw
      obtain ⟨e, hmatch⟩ := exists_matchingEntry hgid hstamped
      obtain ⟨he, gid', hid', hstamp⟩ := matchingEntry_eq_some hmatch
      obtain rfl := Option.some.inj (hgid.symm.trans hid')
      refine ⟨e, he, hstamp, ?_⟩
      change itemId (toJs (identified existing v)) = _
      rw [itemId_toJs, identified, matchedId, hmatch]
      rfl

end Merged

/-- The merged addressbook of existing entries with distinct internal ids. -/
theorem buildAddressbookMerged_wellMerged (addresses : OrderAddressesForCustomer)
    (shopifyIdField : String)
    (hdistinct : (existing.map CustomerAddressbookEntry.internalId).Nodup) :
    WellMerged addresses existing shopifyIdField
      (buildAddressbookMerged addresses existing shopifyIdField) := by
  obtain ⟨hnone, hitems⟩ | ⟨out, hout, hitems⟩ :=
    buildAddressbookMerged_cases addresses shopifyIdField
  · rw [hitems]
    refine ⟨iff_of_true rfl hnone, ?_, ?_⟩
    · intro h
      exact absurd rfl h
    · intro h
      exact absurd rfl h
  · rw [hitems]
    exact wellMerged_of_incoming hout hdistinct

theorem buildAddressbookMerged_oneDefault (addresses : OrderAddressesForCustomer)
    (existing : List CustomerAddressbookEntry) (shopifyIdField : String)
    (h : buildAddressbookMerged addresses existing shopifyIdField ≠ []) :
    OneDefault (buildAddressbookMerged addresses existing shopifyIdField) := by
  obtain ⟨_, hitems⟩ | ⟨out, hout, hitems⟩ :=
    buildAddressbookMerged_cases addresses shopifyIdField
  · exact absurd (hitems existing) h
  · rw [hitems]
    exact oneDefault_merged hout

theorem buildAddressbookLegacy_oneDefault (addresses : OrderAddressesForCustomer)
    (h : buildAddressbookLegacy addresses ≠ []) :
    OneDefault ((buildAddressbookLegacy addresses).map toJs) := by
  revert h
  unfold buildAddressbookLegacy OneDefault
  cases shopifyAddressToNs addresses.billing none with
  | none => cases shopifyAddressToNs addresses.shipping none <;> simp
  | some billing =>
    cases shopifyAddressToNs addresses.shipping none with
    | none => simp
    | some shipping =>
      dsimp only
      split <;> simp [List.countP_cons]

/-! ## The payload -/

/-- The items of the addressbook sublist of a customer payload. -/
def addressbookItems (payload : Js.Fields) : List Js.Value :=
  match payload.get? "addressbook" with
  | some book => match book.prop "items" with
    | .arr items => items
    | _ => []
  | none => []

theorem get?_whenTruthy_of_ne {key key' : String} (h : key ≠ key') (s : Option String) :
    (whenTruthy key s).get? key' = none := by
  unfold whenTruthy optional
  cases truthy s with
  | none => rfl
  | some v => exact (Js.Fields.get?_cons _ _ _).trans (if_neg h)

theorem addressbookItems_buildCustomerPayload (connection : Connection) (c : ShopifyCustomer)
    (addresses : OrderAddressesForCustomer) (existing : List CustomerAddressbookEntry) :
    addressbookItems (buildCustomerPayload connection c addresses existing) =
      match truthy connection.shopifyAddressIdField with
      | some shopifyIdField => buildAddressbookMerged addresses existing shopifyIdField
      | none => (buildAddressbookLegacy addresses).map toJs := by
  have hbook {fields : Js.Fields} (items : List Js.Value)
      (h : fields.get? "addressbook" = none) :
      addressbookItems (fields ++ if items = [] then []
        else [("addressbook", .obj [("items", .arr items)])]) = items := by
    unfold addressbookItems
    rw [Js.Fields.get?_append, h, Option.none_or]
    by_cases hempty : items = []
    · rw [if_pos hempty, hempty]
      rfl
    · rw [if_neg hempty]
      rfl
  unfold buildCustomerPayload
  refine hbook _ ?_
  simp only [Js.Fields.get?_append]
  split
  · simp [Js.Fields.get?_append, Js.Fields.get?_cons, get?_whenTruthy_of_ne]
  · simp [Js.Fields.get?_cons, get?_whenTruthy_of_ne, field]

/-- The addressbook of a customer payload has one default of each kind. Merged into entries with
distinct internal ids, it writes each of these once and every address of the order over the entry
that its Shopify id matches. -/
theorem addressbook_wellFormed (connection : Connection) (c : ShopifyCustomer)
    (addresses : OrderAddressesForCustomer) (existing : List CustomerAddressbookEntry)
    (hdistinct : (existing.map CustomerAddressbookEntry.internalId).Nodup) :
    let items := addressbookItems (buildCustomerPayload connection c addresses existing)
    (items ≠ [] → OneDefault items) ∧
      ∀ shopifyIdField, truthy connection.shopifyAddressIdField = some shopifyIdField →
        WellMerged addresses existing shopifyIdField items := by
  rw [addressbookItems_buildCustomerPayload]
  cases hfield : truthy connection.shopifyAddressIdField with
  | none =>
    refine ⟨fun h => ?_, fun _ h => ?_⟩
    · exact buildAddressbookLegacy_oneDefault addresses (by simpa using h)
    · cases h
  | some key =>
    refine ⟨buildAddressbookMerged_oneDefault addresses existing key, fun _ h => ?_⟩
    obtain rfl := Option.some.inj h
    exact buildAddressbookMerged_wellMerged addresses key hdistinct

namespace Returning

/-- A customer with two addresses orders again. -/
def connection : Connection where
  connectionId := "conn-a"
  environment := .sandbox
  shopifyStore := "a.myshopify.com"
  shopifyWebhookSecretRef := "hook"
  nsAccountId := "100"
  nsSubsidiary := "1"
  baseCurrency := "USD"
  taxEngine := .legacy
  orderTarget := .salesOrder
  enabled := true
  shopifyAddressIdField := some "custrecord_shopify_address_id"

def customer : ShopifyCustomer := { id := "gid://shopify/Customer/7" }

def orderAddresses : OrderAddressesForCustomer where
  billing := some { id := some "gid://shopify/MailingAddress/1", city := some "Oslo" }
  shipping := some { id := some "gid://shopify/MailingAddress/2", city := some "Bergen" }

def entries : List CustomerAddressbookEntry :=
  [⟨"41", some "gid://shopify/MailingAddress/2", true, false, some "Home"⟩,
    ⟨"42", none, false, true, some "Office"⟩]

end Returning

theorem addressbook_wellFormed_returning :
    let items := addressbookItems
      (buildCustomerPayload Returning.connection Returning.customer Returning.orderAddresses
        Returning.entries)
    items.map itemId = [none, some "41", some "42"] ∧ OneDefault items ∧
      WellMerged Returning.orderAddresses Returning.entries "custrecord_shopify_address_id" items := by
  have hitems : (addressbookItems (buildCustomerPayload Returning.connection Returning.customer
      Returning.orderAddresses Returning.entries)).map itemId = [none, some "41", some "42"] := by
    decide +kernel
  have hwell := addressbook_wellFormed Returning.connection Returning.customer Returning.orderAddresses
    Returning.entries (by decide)
  refine ⟨hitems, hwell.1 fun hempty => ?_, hwell.2 _ (by decide)⟩
  rw [hempty] at hitems
  cases hitems

end DpIntegrator
