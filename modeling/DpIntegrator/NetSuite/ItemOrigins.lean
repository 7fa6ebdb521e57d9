import DpIntegrator.NetSuite.Discounts

/-!
# Where item ids come from

The lines of an order ask to look up their items; a shipping line does, unless the
connection has a ship item. This file says which items a whole run of the pipeline looks
up and which ids end up on the lines. The balancing line carries an internal id in the
place where the other lines carry a name, and is looked up like them.
-/

namespace DpIntegrator

open Effects

/-- What the gateway answers when an item is looked up. -/
abbrev ItemAnswers := String → Except Thrown (Option String)

section

variable {dates : Dates} {args : BuildOrderPayloadArgs} {order : ShopifyOrder}
  {connection : Connection} {draft headerTax : Js.Fields} {balanced : BalancedPayload}
  {nsAccountId sublistName sku : String} {fallback : Option String} {idx : ℕ}
  {line line' : Js.Value} {lines lines' front back : List Js.Value} {tr tr' : List Ev}
  {answer : ItemAnswers}

/-! ## Answers -/

/-- The items that were looked up got the answers of `answer`. -/
def Answered (nsAccountId : String) (answer : ItemAnswers) (tr : List Ev) : Prop :=
  ∀ sku r, lookedUpItem nsAccountId sku r ∈ tr → r = answer sku

theorem Answered.mono (h : Answered nsAccountId answer tr') (hsub : tr ⊆ tr') :
    Answered nsAccountId answer tr :=
  fun sku r hmem => h sku r (hsub hmem)

/-- The internal id that a line gets for the item that it asks for. -/
def resolvedId (answer : ItemAnswers) (fallback : Option String) (sku : String) : Option String :=
  match answer sku with
  | .ok (some id) => some id
  | .ok none => fallback
  | .error _ => none

/-- The id of the item of a line. -/
def lineItemId (line : Js.Value) : Option String :=
  match (line.prop "item").prop "id" with
  | .str id => some id
  | _ => none

@[simp] theorem lineItemId_withItemId (line : Js.Value) (id : String) :
    lineItemId (withItemId line id) = some id := by
  unfold lineItemId withItemId
  rw [Js.Value.prop_obj, Js.Fields.get?_set_self]
  rfl

/-- A line that was looked up gets the id that its item is resolved to. -/
theorem LineResolved.itemId_eq (h : LineResolved nsAccountId fallback line tr line')
    (hsku : skuOf line = some sku) (hanswers : Answered nsAccountId answer tr) :
    lineItemId line' = resolvedId answer fallback sku ∧
      (resolvedId answer fallback sku).isSome = true := by
  rw [skuOf_eq_some] at hsku
  cases h with
  | kept _ href | marked _ href =>
    rw [hsku] at href
    cases href
  | @found sku' id _ href =>
    rw [hsku] at href
    cases href
    have hanswer := hanswers sku _ (List.mem_singleton.mpr rfl)
    simp [resolvedId, ← hanswer]
  | @missed sku' id _ href hfallback =>
    rw [hsku] at href
    cases href
    have hanswer := hanswers sku _ (List.mem_singleton.mpr rfl)
    simp [resolvedId, ← hanswer, hfallback]

/-- Resolved lines that were looked up get the ids that their items are resolved to. -/
theorem LinesRun.itemIds
    (h : LinesRun nsAccountId sublistName fallback idx lines tr (.ok (.ok lines')))
    (hanswers : Answered nsAccountId answer tr) :
    List.Forall₂ (fun line line' => ∀ sku, skuOf line = some sku →
      lineItemId line' = resolvedId answer fallback sku) lines lines' := by
  refine h.resolved.2.imp fun line line' hline sku hsku => ?_
  obtain ⟨t, hsub, hresolved⟩ := hline
  exact (hresolved.itemId_eq hsku (hanswers.mono hsub)).1

/-! ## Runs over two parts of a sublist -/

/-- An item that is not resolved ends the run: what follows it is never reached. Induction on
the lines in front. -/
theorem LinesRun.stops {res : Except Thrown (MappingResult (List Js.Value))}
    (h : LinesRun nsAccountId sublistName fallback idx (front ++ back) tr res)
    (hanswers : Answered nsAccountId answer tr) (hsku : sku ∈ front.filterMap skuOf)
    (hnone : resolvedId answer fallback sku = none) :
    LinesRun nsAccountId sublistName fallback idx front tr res ∧
      ∀ lines, res ≠ .ok (.ok lines) := by
  induction front generalizing idx tr res with
  | nil => cases hsku
  | cons line front ih =>
    rw [List.cons_append] at h
    cases h with
    | unreadable hnull message => exact ⟨.unreadable hnull message, by simp⟩
    | failed href e => exact ⟨.failed href e, by simp⟩
    | parked href hfallback => exact ⟨.parked href hfallback, by simp⟩
    | @cons _ _ line' _ t t' r hline hrest =>
      have hmem : sku ∈ front.filterMap skuOf := by
        obtain ⟨asked, hasked, hskuOf⟩ := List.mem_filterMap.mp hsku
        rcases List.mem_cons.mp hasked with rfl | hasked
        · have hsome := (hline.itemId_eq hskuOf (hanswers.mono (List.subset_append_left ..))).2
          rw [hnone] at hsome
          cases hsome
        · exact List.mem_filterMap.mpr ⟨asked, hasked, hskuOf⟩
      obtain ⟨hfront, hne⟩ := ih hrest (hanswers.mono (List.subset_append_right ..)) hmem
      refine ⟨.cons hline hfront, fun lines hok => ?_⟩
      obtain ⟨rest, hr, _⟩ := prepend_eq_ok hok
      exact hne rest hr

/-- Lines that are all resolved are passed. Induction on the lines in front. -/
theorem LinesRun.passes {res : Except Thrown (MappingResult (List Js.Value))}
    (h : LinesRun nsAccountId sublistName fallback idx (front ++ back) tr res)
    (hanswers : Answered nsAccountId answer tr)
    (hlines : ∀ line ∈ front, line.isNullish = false)
    (hall : ∀ sku ∈ front.filterMap skuOf, resolvedId answer fallback sku ≠ none) :
    ∃ front' t t' r, tr = t ++ t' ∧
      LinesRun nsAccountId sublistName fallback idx front t (.ok (.ok front')) ∧
      LinesRun nsAccountId sublistName fallback (idx + front.length) back t' r ∧
      ((∃ back', r = .ok (.ok back') ∧ res = .ok (.ok (front' ++ back'))) ∨
        (∀ back', r ≠ .ok (.ok back')) ∧ res = r) := by
  induction front generalizing idx tr res with
  | nil =>
    refine ⟨[], [], tr, res, rfl, .nil idx, h, ?_⟩
    by_cases hok : ∃ back', res = .ok (.ok back')
    · obtain ⟨back', rfl⟩ := hok
      exact .inl ⟨back', rfl, rfl⟩
    · exact .inr ⟨fun back' heq => hok ⟨back', heq⟩, rfl⟩
  | cons line front ih =>
    have hresolved {sku : String} {r : Except Thrown (Option String)}
        (href : itemReference line = .sku sku) (hmem : lookedUpItem nsAccountId sku r ∈ tr) :
        ∃ id, resolvedId answer fallback sku = some id ∧ r = answer sku := by
      have hne := hall sku (List.mem_filterMap.mpr ⟨line, List.mem_cons_self ..,
        skuOf_eq_some.mpr href⟩)
      obtain ⟨id, hid⟩ := Option.ne_none_iff_exists'.mp hne
      exact ⟨id, hid, hanswers sku r hmem⟩
    rw [List.cons_append] at h
    cases h with
    | unreadable hnull message =>
      rw [hlines line (List.mem_cons_self ..)] at hnull
      cases hnull
    | failed href e =>
      obtain ⟨id, hid, hanswer⟩ := hresolved href (List.mem_singleton.mpr rfl)
      simp [resolvedId, ← hanswer] at hid
    | parked href hfallback =>
      obtain ⟨id, hid, hanswer⟩ := hresolved href (List.mem_singleton.mpr rfl)
      simp [resolvedId, ← hanswer, hfallback] at hid
    | @cons _ _ line' _ t t' r hline hrest =>
      have hskus : ∀ sku ∈ front.filterMap skuOf, resolvedId answer fallback sku ≠ none := by
        intro sku hsku
        obtain ⟨asked, hasked, hskuOf⟩ := List.mem_filterMap.mp hsku
        exact hall sku (List.mem_filterMap.mpr ⟨asked, List.mem_cons_of_mem _ hasked, hskuOf⟩)
      obtain ⟨front', t₁, t₂, r', rfl, hfront, hback, hcase⟩ := ih hrest
        (hanswers.mono (List.subset_append_right ..))
        (fun l hl => hlines l (List.mem_cons_of_mem _ hl)) hskus
      refine ⟨line' :: front', t ++ t₁, t₂, r', (List.append_assoc ..).symm,
        .cons (r := .ok (.ok front')) hline hfront, ?_, ?_⟩
      · rwa [List.length_cons, Nat.add_comm front.length, ← Nat.add_assoc]
      · rcases hcase with ⟨back', rfl, rfl⟩ | ⟨hne, rfl⟩
        · exact .inl ⟨back', rfl, rfl⟩
        · refine .inr ⟨hne, ?_⟩
          unfold prepend
          split
          · next lines => exact absurd rfl (hne lines)
          · rfl

/-- Lines of which one asks for a look-up are not resolved without one. -/
theorem LinesRun.lookups_ne_nil {res : Except Thrown (MappingResult (List Js.Value))}
    (h : LinesRun nsAccountId sublistName fallback idx lines tr res)
    (hlines : ∀ line ∈ lines, line.isNullish = false) (hsku : lines.filterMap skuOf ≠ []) :
    lookups tr ≠ [] := by
  induction h with
  | nil => exact absurd rfl hsku
  | unreadable hnull =>
    rw [hlines _ (List.mem_cons_self ..)] at hnull
    cases hnull
  | failed | parked => simp
  | @cons _ line line' rest t t' r hline _ ih =>
    rw [lookups_append, hline.lookups_eq]
    cases hasked : skuOf line with
    | some sku => simp
    | none =>
      rw [List.filterMap_cons_none hasked] at hsku
      simpa using ih (fun l hl => hlines l (List.mem_cons_of_mem _ hl)) hsku

/-! ## The lines of the pipeline -/

/-- The item that an order line asks for. -/
def ownSku (line : ShopifyLineItem) : String := line.sku.getD "UNMAPPED-ITEM"

/-- The items that the lines of an order ask for. -/
def ownSkus (order : ShopifyOrder) : List String := order.lineItems.map ownSku

/-- The items that the shipping lines of an order ask for: none with a ship item. -/
def shipSkus (connection : Connection) (order : ShopifyOrder) : List String :=
  match truthy connection.defaultShipItemId with
  | some _ => []
  | none => order.shippingLines.map fun _ => "SHIP-STANDARD"

theorem skuOf_draftLine (line : ShopifyLineItem) : skuOf (draftLine line) = some (ownSku line) := rfl

theorem filterMap_draftLines (items : List ShopifyLineItem) :
    (items.map draftLine).filterMap skuOf = items.map ownSku := by
  rw [List.filterMap_map]
  exact List.filterMap_eq_map' .. ▸ rfl

theorem itemReference_draftShippingLine (connection : Connection) (line : ShopifyShippingLine) :
    itemReference (draftShippingLine connection line) =
      match truthy connection.defaultShipItemId with
      | some id => .resolved id
      | none => .sku "SHIP-STANDARD" := by
  unfold draftShippingLine draftShipItem
  cases truthy connection.defaultShipItemId <;> rfl

theorem filterMap_draftShippingLines (connection : Connection) (order : ShopifyOrder) :
    (order.shippingLines.map (draftShippingLine connection)).filterMap skuOf =
      shipSkus connection order := by
  unfold shipSkus
  rw [List.filterMap_map]
  split
  · next id hid =>
    refine List.filterMap_eq_nil_iff.mpr fun line _ => ?_
    simp [skuOf, itemReference_draftShippingLine, hid]
  · next hnone =>
    have hfun : skuOf ∘ draftShippingLine connection = fun _ => some "SHIP-STANDARD" := by
      funext line
      simp [skuOf, itemReference_draftShippingLine, hnone]
    rw [hfun]
    exact List.filterMap_eq_map' .. ▸ rfl

theorem isNullish_draftLines : ∀ line ∈ order.lineItems.map draftLine, line.isNullish = false := by
  intro line hline
  obtain ⟨item, _, rfl⟩ := List.mem_map.mp hline
  rfl

/-- The sublists of a payload that was balanced. -/
theorem balanced_sublists (hbalance : applyBalancing draft order defaultBalancing =
      .ok (.ok balanced)) (hlines : itemLines draft = .ok lines) :
    (∀ key, key ≠ "item" → balanced.payload.get? key = draft.get? key) ∧
      (balanced.diagnostics.diff = 0 ∧ itemLines balanced.payload = .ok lines ∨
        balanced.diagnostics.diff ≠ 0 ∧ itemLines balanced.payload =
          .ok (lines ++ [balancingLine defaultBalancing balanced.diagnostics.diff])) := by
  obtain ⟨_, _, ⟨hzero, hpayload⟩ | ⟨hne, lines', hlines', hpayload⟩⟩ :=
    applyBalancing_eq_ok hbalance
  · rw [hpayload]
    exact ⟨fun _ _ => rfl, .inl ⟨hzero, hlines⟩⟩
  · rw [hlines, Except.ok.injEq] at hlines'
    rw [hpayload, ← hlines']
    exact ⟨fun _ hkey => get?_withItems _ _ hkey, .inr ⟨hne, itemLines_withItems ..⟩⟩

/-- Lines whose amounts were read are no nulls. Induction on the lines. -/
theorem isNullish_of_amountsOf {amounts : List Js.Value} (h : amountsOf lines = .ok amounts) :
    ∀ line ∈ lines, line.isNullish = false := by
  unfold amountsOf at h
  induction lines generalizing amounts with
  | nil => simp
  | cons line rest ih =>
    rw [List.mapM_cons] at h
    obtain ⟨amount, hamount, h⟩ := bind_eq_ok.mp h
    obtain ⟨tail, htail, _⟩ := bind_eq_ok.mp h
    have hline : line.isNullish = false := by
      by_contra hnull
      rw [Bool.not_eq_false] at hnull
      rw [if_pos hnull] at hamount
      cases hamount
    exact List.forall_mem_cons.mpr ⟨hline, ih htail⟩

/-- The shipping lines of a payload that was balanced can be read. -/
theorem shippingLines_of_balanced (hbalance : applyBalancing draft order defaultBalancing =
      .ok (.ok balanced)) :
    ∃ ship, shippingLines draft = .ok ship ∧ ∀ line ∈ ship, line.isNullish = false := by
  obtain ⟨hd, _⟩ := applyBalancing_eq_ok hbalance
  unfold balancingDiagnostics at hd
  obtain ⟨_, _, hd⟩ := bind_eq_ok.mp hd
  obtain ⟨_, _, hd⟩ := bind_eq_ok.mp hd
  obtain ⟨ship, hship, hd⟩ := bind_eq_ok.mp hd
  obtain ⟨amounts, hamounts, _⟩ := bind_eq_ok.mp hd
  exact ⟨ship, hship, isNullish_of_amountsOf hamounts⟩

/-! ## The right items -/

/-- The id of the item of every shipping line of an order. -/
def shipItemId (connection : Connection) (answer : ItemAnswers) : Option String :=
  match truthy connection.defaultShipItemId with
  | some id => some id
  | none => resolvedId answer none "SHIP-STANDARD"

/-- The resolver looks up nothing but what the lines of the order ask for, parks on nothing
else, and every line gets the answer for what it asks for, or keeps the internal id that
the configuration gives it. -/
structure ItemsRight (args : BuildOrderPayloadArgs) (draft : NsOrderPayload)
    (answer : ItemAnswers) (diff : Js.Number) (tr : List Ev)
    (res : Except Thrown (MappingResult NsOrderPayload)) : Prop where
  asked : lookups tr <+: ownSkus args.order ++ shipSkus args.connection args.order
  parks : ∀ reason, res = .ok (.parked reason) →
    (∃ sku ∈ ownSkus args.order, resolvedId answer args.connection.defaultItemId sku = none) ∨
      ∃ sku ∈ shipSkus args.connection args.order, resolvedId answer none sku = none
  items : ∀ final, res = .ok (.ok final) → ∃ lines extra, itemLines final = .ok (lines ++ extra) ∧
    List.Forall₂ (fun line line' => lineItemId line' =
      resolvedId answer args.connection.defaultItemId (ownSku line)) args.order.lineItems lines ∧
    (diff = 0 ∧ extra = [] ∨ diff ≠ 0 ∧ ∃ line, extra = [line] ∧
      lineItemId line = some defaultBalancing.balancingItemId)
  shipping : ∀ final, res = .ok (.ok final) → args.order.shippingLines ≠ [] →
    ∃ lines, shippingLines final = .ok lines ∧
      List.Forall₂ (fun _ line' => lineItemId line' = shipItemId args.connection answer)
        args.order.shippingLines lines
  configured : ∀ final, res = .ok (.ok final) → args.order.shippingLines = [] →
    ∃ lines lines', shippingLines draft = .ok lines ∧ shippingLines final = .ok lines' ∧
      List.Forall₂ (fun line line' => line' = line ∨
        ∃ id, itemReference line = .resolved id ∧ line' = withItemId line id) lines lines'

/-- No shipping line asks for a look-up that the extra mappings of a connection wrote onto an
order without shipping lines. -/
def NoForeignShipping (order : ShopifyOrder) (draft : NsOrderPayload) : Prop :=
  order.shippingLines = [] →
    ∀ lines, shippingLines draft = .ok lines → lines.filterMap skuOf = []

variable {r : Except Thrown (MappingResult (List Js.Value))} {payload : NsOrderPayload}
  {res : Except Thrown (MappingResult NsOrderPayload)} {diff : Js.Number}

/-- A run that an item of the order ends looks up items of the order only. -/
theorem ItemsRight.of_unresolved {extra : List Js.Value}
    (hrun : LinesRun nsAccountId "item" args.connection.defaultItemId 0
      (args.order.lineItems.map draftLine ++ extra) tr r)
    (hanswers : Answered nsAccountId answer tr) (hsku : sku ∈ ownSkus args.order)
    (hnone : resolvedId answer args.connection.defaultItemId sku = none)
    (hend : ResolverEnd nsAccountId payload r tr' res) :
    ItemsRight args draft answer diff (tr ++ tr') res := by
  have howns : (args.order.lineItems.map draftLine).filterMap skuOf = ownSkus args.order :=
    filterMap_draftLines _
  obtain ⟨hfront, hne⟩ := hrun.stops hanswers (howns ▸ hsku) hnone
  have hlookups : lookups tr <+: ownSkus args.order := howns ▸ hfront.lookups_isPrefix
  cases hend with
  | unshipped | unreadable | shipped => exact absurd rfl (hne _)
  | failed e =>
    rw [List.append_nil]
    refine ⟨hlookups.trans (List.prefix_append ..), ?_, ?_, ?_, ?_⟩ <;>
      (intro _ hres; cases hres)
  | parked reason =>
    rw [List.append_nil]
    refine ⟨hlookups.trans (List.prefix_append ..), fun _ _ => .inl ⟨sku, hsku, hnone⟩, ?_, ?_, ?_⟩ <;>
      (intro _ hres; cases hres)

/-- Where every item of the order is resolved, the balancing line is looked up. -/
theorem not_itemsRight_of_balancingLine
    (hrun : LinesRun nsAccountId "item" args.connection.defaultItemId 0
      (args.order.lineItems.map draftLine ++ [balancingLine defaultBalancing diff]) tr r)
    (hanswers : Answered nsAccountId answer tr)
    (hall : ∀ sku ∈ ownSkus args.order,
      resolvedId answer args.connection.defaultItemId sku ≠ none) :
    ¬ItemsRight args draft answer diff (tr ++ tr') res := by
  have howns : (args.order.lineItems.map draftLine).filterMap skuOf = ownSkus args.order :=
    filterMap_draftLines _
  obtain ⟨front', t, t', r', rfl, hfront, hback, _⟩ :=
    hrun.passes hanswers isNullish_draftLines (howns ▸ hall)
  intro hright
  have hlookups := hright.asked
  obtain ⟨rest, hrest⟩ : ∃ rest, lookups t' = defaultBalancing.balancingItemId :: rest := by
    have hasked : skuOf (balancingLine defaultBalancing diff) =
        some defaultBalancing.balancingItemId := rfl
    cases hback with
    | unreadable hnull => cases hnull
    | failed href | parked href =>
      rw [skuOf_eq_some] at hasked
      rw [hasked] at href
      cases href
      exact ⟨[], rfl⟩
    | cons hline _ =>
      rw [lookups_append, hline.lookups_eq, hasked]
      exact ⟨_, rfl⟩
  have hown : lookups t = ownSkus args.order := hfront.resolved.1.trans howns
  rw [lookups_append, lookups_append, hown, hrest, List.append_assoc,
    List.prefix_append_right_inj, List.cons_append] at hlookups
  -- the name of the shipping lines is no internal id
  have hmem : defaultBalancing.balancingItemId ∈ shipSkus args.connection args.order :=
    hlookups.subset (List.mem_cons_self ..)
  unfold shipSkus at hmem
  split at hmem
  · cases hmem
  · obtain ⟨_, _, heq⟩ := List.mem_map.mp hmem
    exact absurd heq (by decide)

/-- The item lines of a payload all of whose lines are lines of the order. -/
theorem itemIds_of_draftLines
    (hrun : LinesRun nsAccountId "item" args.connection.defaultItemId 0
      (args.order.lineItems.map draftLine) tr (.ok (.ok lines)))
    (hanswers : Answered nsAccountId answer tr) :
    List.Forall₂ (fun line line' => lineItemId line' =
      resolvedId answer args.connection.defaultItemId (ownSku line)) args.order.lineItems lines := by
  have hids := hrun.itemIds hanswers
  rw [List.forall₂_map_left_iff] at hids
  exact hids.imp fun line line' h => h _ (skuOf_draftLine line)

/-- The shipping lines of the order get the ship item of the connection, or the answer for
their name. -/
theorem shipItemIds_of_draftShippingLines
    (hrun : LinesRun nsAccountId "shipping" none 0
      (args.order.shippingLines.map (draftShippingLine args.connection)) tr (.ok (.ok lines)))
    (hanswers : Answered nsAccountId answer tr) :
    List.Forall₂ (fun _ line' => lineItemId line' = shipItemId args.connection answer)
      args.order.shippingLines lines := by
  have hlines := hrun.resolved.2
  rw [List.forall₂_map_left_iff] at hlines
  refine hlines.imp fun line line' hline => ?_
  obtain ⟨t, hsub, hresolved⟩ := hline
  have href := itemReference_draftShippingLine args.connection line
  unfold shipItemId
  cases hitem : truthy args.connection.defaultShipItemId with
  | none =>
    rw [hitem] at href
    exact (hresolved.itemId_eq (skuOf_eq_some.mpr href) (hanswers.mono hsub)).1
  | some id =>
    rw [hitem] at href
    cases hresolved with
    | kept _ href' | found _ href' | missed _ href' _ =>
      rw [href] at href'
      cases href'
    | marked _ href' =>
      rw [href] at href'
      cases href'
      exact lineItemId_withItemId ..

/-- The item lines of a payload whose resolver ended well. -/
theorem ResolverEnd.itemLines_eq {final : NsOrderPayload}
    (h : ResolverEnd nsAccountId payload (.ok (.ok lines)) tr (.ok (.ok final))) :
    itemLines final = .ok lines := by
  generalize hres : Except.ok (MappingResult.ok final) = res at h
  cases h with
  | unreadable => cases hres
  | unshipped =>
    cases hres
    exact itemLines_withItems ..
  | shipped _ hrun =>
    unfold withShipping at hres
    split at hres <;> cases hres
    unfold itemLines
    rw [Js.Fields.get?_set_of_ne (by decide), withItems, Js.Fields.get?_set_self]
    rfl

theorem withShipping_eq_ok {final : NsOrderPayload}
    (h : withShipping payload r = .ok (.ok final)) :
    ∃ ship, r = .ok (.ok ship) ∧ shippingLines final = .ok ship := by
  unfold withShipping at h
  split at h <;> cases h
  refine ⟨_, rfl, ?_⟩
  unfold shippingLines
  rw [Js.Fields.get?_set_self]
  rfl

theorem withShipping_eq_parked {reason : ParkReason}
    (h : withShipping payload r = .ok (.parked reason)) : r = .ok (.parked reason) := by
  unfold withShipping at h
  split at h <;> cases h
  rfl

/-- A bag with lines is read the same way by the balancing and by the resolver. -/
theorem shippingLines_of_linesOf {ship : List Js.Value}
    (h : linesOf ((payload.get? "shipping").getD .undefined) = .ok ship) :
    shippingLines payload = .ok ship := by
  have hitems : (((payload.get? "shipping").getD .undefined).prop "items") = .arr ship := by
    unfold linesOf at h
    split at h
    · cases h
      assumption
    · cases h
  have hnull : ((payload.get? "shipping").getD .undefined).isNullish = false := by
    cases hbag : (payload.get? "shipping").getD .undefined with
    | undefined | null =>
      rw [hbag] at hitems
      cases hitems
    | _ => rfl
  have hread : (((payload.get? "shipping").getD .undefined).prop "items").isNullish = false := by
    rw [hitems]
    rfl
  unfold shippingLines
  simp only [hnull, hread, Bool.false_eq_true, or_self, if_false]
  exact h

theorem LineResolved.unchanged (h : LineResolved nsAccountId fallback line tr line')
    (hsku : skuOf line = none) :
    line' = line ∨ ∃ id, itemReference line = .resolved id ∧ line' = withItemId line id := by
  cases h with
  | kept => exact .inl rfl
  | marked _ href => exact .inr ⟨_, href, rfl⟩
  | found _ href | missed _ href _ =>
    rw [skuOf_eq_some.mpr href] at hsku
    cases hsku

/-- Without lines to look up, a shipping sublist is what the configuration made it. -/
theorem LinesRun.unchanged {ship ship' : List Js.Value}
    (h : LinesRun nsAccountId "shipping" none 0 ship tr (.ok (.ok ship')))
    (hsku : ship.filterMap skuOf = []) :
    List.Forall₂ (fun line line' => line' = line ∨
      ∃ id, itemReference line = .resolved id ∧ line' = withItemId line id) ship ship' := by
  have hlines := h.resolved.2
  have hnone := List.filterMap_eq_nil_iff.mp hsku
  rw [List.forall₂_iff_get] at hlines ⊢
  refine ⟨hlines.1, fun i hi hi' => ?_⟩
  obtain ⟨t, _, hline⟩ := hlines.2 i hi hi'
  exact hline.unchanged (hnone _ (List.get_mem ship ⟨i, hi⟩))

/-- Where the items of the order are all resolved and no balancing line is added, everything
depends on the shipping lines that the configuration writes. -/
theorem itemsRight_iff_of_resolved
    (hrun : LinesRun nsAccountId "item" args.connection.defaultItemId 0
      (args.order.lineItems.map draftLine) tr (.ok (.ok lines)))
    (hanswers : Answered nsAccountId answer (tr ++ tr')) (hdiff : diff = 0)
    (hbag : payload.get? "shipping" = draft.get? "shipping")
    (hship : args.order.shippingLines ≠ [] →
      draft.get? "shipping" = some (draftShipping args.connection args.order))
    (hread : ∃ ship, shippingLines draft = .ok ship ∧ ∀ line ∈ ship, line.isNullish = false)
    (hend : ResolverEnd nsAccountId payload (.ok (.ok lines)) tr' res) :
    ItemsRight args draft answer diff (tr ++ tr') res ↔ NoForeignShipping args.order draft := by
  have hown : lookups tr = ownSkus args.order :=
    hrun.resolved.1.trans (filterMap_draftLines _)
  have hids := itemIds_of_draftLines hrun (hanswers.mono (List.subset_append_left ..))
  have hanswers' : Answered nsAccountId answer tr' := hanswers.mono (List.subset_append_right ..)
  have hitems : ∀ final, res = .ok (.ok final) → ∃ lines extra,
      itemLines final = .ok (lines ++ extra) ∧
      List.Forall₂ (fun line line' => lineItemId line' =
        resolvedId answer args.connection.defaultItemId (ownSku line)) args.order.lineItems lines ∧
      (diff = 0 ∧ extra = [] ∨ diff ≠ 0 ∧ ∃ line, extra = [line] ∧
        lineItemId line = some defaultBalancing.balancingItemId) := by
    rintro final rfl
    exact ⟨lines, [], by rw [List.append_nil]; exact hend.itemLines_eq, hids, .inl ⟨hdiff, rfl⟩⟩
  have hasked (h : lookups tr' <+: shipSkus args.connection args.order) :
      lookups (tr ++ tr') <+: ownSkus args.order ++ shipSkus args.connection args.order := by
    rw [lookups_append, hown]
    exact (List.prefix_append_right_inj _).mpr h
  cases hend with
  | unshipped hfalsy =>
    have hnil : args.order.shippingLines = [] := by
      by_contra hne
      rw [hbag, hship hne] at hfalsy
      cases hfalsy
    have hempty : shippingLines draft = .ok [] := by
      rw [hbag] at hfalsy
      unfold shippingLines
      cases hvalue : (draft.get? "shipping").getD .undefined with
      | arr | obj =>
        rw [hvalue] at hfalsy
        cases hfalsy
      | _ => rfl
    have hforeign : NoForeignShipping args.order draft := by
      intro _ ship hlines
      rw [hempty] at hlines
      cases hlines
      rfl
    refine iff_of_true ⟨hasked List.nil_prefix, ?_, hitems, ?_, ?_⟩ hforeign
    · intro reason hres
      cases hres
    · intro final _ hne
      exact absurd hnil hne
    · intro final hres _
      cases hres
      refine ⟨[], [], hempty, ?_, .nil⟩
      rw [← hempty]
      unfold shippingLines
      rw [withItems, Js.Fields.get?_set_of_ne (by decide), hbag]
  | unreadable herror =>
    have hnil : args.order.shippingLines = [] := by
      by_contra hne
      rw [hbag, hship hne] at herror
      cases herror
    have hforeign : NoForeignShipping args.order draft := by
      intro _ ship hlines
      rw [hbag] at herror
      unfold shippingLines at hlines
      dsimp only at hlines
      split at hlines
      · cases hlines
        rfl
      · rw [herror] at hlines
        cases hlines
    refine iff_of_true ⟨hasked List.nil_prefix, ?_, hitems, ?_, ?_⟩ hforeign <;>
      (intro _ hres; cases hres)
  | @shipped _ ship _ r' hlinesOf hshipRun =>
    have hdraft : shippingLines draft = .ok ship := by
      rw [hbag] at hlinesOf
      exact shippingLines_of_linesOf hlinesOf
    obtain ⟨_, hread, hnotNull⟩ := hread
    rw [hdraft, Except.ok.injEq] at hread
    have hparks : ∀ reason, withShipping (withItems payload lines) r' = .ok (.parked reason) →
        ∃ sku ∈ ship.filterMap skuOf, resolvedId answer none sku = none := by
      intro reason hres
      rw [withShipping_eq_parked hres] at hshipRun
      obtain ⟨sku, hsku, _, hmem⟩ := hshipRun.parked_on
      exact ⟨sku, hsku, by simp [resolvedId, ← hanswers' sku _ hmem]⟩
    by_cases hnil : args.order.shippingLines = []
    · by_cases hsku : ship.filterMap skuOf = []
      · have hforeign : NoForeignShipping args.order draft := by
          intro _ ship₁ hlines
          rw [hdraft] at hlines
          cases hlines
          exact hsku
        have hnone : lookups tr' = [] := List.prefix_nil.mp (hsku ▸ hshipRun.lookups_isPrefix)
        refine iff_of_true ⟨hasked (hnone ▸ List.nil_prefix), ?_, hitems, ?_, ?_⟩ hforeign
        · intro reason hres
          obtain ⟨sku, hmem, _⟩ := hparks reason hres
          rw [hsku] at hmem
          cases hmem
        · intro final _ hne
          exact absurd hnil hne
        · intro final hres _
          obtain ⟨ship', rfl, hship'⟩ := withShipping_eq_ok hres
          exact ⟨ship, ship', hdraft, hship', hshipRun.unchanged hsku⟩
      · -- a look-up on behalf of the configuration is not one on behalf of the order
        refine iff_of_false (fun hright => ?_) fun hforeign => hsku (hforeign hnil ship hdraft)
        have hnone : shipSkus args.connection args.order = [] := by
          unfold shipSkus
          rw [hnil]
          split <;> rfl
        have hbegins := hright.asked
        rw [lookups_append, hown, hnone, List.prefix_append_right_inj] at hbegins
        exact hshipRun.lookups_ne_nil (hread ▸ hnotNull) hsku (List.prefix_nil.mp hbegins)
    · have hlines : ship = args.order.shippingLines.map (draftShippingLine args.connection) := by
        rw [hbag, hship hnil] at hlinesOf
        cases hlinesOf
        rfl
      have hskus := filterMap_draftShippingLines args.connection args.order
      rw [← hlines] at hskus
      refine iff_of_true ⟨hasked (hskus ▸ hshipRun.lookups_isPrefix), ?_, hitems, ?_, ?_⟩
        fun hempty => absurd hempty hnil
      · exact fun reason hres => .inr (hskus ▸ hparks reason hres)
      · intro final hres _
        obtain ⟨ship', rfl, hship'⟩ := withShipping_eq_ok hres
        rw [hlines] at hshipRun
        exact ⟨ship', hship', shipItemIds_of_draftShippingLines hshipRun hanswers'⟩
      · intro final _ hempty
        exact absurd hempty hnil

end

namespace Sale

/-- Every item has the internal id `9`. -/
def items : ItemAnswers := fun _ => .ok (some "9")

theorem resolve_answered (order : ShopifyOrder) :
    Answered "TSTDRV1" items (resolve order).1 := by
  intro sku r hmem
  exact Prog.eq_oracle_of_mem_eval hmem

theorem resolve_settles (order : ShopifyOrder) :
    Settles (resolveItemReferences (balanced order) "TSTDRV1" none) (resolve order).1
      (resolve order).2 :=
  Prog.runs_eval ..

end Sale

end DpIntegrator
