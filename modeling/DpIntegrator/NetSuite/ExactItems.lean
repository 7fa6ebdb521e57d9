import DpIntegrator.NetSuite.ItemOrigins

/-!
# The item resolver is exact

What the resolver does to both sublists of any payload, for any answers of the gateway: each
line keeps everything but its item, the item becomes the id that the line is due, and the
first line that is due none parks the order before any later one is looked up.
-/

namespace DpIntegrator

open Effects

/-- The answer to every look-up: an internal id, or none. -/
abbrev ItemTable := String → Option String

section Lines

variable {nsAccountId sublistName : String} {fallback : Option String} {table : ItemTable}
  {line line' : Js.Value} {lines lines' : List Js.Value} {tr : List Ev} {idx : ℕ}
  {res : Except Thrown (MappingResult (List Js.Value))}

/-- The reference on a line is an object with an id. -/
def hasId (line : Js.Value) : Bool :=
  (line.prop "item").isObject && !((line.prop "item").prop "id").isNullish

/-- The reference on a line is marked as an internal id. -/
def isMarked (line : Js.Value) : Prop := (line.prop "item").prop "__resolved" = .bool true

/-- The id on a line. -/
def ownId (line : Js.Value) : String := ((line.prop "item").prop "id").toText

/-- The id that a line with an id is due: its own if it is marked, else the answer of the
gateway, else the fallback. -/
def IsDue (table : ItemTable) (fallback : Option String) (line : Js.Value) (id : String) : Prop :=
  (isMarked line ∧ id = ownId line) ∨
    (¬ isMarked line ∧ (table (ownId line)).or fallback = some id)

/-- A line that parks: its item is not marked, not found and has no fallback. -/
def Misses (table : ItemTable) (fallback : Option String) (line : Js.Value) : Prop :=
  hasId line = true ∧ ¬ isMarked line ∧ table (ownId line) = none ∧ fallback = none

theorem itemReference_of_not (h : hasId line = false) : itemReference line = .none := by
  unfold itemReference
  have hcond : (!(line.prop "item").isObject || ((line.prop "item").prop "id").isNullish) = true := by
    simpa [hasId, imp_iff_not_or] using h
  rw [if_pos hcond]

theorem itemReference_of_marked (h : hasId line = true) (hmarked : isMarked line) :
    itemReference line = .resolved (ownId line) := by
  unfold itemReference
  have hcond : ¬ (!(line.prop "item").isObject || ((line.prop "item").prop "id").isNullish) = true := by
    simpa [hasId] using h
  rw [if_neg hcond, show (line.prop "item").prop "__resolved" = .bool true from hmarked]
  rfl

theorem itemReference_of_unmarked (h : hasId line = true) (hmarked : ¬ isMarked line) :
    itemReference line = .sku (ownId line) := by
  unfold itemReference
  have hcond : ¬ (!(line.prop "item").isObject || ((line.prop "item").prop "id").isNullish) = true := by
    simpa [hasId] using h
  rw [if_neg hcond]
  split
  · next hmark => exact absurd hmark hmarked
  · rfl

/-- The three kinds of references. -/
theorem itemReference_cases (line : Js.Value) :
    (hasId line = false ∧ itemReference line = .none) ∨
      (hasId line = true ∧ isMarked line ∧ itemReference line = .resolved (ownId line)) ∨
      (hasId line = true ∧ ¬ isMarked line ∧ itemReference line = .sku (ownId line)) := by
  cases hid : hasId line with
  | false => exact .inl ⟨rfl, itemReference_of_not hid⟩
  | true =>
    by_cases hmarked : isMarked line
    · exact .inr (.inl ⟨rfl, hmarked, itemReference_of_marked hid hmarked⟩)
    · exact .inr (.inr ⟨rfl, hmarked, itemReference_of_unmarked hid hmarked⟩)

theorem itemReference_eq_none (h : itemReference line = .none) : hasId line = false := by
  obtain ⟨hid, _⟩ | ⟨_, _, href⟩ | ⟨_, _, href⟩ := itemReference_cases line
  · exact hid
  · simp [h] at href
  · simp [h] at href

theorem itemReference_eq_resolved {id : String} (h : itemReference line = .resolved id) :
    hasId line = true ∧ isMarked line ∧ id = ownId line := by
  obtain ⟨_, href⟩ | ⟨hid, hmarked, href⟩ | ⟨_, _, href⟩ := itemReference_cases line
  · simp [h] at href
  · exact ⟨hid, hmarked, by simpa [h] using href⟩
  · simp [h] at href

theorem itemReference_eq_sku {sku : String} (h : itemReference line = .sku sku) :
    hasId line = true ∧ ¬ isMarked line ∧ sku = ownId line := by
  obtain ⟨_, href⟩ | ⟨_, _, href⟩ | ⟨hid, hmarked, href⟩ := itemReference_cases line
  · simp [h] at href
  · simp [h] at href
  · exact ⟨hid, hmarked, by simpa [h] using href⟩

/-- How a resolved line differs from the line. -/
structure ExactLine (table : ItemTable) (fallback : Option String) (line line' : Js.Value) :
    Prop where
  /-- A line without an id is kept. -/
  kept : hasId line = false → line' = line
  /-- Of a line with an id only the item changes: it becomes `{ id }`. -/
  replaced : hasId line = true → ∃ (id : String) (fields : Js.Fields),
    IsDue table fallback line id ∧ line = .obj fields ∧
      line' = .obj (fields.set "item" (.obj [("id", .str id)])) ∧
      (fields.set "item" (.obj [("id", .str id)])).map Prod.fst = fields.map Prod.fst

/-- The lines of a payload are objects. -/
def AreObjects (lines : List Js.Value) : Prop := ∀ line ∈ lines, ∃ fields, line = .obj fields

theorem map_fst_of_hasId {fields : Js.Fields} (h : hasId (.obj fields) = true) (v : Js.Value) :
    (fields.set "item" v).map Prod.fst = fields.map Prod.fst := by
  rw [Js.Fields.map_fst_set, if_pos]
  by_contra hnot
  have hnone : fields.get? "item" = none := by
    rw [Js.Fields.get?_eq_none]
    intro entry hentry heq
    exact hnot (heq ▸ List.mem_map_of_mem hentry)
  simp [hasId, hnone, Js.Value.isObject] at h

theorem LineResolved.exactLine (h : LineResolved nsAccountId fallback line tr line')
    (hobject : ∃ fields, line = .obj fields)
    (hanswers : Answered nsAccountId (fun sku => .ok (table sku)) tr) :
    ExactLine table fallback line line' := by
  obtain ⟨fields, rfl⟩ := hobject
  have hreplaced {id : String} (hid : hasId (.obj fields) = true)
      (hdue : IsDue table fallback (.obj fields) id) :
      ExactLine table fallback (.obj fields) (withItemId (.obj fields) id) := by
    refine ⟨fun hno => ?_, fun _ => ⟨id, fields, hdue, rfl, rfl, map_fst_of_hasId hid _⟩⟩
    simp [hid] at hno
  cases h with
  | kept _ href =>
    refine ⟨fun _ => rfl, fun hyes => ?_⟩
    simp [itemReference_eq_none href] at hyes
  | marked _ href =>
    obtain ⟨hid, hmarked, rfl⟩ := itemReference_eq_resolved href
    exact hreplaced hid (.inl ⟨hmarked, rfl⟩)
  | @found sku id _ href =>
    obtain ⟨hid, hmarked, rfl⟩ := itemReference_eq_sku href
    have hanswer : some id = table (ownId (.obj fields)) :=
      Except.ok.inj (hanswers _ _ (List.mem_singleton.mpr rfl))
    exact hreplaced hid (.inr ⟨hmarked, by rw [← hanswer]; rfl⟩)
  | @missed sku id _ href hfallback =>
    obtain ⟨hid, hmarked, rfl⟩ := itemReference_eq_sku href
    have hanswer : none = table (ownId (.obj fields)) :=
      Except.ok.inj (hanswers _ _ (List.mem_singleton.mpr rfl))
    exact hreplaced hid (.inr ⟨hmarked, by rw [← hanswer, hfallback]; rfl⟩)

/-- A line that is resolved does not miss. -/
theorem LineResolved.not_misses (h : LineResolved nsAccountId fallback line tr line')
    (hanswers : Answered nsAccountId (fun sku => .ok (table sku)) tr) :
    ¬ Misses table fallback line := by
  rintro ⟨hid, hmarked, hnone, hfallback⟩
  cases h with
  | kept _ href => simp [itemReference_eq_none href] at hid
  | marked _ href => exact hmarked (itemReference_eq_resolved href).2.1
  | @found sku id _ href =>
    obtain ⟨_, _, rfl⟩ := itemReference_eq_sku href
    have hanswer : some id = table (ownId line) :=
      Except.ok.inj (hanswers _ _ (List.mem_singleton.mpr rfl))
    rw [hnone] at hanswer
    cases hanswer
  | missed _ _ hsome =>
    rw [hfallback] at hsome
    cases hsome

/-- Lines none of which misses are all resolved. Induction on the run. -/
theorem LinesRun.exact_of_not_misses
    (h : LinesRun nsAccountId sublistName fallback idx lines tr res) (hobjects : AreObjects lines)
    (hanswers : Answered nsAccountId (fun sku => .ok (table sku)) tr)
    (hno : ∀ line ∈ lines, ¬ Misses table fallback line) :
    ∃ lines', res = .ok (.ok lines') ∧ List.Forall₂ (ExactLine table fallback) lines lines' ∧
      lookups tr = lines.filterMap skuOf := by
  induction h with
  | nil => exact ⟨[], rfl, .nil, rfl⟩
  | unreadable hnull =>
    obtain ⟨fields, rfl⟩ := hobjects _ (List.mem_cons_self ..)
    cases hnull
  | failed href e =>
    have hanswer := hanswers _ _ (List.mem_singleton.mpr rfl)
    cases hanswer
  | @parked _ line _ sku href hfallback =>
    obtain ⟨hid, hmarked, rfl⟩ := itemReference_eq_sku href
    have hanswer : none = table (ownId line) :=
      Except.ok.inj (hanswers _ _ (List.mem_singleton.mpr rfl))
    exact absurd ⟨hid, hmarked, hanswer.symm, hfallback⟩ (hno line (List.mem_cons_self ..))
  | @cons _ line line' rest t t' r hline _ ih =>
    obtain ⟨lines', rfl, hexact, hlookups⟩ := ih
      (fun l hl => hobjects l (List.mem_cons_of_mem _ hl))
      (hanswers.mono (List.subset_append_right ..)) fun l hl => hno l (List.mem_cons_of_mem _ hl)
    have hfirst : ExactLine table fallback line line' :=
      hline.exactLine (hobjects line (List.mem_cons_self ..))
        (hanswers.mono (List.subset_append_left ..))
    refine ⟨line' :: lines', rfl, .cons hfirst hexact, ?_⟩
    rw [lookups_append, hline.lookups_eq, hlookups]
    cases hsku : skuOf line <;> simp [hsku]

/-- The first line that misses parks, and no later one is looked up. Induction on the lines in
front of it. -/
theorem LinesRun.parks_of_misses {before after : List Js.Value}
    (h : LinesRun nsAccountId sublistName fallback idx (before ++ line :: after) tr res)
    (hobjects : AreObjects (before ++ line :: after))
    (hanswers : Answered nsAccountId (fun sku => .ok (table sku)) tr)
    (hbefore : ∀ l ∈ before, ¬ Misses table fallback l) (hline : Misses table fallback line) :
    res = .ok (.parked (missingItem sublistName (idx + before.length) (ownId line))) ∧
      lookups tr = (before ++ [line]).filterMap skuOf := by
  induction before generalizing idx tr res with
  | nil =>
    rw [List.nil_append] at h hobjects
    have hsku : itemReference line = .sku (ownId line) :=
      itemReference_of_unmarked hline.1 hline.2.1
    cases h with
    | unreadable hnull =>
      obtain ⟨fields, rfl⟩ := hobjects line (List.mem_cons_self ..)
      cases hnull
    | failed href e =>
      have hanswer := hanswers _ _ (List.mem_singleton.mpr rfl)
      cases hanswer
    | parked href hfallback =>
      obtain ⟨_, _, rfl⟩ := itemReference_eq_sku href
      refine ⟨by simp, ?_⟩
      rw [lookups_lookedUpItem, List.nil_append,
        List.filterMap_cons_some (skuOf_eq_some.mpr hsku), List.filterMap_nil]
    | cons hresolved =>
      exact absurd hline (hresolved.not_misses (hanswers.mono (List.subset_append_left ..)))
  | cons first before ih =>
    rw [List.cons_append] at h hobjects
    have hfirst : ¬ Misses table fallback first := hbefore first (List.mem_cons_self ..)
    cases h with
    | unreadable hnull =>
      obtain ⟨fields, rfl⟩ := hobjects first (List.mem_cons_self ..)
      cases hnull
    | failed href e =>
      have hanswer := hanswers _ _ (List.mem_singleton.mpr rfl)
      cases hanswer
    | parked href hfallback =>
      obtain ⟨hid, hmarked, rfl⟩ := itemReference_eq_sku href
      have hanswer : none = table (ownId first) :=
        Except.ok.inj (hanswers _ _ (List.mem_singleton.mpr rfl))
      exact absurd ⟨hid, hmarked, hanswer.symm, hfallback⟩ hfirst
    | @cons _ _ first' _ t t' r hresolved hrest =>
      obtain ⟨rfl, hlookups⟩ := ih hrest (fun l hl => hobjects l (List.mem_cons_of_mem _ hl))
        (hanswers.mono (List.subset_append_right ..))
        fun l hl => hbefore l (List.mem_cons_of_mem _ hl)
      refine ⟨?_, ?_⟩
      · rw [List.length_cons, Nat.add_comm before.length, ← Nat.add_assoc]
        rfl
      · rw [lookups_append, hresolved.lookups_eq, hlookups, List.cons_append]
        cases hsku : skuOf first <;> simp [hsku]

end Lines

/-! ## Both sublists -/

section Payload

variable {nsAccountId : String} {fallback : Option String} {table : ItemTable}
  {payload : NsOrderPayload} {items : List Js.Value} {ship : Option (List Js.Value)} {tr : List Ev}
  {res : Except Thrown (MappingResult NsOrderPayload)}

/-- The first element of a list with a property. -/
theorem exists_first {α : Type} {P : α → Prop} {l : List α} (h : ∃ a ∈ l, P a) :
    ∃ before a after, l = before ++ a :: after ∧ (∀ b ∈ before, ¬ P b) ∧ P a := by
  induction l with
  | nil => simp at h
  | cons b rest ih =>
    by_cases hb : P b
    · exact ⟨[], b, rest, rfl, by simp, hb⟩
    · obtain ⟨before, a, after, rfl, hbefore, ha⟩ := ih (by simpa [hb] using h)
      exact ⟨b :: before, a, after, rfl, by simpa [hb] using hbefore, ha⟩

/-- A payload with these item lines and, if it has a shipping sublist, these shipping lines. -/
structure Sublists (payload : NsOrderPayload) (items : List Js.Value)
    (ship : Option (List Js.Value)) : Prop where
  itemBag : itemLines payload = .ok items
  unshipped : ship = none → ((payload.get? "shipping").getD .undefined).truthy = false
  shipped : ∀ lines, ship = some lines →
    ((payload.get? "shipping").getD .undefined).truthy = true ∧
      linesOf ((payload.get? "shipping").getD .undefined) = .ok lines
  objects : AreObjects (items ++ ship.getD [])

/-- What the resolver makes of a payload with these sublists. -/
structure ResolvedExactly (table : ItemTable) (fallback : Option String) (payload : NsOrderPayload)
    (items : List Js.Value) (ship : Option (List Js.Value)) (tr : List Ev)
    (res : Except Thrown (MappingResult NsOrderPayload)) : Prop where
  /-- Both sublists line by line, only item lines with the fallback, and the same header. -/
  resolved : ∀ out, res = .ok (.ok out) →
    (∃ items', itemLines out = .ok items' ∧ List.Forall₂ (ExactLine table fallback) items items') ∧
    (∀ lines, ship = some lines → ∃ lines', out.get? "shipping" = some (.obj [("items", .arr lines')]) ∧
      List.Forall₂ (ExactLine table none) lines lines') ∧
    (ship = none → out.get? "shipping" = payload.get? "shipping") ∧
    ∀ key, key ≠ "item" → key ≠ "shipping" → out.get? key = payload.get? key
  /-- It parks exactly when a line misses, and succeeds otherwise. -/
  parks_iff : (∃ reason, res = .ok (.parked reason)) ↔ (∃ line ∈ items, Misses table fallback line) ∨
    ((∀ line ∈ items, ¬ Misses table fallback line) ∧ ∃ line ∈ ship.getD [], Misses table none line)
  resolves_iff : (∃ out, res = .ok (.ok out)) ↔ (∀ line ∈ items, ¬ Misses table fallback line) ∧
    ∀ line ∈ ship.getD [], ¬ Misses table none line
  /-- The first item line that misses is named, and no line after it is looked up. -/
  item_misses : ∀ before line after, items = before ++ line :: after →
    (∀ l ∈ before, ¬ Misses table fallback l) → Misses table fallback line →
      res = .ok (.parked (missingItem "item" before.length (ownId line))) ∧
        lookups tr = (before ++ [line]).filterMap skuOf
  /-- So is the first shipping line, if the item lines resolve. -/
  shipping_misses : (∀ line ∈ items, ¬ Misses table fallback line) →
    ∀ before line after, ship = some (before ++ line :: after) →
      (∀ l ∈ before, ¬ Misses table none l) → Misses table none line →
        res = .ok (.parked (missingItem "shipping" before.length (ownId line))) ∧
          lookups tr = items.filterMap skuOf ++ (before ++ [line]).filterMap skuOf

theorem linesOf_of_falsy {bag : Js.Value} (h : bag.truthy = false) :
    linesOf bag = .error (typeError "items.map is not a function") := by
  cases bag with
  | obj | arr => cases h
  | _ => rfl

/-- If an item line misses, the first one parks. -/
theorem resolved_of_item_misses {before after : List Js.Value} {line : Js.Value}
    (h : Settles (resolveItemReferences payload nsAccountId fallback) tr res)
    (hlists : Sublists payload items ship)
    (hanswers : Answered nsAccountId (fun sku => .ok (table sku)) tr)
    (hitems : items = before ++ line :: after)
    (hbefore : ∀ l ∈ before, ¬ Misses table fallback l) (hline : Misses table fallback line) :
    res = .ok (.parked (missingItem "item" before.length (ownId line))) ∧
      lookups tr = (before ++ [line]).filterMap skuOf := by
  obtain ⟨t₁, t₂, r, rfl, hrun, hend⟩ := resolveItemReferences_runs h hlists.itemBag
  subst hitems
  have hobjects : AreObjects (before ++ line :: after) := fun l hl =>
    hlists.objects l (List.mem_append_left _ hl)
  obtain ⟨rfl, hlookups⟩ := hrun.parks_of_misses hobjects
    (hanswers.mono (List.subset_append_left ..)) hbefore hline
  cases hend with
  | parked => exact ⟨by rw [Nat.zero_add], by rw [List.append_nil, hlookups]⟩

/-- If no item line misses, the item lines are resolved, and the rest is up to the shipping lines. -/
theorem resolved_of_no_item_misses
    (h : Settles (resolveItemReferences payload nsAccountId fallback) tr res)
    (hlists : Sublists payload items ship)
    (hanswers : Answered nsAccountId (fun sku => .ok (table sku)) tr)
    (hno : ∀ line ∈ items, ¬ Misses table fallback line) :
    ∃ items', List.Forall₂ (ExactLine table fallback) items items' ∧
      ((ship = none ∧ res = .ok (.ok (withItems payload items')) ∧
          lookups tr = items.filterMap skuOf) ∨
        ∃ lines t r, ship = some lines ∧ t ⊆ tr ∧ lookups tr = items.filterMap skuOf ++ lookups t ∧
          LinesRun nsAccountId "shipping" none 0 lines t r ∧
          res = withShipping (withItems payload items') r) := by
  obtain ⟨t₁, t₂, r, rfl, hrun, hend⟩ := resolveItemReferences_runs h hlists.itemBag
  have hobjects : AreObjects items := fun l hl => hlists.objects l (List.mem_append_left _ hl)
  obtain ⟨items', rfl, hexact, hlookups⟩ := hrun.exact_of_not_misses hobjects
    (hanswers.mono (List.subset_append_left ..)) hno
  refine ⟨items', hexact, ?_⟩
  cases hship : ship with
  | none =>
    have hfalsy := hlists.unshipped hship
    cases hend with
    | unshipped => exact .inl ⟨rfl, rfl, by rw [List.append_nil, hlookups]⟩
    | unreadable _ htruthy => simp [hfalsy] at htruthy
    | shipped hread => simp [linesOf_of_falsy hfalsy] at hread
  | some lines =>
    obtain ⟨htruthy, hlines⟩ := hlists.shipped lines hship
    cases hend with
    | unshipped hfalsy => simp [htruthy] at hfalsy
    | unreadable hread => simp [hlines] at hread
    | shipped hread hship' =>
      obtain rfl := Except.ok.inj (hlines.symm.trans hread)
      exact .inr ⟨lines, t₂, _, rfl, List.subset_append_right .., by rw [lookups_append, hlookups],
        hship', rfl⟩

/-- If no line misses, both sublists are resolved. -/
theorem resolved_of_no_misses
    (h : Settles (resolveItemReferences payload nsAccountId fallback) tr res)
    (hlists : Sublists payload items ship)
    (hanswers : Answered nsAccountId (fun sku => .ok (table sku)) tr)
    (hno : ∀ line ∈ items, ¬ Misses table fallback line)
    (hship : ∀ line ∈ ship.getD [], ¬ Misses table none line) :
    ∃ out, res = .ok (.ok out) ∧
      (∃ items', itemLines out = .ok items' ∧
        List.Forall₂ (ExactLine table fallback) items items') ∧
      (∀ lines, ship = some lines → ∃ lines',
        out.get? "shipping" = some (.obj [("items", .arr lines')]) ∧
          List.Forall₂ (ExactLine table none) lines lines') ∧
      (ship = none → out.get? "shipping" = payload.get? "shipping") ∧
      ∀ key, key ≠ "item" → key ≠ "shipping" → out.get? key = payload.get? key := by
  obtain ⟨items', hexact, ⟨rfl, rfl, _⟩ | ⟨lines, t, r, rfl, hsub, _, hrun, rfl⟩⟩ :=
    resolved_of_no_item_misses h hlists hanswers hno
  · refine ⟨_, rfl, ⟨items', itemLines_withItems .., hexact⟩, by simp, fun _ => ?_,
      fun key hkey _ => get?_withItems _ _ hkey⟩
    exact get?_withItems _ _ (by decide)
  · have hobjects : AreObjects lines := fun l hl => hlists.objects l (List.mem_append_right _ hl)
    obtain ⟨lines', rfl, hlines, _⟩ := hrun.exact_of_not_misses hobjects (hanswers.mono hsub) hship
    have hitems : itemLines ((withItems payload items').set "shipping"
        (.obj [("items", .arr lines')])) = .ok items' := by
      unfold itemLines
      rw [Js.Fields.get?_set_of_ne (by decide)]
      exact itemLines_withItems payload items'
    refine ⟨_, rfl, ⟨items', hitems, hexact⟩, ?_, by simp, fun key hkey hkey' => ?_⟩
    · rintro _ ⟨⟩
      exact ⟨lines', Js.Fields.get?_set_self .., hlines⟩
    · rw [Js.Fields.get?_set_of_ne hkey', get?_withItems _ _ hkey]

/-- Item references are resolved exactly, whatever the gateway answers. -/
theorem items_resolved_exactly
    (h : Settles (resolveItemReferences payload nsAccountId fallback) tr res)
    (hlists : Sublists payload items ship)
    (hanswers : Answered nsAccountId (fun sku => .ok (table sku)) tr) :
    ResolvedExactly table fallback payload items ship tr res := by
  have hitem {before line after} (hitems : items = before ++ line :: after) :=
    resolved_of_item_misses h hlists hanswers hitems
  have hshipping (hno : ∀ line ∈ items, ¬ Misses table fallback line)
      {before after : List Js.Value} {line : Js.Value} (hship : ship = some (before ++ line :: after))
      (hbefore : ∀ l ∈ before, ¬ Misses table none l) (hline : Misses table none line) :
      res = .ok (.parked (missingItem "shipping" before.length (ownId line))) ∧
        lookups tr = items.filterMap skuOf ++ (before ++ [line]).filterMap skuOf := by
    obtain ⟨items', _, ⟨hnone, _⟩ | ⟨lines, t, r, hsome, hsub, hlookups, hrun, rfl⟩⟩ :=
      resolved_of_no_item_misses h hlists hanswers hno
    · rw [hship] at hnone
      cases hnone
    · obtain rfl := Option.some.inj (hship.symm.trans hsome)
      have hobjects : AreObjects (before ++ line :: after) := fun l hl =>
        hlists.objects l (List.mem_append_right _ (by rw [hship]; exact hl))
      obtain ⟨rfl, ht⟩ := hrun.parks_of_misses hobjects (hanswers.mono hsub) hbefore hline
      exact ⟨by rw [Nat.zero_add]; rfl, by rw [hlookups, ht]⟩
  -- Either the first line that misses parks, or none misses and both sublists are resolved.
  have hparks (hmiss : (∃ line ∈ items, Misses table fallback line) ∨
      ((∀ line ∈ items, ¬ Misses table fallback line) ∧
        ∃ line ∈ ship.getD [], Misses table none line)) :
      ∃ reason, res = .ok (.parked reason) := by
    obtain hmiss | ⟨hno, hmiss⟩ := hmiss
    · obtain ⟨before, line, after, hitems, hbefore, hline⟩ := exists_first hmiss
      exact ⟨_, (hitem hitems hbefore hline).1⟩
    · obtain ⟨before, line, after, hlines, hbefore, hline⟩ := exists_first hmiss
      cases hship : ship with
      | none => simp [hship] at hlines
      | some lines =>
        rw [hship, Option.getD_some] at hlines
        exact ⟨_, (hshipping hno (hship.trans (congrArg some hlines)) hbefore hline).1⟩
  have hresolves (hno : ∀ line ∈ items, ¬ Misses table fallback line)
      (hship : ∀ line ∈ ship.getD [], ¬ Misses table none line) :=
    resolved_of_no_misses h hlists hanswers hno hship
  have hcases : ((∃ line ∈ items, Misses table fallback line) ∨
      ((∀ line ∈ items, ¬ Misses table fallback line) ∧
        ∃ line ∈ ship.getD [], Misses table none line)) ∨
      ((∀ line ∈ items, ¬ Misses table fallback line) ∧
        ∀ line ∈ ship.getD [], ¬ Misses table none line) := by
    by_cases hitems : ∃ line ∈ items, Misses table fallback line
    · exact .inl (.inl hitems)
    have hno : ∀ line ∈ items, ¬ Misses table fallback line := fun l hl hm => hitems ⟨l, hl, hm⟩
    by_cases hship : ∃ line ∈ ship.getD [], Misses table none line
    · exact .inl (.inr ⟨hno, hship⟩)
    · exact .inr ⟨hno, fun l hl hm => hship ⟨l, hl, hm⟩⟩
  constructor
  case resolved =>
    intro out hout
    obtain hmiss | ⟨hno, hship⟩ := hcases
    · obtain ⟨reason, hreason⟩ := hparks hmiss
      rw [hreason] at hout
      cases hout
    · obtain ⟨out', hout', hresolved⟩ := hresolves hno hship
      rw [hout'] at hout
      cases hout
      exact hresolved
  case parks_iff =>
    refine ⟨fun ⟨reason, hreason⟩ => hcases.resolve_right fun ⟨hno, hship⟩ => ?_, hparks⟩
    obtain ⟨out, hout, _⟩ := hresolves hno hship
    rw [hreason] at hout
    cases hout
  case resolves_iff =>
    refine ⟨fun ⟨out, hout⟩ => hcases.resolve_left fun hmiss => ?_, fun ⟨hno, hship⟩ => ?_⟩
    · obtain ⟨reason, hreason⟩ := hparks hmiss
      rw [hreason] at hout
      cases hout
    · obtain ⟨out, hout, _⟩ := hresolves hno hship
      exact ⟨out, hout⟩
  case item_misses =>
    exact fun before line after hitems => hitem hitems
  case shipping_misses =>
    exact fun hno before line after hship => hshipping hno hship

end Payload

namespace Sale

/-- An item that is known and one that is not. -/
def mixedItems : List Js.Value :=
  [.obj [("item", .obj [("id", .str "MUG")]), ("quantity", .num 1)],
    .obj [("item", .obj [("id", .str "CUP")]), ("quantity", .num 2)]]

/-- A marked shipping item. -/
def mixedShipping : List Js.Value :=
  [.obj [("item", .obj [("id", .str "3"), ("__resolved", .bool true)])]]

def mixed : NsOrderPayload :=
  [("memo", .str "a sale"), ("item", .obj [("items", .arr mixedItems)]),
    ("shipping", .obj [("items", .arr mixedShipping)])]

/-- Only mugs are known. -/
def mugs : ItemTable := fun sku => if sku = "MUG" then some "9" else none

/-- The resolver on the mixed payload, with a fallback. -/
def resolvedMixed : List Ev × Except Thrown (MappingResult NsOrderPayload) :=
  (resolveItemReferences mixed "TSTDRV1" (some "1")).run.eval fun
    | .io (.resolveItemId _ sku) => .ok (mugs sku)
    | .io _ => .error .undefined
    | .clock => (0 : ℤ)
    | .track _ => ()

end Sale

/-- The known item is resolved, the unknown one falls back, and the marked one is kept. -/
theorem items_resolved_exactly_mixed :
    ResolvedExactly Sale.mugs (some "1") Sale.mixed Sale.mixedItems (some Sale.mixedShipping)
      Sale.resolvedMixed.1 Sale.resolvedMixed.2 := by
  have hlists : Sublists Sale.mixed Sale.mixedItems (some Sale.mixedShipping) := by
    refine ⟨rfl, by simp, ?_, ?_⟩
    · rintro _ ⟨⟩
      exact ⟨rfl, rfl⟩
    · intro line hline
      simp only [Sale.mixedItems, Sale.mixedShipping, Option.getD_some, List.cons_append,
        List.nil_append, List.mem_cons, List.not_mem_nil, or_false] at hline
      obtain rfl | rfl | rfl := hline <;> exact ⟨_, rfl⟩
  have hanswers : Answered "TSTDRV1" (fun sku => .ok (Sale.mugs sku)) Sale.resolvedMixed.1 :=
    fun sku r hmem => Prog.eq_oracle_of_mem_eval hmem
  exact items_resolved_exactly (Prog.runs_eval ..) hlists hanswers

end DpIntegrator
