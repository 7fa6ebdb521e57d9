import DpIntegrator.NetSuite.Draft

/-!
# Runs of the item resolver

A sublist is resolved line by line: each line is kept, takes the id it is marked with, or
is looked up, and the first look-up that fails or finds nothing ends the run.
-/

namespace DpIntegrator

open Effects

variable {nsAccountId sublistName : String} {fallback : Option String} {line line' : Js.Value}
  {lines lines' : List Js.Value} {tr : List Ev} {idx : ℕ}

/-- An item was looked up. -/
abbrev lookedUpItem (nsAccountId sku : String) (r : Except Thrown (Option String)) : Ev :=
  answered (.resolveItemId nsAccountId sku) r

/-- How a line is resolved, and by which calls. -/
inductive LineResolved (nsAccountId : String) (fallback : Option String) (line : Js.Value) :
    List Ev → Js.Value → Prop
  | kept (hnull : line.isNullish = false) (h : itemReference line = .none) :
      LineResolved nsAccountId fallback line [] line
  | marked {id : String} (hnull : line.isNullish = false) (h : itemReference line = .resolved id) :
      LineResolved nsAccountId fallback line [] (withItemId line id)
  | found {sku id : String} (hnull : line.isNullish = false) (h : itemReference line = .sku sku) :
      LineResolved nsAccountId fallback line [lookedUpItem nsAccountId sku (.ok (some id))]
        (withItemId line id)
  | missed {sku id : String} (hnull : line.isNullish = false) (h : itemReference line = .sku sku)
      (hfallback : fallback = some id) :
      LineResolved nsAccountId fallback line [lookedUpItem nsAccountId sku (.ok none)]
        (withItemId line id)

/-- Why a line parks that has no item and no fallback. -/
def missingItem (sublistName : String) (idx : ℕ) (sku : String) : ParkReason where
  detail := sublistName ++ "[" ++ toString idx ++
    "]: no NS item matches sku/title '" ++ sku ++
    "' — create the item in NS or correct the source"
  construct := some (sublistName ++ ":" ++ sku)

/-- A line in front of resolved lines. -/
def prepend (line : Js.Value) : Except Thrown (MappingResult (List Js.Value)) →
    Except Thrown (MappingResult (List Js.Value))
  | .ok (.ok lines) => .ok (.ok (line :: lines))
  | r => r

/-- How a sublist is resolved from the index `idx` on, by which calls, and with what result. -/
inductive LinesRun (nsAccountId sublistName : String) (fallback : Option String) :
    ℕ → List Js.Value → List Ev → Except Thrown (MappingResult (List Js.Value)) → Prop
  | nil (idx : ℕ) : LinesRun nsAccountId sublistName fallback idx [] [] (.ok (.ok []))
  | unreadable {idx : ℕ} {line : Js.Value} {rest : List Js.Value} (hnull : line.isNullish = true)
      (message : String) :
      LinesRun nsAccountId sublistName fallback idx (line :: rest) [] (.error (typeError message))
  | failed {idx : ℕ} {line : Js.Value} {rest : List Js.Value} {sku : String}
      (h : itemReference line = .sku sku) (e : Thrown) :
      LinesRun nsAccountId sublistName fallback idx (line :: rest)
        [lookedUpItem nsAccountId sku (.error e)] (.error e)
  | parked {idx : ℕ} {line : Js.Value} {rest : List Js.Value} {sku : String}
      (h : itemReference line = .sku sku) (hfallback : fallback = none) :
      LinesRun nsAccountId sublistName fallback idx (line :: rest)
        [lookedUpItem nsAccountId sku (.ok none)] (.ok (.parked (missingItem sublistName idx sku)))
  | cons {idx : ℕ} {line line' : Js.Value} {rest : List Js.Value} {t t' : List Ev}
      {r : Except Thrown (MappingResult (List Js.Value))}
      (hline : LineResolved nsAccountId fallback line t line')
      (hrest : LinesRun nsAccountId sublistName fallback (idx + 1) rest t' r) :
      LinesRun nsAccountId sublistName fallback idx (line :: rest) (t ++ t') (prepend line' r)

/-- A line is resolved, or its look-up ends the run. -/
theorem resolveLine_runs {res : Except Thrown (MappingResult Js.Value)}
    (h : Settles (resolveLine nsAccountId sublistName fallback idx line) tr res)
    (hnull : line.isNullish = false) :
    (∃ line', res = .ok (.ok line') ∧ LineResolved nsAccountId fallback line tr line') ∨
      ∃ sku, itemReference line = .sku sku ∧
        ((∃ e, tr = [lookedUpItem nsAccountId sku (.error e)] ∧ res = .error e) ∨
          fallback = none ∧ tr = [lookedUpItem nsAccountId sku (.ok none)] ∧
            res = .ok (.parked (missingItem sublistName idx sku))) := by
  unfold resolveLine at h
  rw [hnull] at h
  simp only [Bool.false_eq_true, if_false] at h
  split at h
  · next href =>
    obtain ⟨rfl, rfl⟩ := settles_pure.mp h
    exact .inl ⟨line, rfl, .kept hnull href⟩
  · next id href =>
    obtain ⟨rfl, rfl⟩ := settles_pure.mp h
    exact .inl ⟨_, rfl, .marked hnull href⟩
  · next sku href =>
    obtain ⟨e, rfl, hlookup⟩ | ⟨found, t₁, t₂, rfl, hlookup, hrest⟩ := settles_bind.mp h
    · obtain rfl := settles_io.mp hlookup
      exact .inr ⟨sku, href, .inl ⟨e, rfl, rfl⟩⟩
    obtain rfl := settles_io.mp hlookup
    cases found with
    | some id =>
      obtain ⟨rfl, rfl⟩ := settles_pure.mp hrest
      exact .inl ⟨_, rfl, .found hnull href⟩
    | none =>
      cases hfallback : fallback with
      | some id =>
        simp only [hfallback] at hrest
        obtain ⟨rfl, rfl⟩ := settles_pure.mp hrest
        exact .inl ⟨_, rfl, .missed hnull href rfl⟩
      | none =>
        simp only [hfallback] at hrest
        obtain ⟨rfl, rfl⟩ := settles_pure.mp hrest
        exact .inr ⟨sku, href, .inr ⟨rfl, rfl, rfl⟩⟩

/-- Induction on the lines, from any index. -/
theorem resolveLines_runs {res : Except Thrown (MappingResult (List Js.Value))}
    (h : Settles (resolveLines nsAccountId sublistName fallback idx lines) tr res) :
    LinesRun nsAccountId sublistName fallback idx lines tr res := by
  induction lines generalizing idx tr res with
  | nil =>
    obtain ⟨rfl, rfl⟩ := settles_pure.mp h
    exact .nil idx
  | cons line rest ih =>
    by_cases hnull : line.isNullish = true
    · obtain ⟨e, rfl, hline⟩ | ⟨r, t₁, t₂, rfl, hline, _⟩ := settles_bind.mp h
      · unfold resolveLine at hline
        rw [if_pos hnull] at hline
        obtain ⟨rfl, he⟩ := settles_throw.mp hline
        cases he
        exact .unreadable hnull _
      · unfold resolveLine at hline
        rw [if_pos hnull] at hline
        cases (settles_throw.mp hline).2
    have hnull : line.isNullish = false := by simpa using hnull
    obtain ⟨e, rfl, hline⟩ | ⟨r, t₁, t₂, rfl, hline, hrest⟩ := settles_bind.mp h
    · obtain ⟨_, hok, _⟩ | ⟨sku, href, ⟨e', rfl, he⟩ | ⟨_, _, hok⟩⟩ := resolveLine_runs hline hnull
      · cases hok
      · cases he
        exact .failed href e
      · cases hok
    · obtain ⟨line', hok, hresolved⟩ | ⟨sku, href, ⟨e', _, he⟩ | ⟨hfallback, rfl, hok⟩⟩ :=
        resolveLine_runs hline hnull
      · cases hok
        obtain ⟨e, rfl, hlines⟩ | ⟨r', t₃, t₄, rfl, hlines, hret⟩ := settles_bind.mp hrest
        · exact .cons (r := .error e) hresolved (ih hlines)
        · cases r' with
          | ok lines =>
            obtain ⟨rfl, rfl⟩ := settles_pure.mp hret
            rw [List.append_nil]
            exact .cons (r := .ok (.ok lines)) hresolved (ih hlines)
          | parked reason =>
            obtain ⟨rfl, rfl⟩ := settles_pure.mp hret
            rw [List.append_nil]
            exact .cons (r := .ok (.parked reason)) hresolved (ih hlines)
      · cases he
      · cases hok
        obtain ⟨rfl, rfl⟩ := settles_pure.mp hrest
        exact .parked href hfallback

/-! ## What was looked up -/

/-- The item that a line asks to look up. -/
def skuOf (line : Js.Value) : Option String :=
  match itemReference line with
  | .sku sku => some sku
  | _ => none

theorem skuOf_eq_some {sku : String} : skuOf line = some sku ↔ itemReference line = .sku sku := by
  unfold skuOf
  split <;> simp_all

/-- The items that were looked up, in order. -/
def lookups (tr : List Ev) : List String :=
  tr.filterMap fun
    | ⟨.io (.resolveItemId _ sku), _⟩ => some sku
    | _ => none

@[simp] theorem lookups_nil : lookups [] = [] := rfl

@[simp] theorem lookups_append (t t' : List Ev) : lookups (t ++ t') = lookups t ++ lookups t' :=
  List.filterMap_append ..

@[simp] theorem lookups_lookedUpItem {sku : String} {r : Except Thrown (Option String)} :
    lookups [lookedUpItem nsAccountId sku r] = [sku] := rfl

/-- A line that was resolved was looked up if it asks for it. -/
theorem LineResolved.lookups_eq (h : LineResolved nsAccountId fallback line tr line') :
    lookups tr = (skuOf line).toList := by
  cases h with
  | kept _ href | marked _ href | found _ href | missed _ href _ => simp [skuOf, href]

/-- A line that was resolved keeps everything but its item. -/
theorem LineResolved.eq_or (h : LineResolved nsAccountId fallback line tr line') :
    line' = line ∨ ∃ id, line' = withItemId line id := by
  cases h with
  | kept => exact .inl rfl
  | marked | found | missed => exact .inr ⟨_, rfl⟩

section LinesRun

variable {res : Except Thrown (MappingResult (List Js.Value))}

theorem prepend_eq_ok (h : prepend line res = .ok (.ok lines)) :
    ∃ rest, res = .ok (.ok rest) ∧ lines = line :: rest := by
  unfold prepend at h
  split at h
  · cases h
    exact ⟨_, rfl, rfl⟩
  · next hne => exact absurd h (hne _)

/-- What is looked up is a beginning of what the lines ask for. -/
theorem LinesRun.lookups_isPrefix
    (h : LinesRun nsAccountId sublistName fallback idx lines tr res) :
    lookups tr <+: lines.filterMap skuOf := by
  induction h with
  | nil | unreadable => exact List.nil_prefix
  | failed href | parked href _ =>
    rw [lookups_lookedUpItem, List.filterMap_cons_some (skuOf_eq_some.mpr href)]
    exact ⟨_, rfl⟩
  | @cons _ line line' rest t t' r hline _ ih =>
    rw [lookups_append, hline.lookups_eq]
    have hcons : (line :: rest).filterMap skuOf =
        (skuOf line).toList ++ rest.filterMap skuOf := by
      cases hsku : skuOf line <;> simp [hsku]
    rw [hcons]
    exact (List.prefix_append_right_inj _).mpr ih

/-- A sublist that is resolved is resolved line by line. -/
theorem LinesRun.resolved
    (h : LinesRun nsAccountId sublistName fallback idx lines tr (.ok (.ok lines'))) :
    lookups tr = lines.filterMap skuOf ∧
      List.Forall₂ (fun line line' => ∃ t ⊆ tr, LineResolved nsAccountId fallback line t line')
        lines lines' := by
  generalize hres : Except.ok (MappingResult.ok lines') = res at h
  induction h generalizing lines' with
  | nil =>
    cases hres
    exact ⟨rfl, .nil⟩
  | unreadable | failed | parked => cases hres
  | @cons _ line line₁ rest t t' r hline _ ih =>
    obtain ⟨lines₁, rfl, rfl⟩ := prepend_eq_ok hres.symm
    obtain ⟨hlookups, hlines⟩ := ih rfl
    refine ⟨?_, .cons ⟨t, List.subset_append_left .., hline⟩ (hlines.imp fun _ _ h => ?_)⟩
    · rw [lookups_append, hline.lookups_eq, hlookups]
      cases hsku : skuOf line <;> simp [hsku]
    · obtain ⟨s, hsub, hresolved⟩ := h
      exact ⟨s, fun ev hev => List.mem_append_right _ (hsub hev), hresolved⟩

/-- A sublist parks on an item that it asks for, which is missing and has no fallback. -/
theorem LinesRun.parked_on {reason : ParkReason}
    (h : LinesRun nsAccountId sublistName fallback idx lines tr (.ok (.parked reason))) :
    ∃ sku ∈ lines.filterMap skuOf, fallback = none ∧
      lookedUpItem nsAccountId sku (.ok none) ∈ tr := by
  generalize hres : Except.ok (MappingResult.parked reason) = res at h
  induction h with
  | nil | unreadable | failed => cases hres
  | @parked _ line rest sku href hfallback =>
    exact ⟨sku, List.mem_filterMap.mpr ⟨line, List.mem_cons_self .., skuOf_eq_some.mpr href⟩,
      hfallback, List.mem_cons_self ..⟩
  | @cons _ line line₁ rest t t' r hline _ ih =>
    have hrest : Except.ok (MappingResult.parked reason) = r := by
      unfold prepend at hres
      split at hres
      · cases hres
      · exact hres
    obtain ⟨sku, hsku, hfallback, hmem⟩ := ih hrest
    refine ⟨sku, ?_, hfallback, List.mem_append_right _ hmem⟩
    obtain ⟨line, hline, href⟩ := List.mem_filterMap.mp hsku
    exact List.mem_filterMap.mpr ⟨line, List.mem_cons_of_mem _ hline, href⟩

/-- A resolved sublist is resolved in any two parts. Induction on the first part. -/
theorem LinesRun.of_append {front back : List Js.Value}
    (h : LinesRun nsAccountId sublistName fallback idx (front ++ back) tr (.ok (.ok lines'))) :
    ∃ front' back' t t', lines' = front' ++ back' ∧ tr = t ++ t' ∧
      LinesRun nsAccountId sublistName fallback idx front t (.ok (.ok front')) ∧
      LinesRun nsAccountId sublistName fallback (idx + front.length) back t' (.ok (.ok back')) := by
  induction front generalizing idx tr lines' with
  | nil => exact ⟨[], lines', [], tr, rfl, rfl, .nil idx, h⟩
  | cons line front ih =>
    rw [List.cons_append] at h
    generalize hres : Except.ok (MappingResult.ok lines') = res at h
    cases h with
    | unreadable | failed | parked => cases hres
    | @cons _ _ line' _ t t' r hline hrest =>
      obtain ⟨rest, rfl, rfl⟩ := prepend_eq_ok hres.symm
      obtain ⟨front', back', t₁, t₂, rfl, rfl, hfront, hback⟩ := ih hrest
      refine ⟨line' :: front', back', t ++ t₁, t₂, rfl, (List.append_assoc ..).symm,
        .cons (r := .ok (.ok front')) hline hfront, ?_⟩
      rwa [List.length_cons, Nat.add_comm front.length, ← Nat.add_assoc]

end LinesRun

/-! ## Both sublists -/

/-- The payload with resolved shipping lines. -/
def withShipping (payload : NsOrderPayload) :
    Except Thrown (MappingResult (List Js.Value)) → Except Thrown (MappingResult NsOrderPayload)
  | .ok (.ok lines) => .ok (.ok (payload.set "shipping" (.obj [("items", .arr lines)])))
  | .ok (.parked reason) => .ok (.parked reason)
  | .error e => .error e

/-- The payload with resolved item lines. -/
def withItems (payload : NsOrderPayload) (lines : List Js.Value) : NsOrderPayload :=
  payload.set "item" (.obj [("items", .arr lines)])

theorem get?_withItems (payload : NsOrderPayload) (lines : List Js.Value) {key : String}
    (h : key ≠ "item") : (withItems payload lines).get? key = payload.get? key :=
  Js.Fields.get?_set_of_ne h ..

theorem itemLines_withItems (payload : NsOrderPayload) (lines : List Js.Value) :
    itemLines (withItems payload lines) = .ok lines := by
  unfold itemLines withItems
  rw [Js.Fields.get?_set_self]
  rfl

/-- How the resolver ends, after its run of the item lines. -/
inductive ResolverEnd (nsAccountId : String) (payload : NsOrderPayload) :
    Except Thrown (MappingResult (List Js.Value)) → List Ev →
      Except Thrown (MappingResult NsOrderPayload) → Prop
  | failed (e : Thrown) : ResolverEnd nsAccountId payload (.error e) [] (.error e)
  | parked (reason : ParkReason) :
      ResolverEnd nsAccountId payload (.ok (.parked reason)) [] (.ok (.parked reason))
  | unshipped {lines : List Js.Value}
      (h : ((payload.get? "shipping").getD .undefined).truthy = false) :
      ResolverEnd nsAccountId payload (.ok (.ok lines)) [] (.ok (.ok (withItems payload lines)))
  | unreadable {lines : List Js.Value} {e : Thrown}
      (h : linesOf ((payload.get? "shipping").getD .undefined) = .error e)
      (hbag : ((payload.get? "shipping").getD .undefined).truthy = true) :
      ResolverEnd nsAccountId payload (.ok (.ok lines)) [] (.error e)
  | shipped {lines shipping : List Js.Value} {t : List Ev}
      {r : Except Thrown (MappingResult (List Js.Value))}
      (h : linesOf ((payload.get? "shipping").getD .undefined) = .ok shipping)
      (hrun : LinesRun nsAccountId "shipping" none 0 shipping t r) :
      ResolverEnd nsAccountId payload (.ok (.ok lines)) t (withShipping (withItems payload lines) r)

theorem resolveItemReferences_runs {payload : NsOrderPayload}
    {res : Except Thrown (MappingResult NsOrderPayload)}
    (h : Settles (resolveItemReferences payload nsAccountId fallback) tr res)
    (hlines : itemLines payload = .ok lines) :
    ∃ t₁ t₂ r, tr = t₁ ++ t₂ ∧ LinesRun nsAccountId "item" fallback 0 lines t₁ r ∧
      ResolverEnd nsAccountId payload r t₂ res := by
  unfold resolveItemReferences at h
  obtain ⟨e, _, hread⟩ | ⟨read, t₁, t₂, rfl, hread, hrest⟩ := settles_bind.mp h
  · obtain ⟨_, hread⟩ := settles_ofExcept.mp hread
    rw [hlines] at hread
    cases hread
  obtain ⟨rfl, hread⟩ := settles_ofExcept.mp hread
  rw [hlines] at hread
  cases hread
  rw [List.nil_append]
  obtain ⟨e, rfl, hitems⟩ | ⟨r, t₃, t₄, rfl, hitems, hrest₁⟩ := settles_bind.mp hrest
  · exact ⟨t₂, [], _, by simp, resolveLines_runs hitems, .failed e⟩
  cases r with
  | parked reason =>
    obtain ⟨rfl, rfl⟩ := settles_pure.mp hrest₁
    exact ⟨t₃, [], _, rfl, resolveLines_runs hitems, .parked reason⟩
  | ok items =>
    refine ⟨t₃, t₄, _, rfl, resolveLines_runs hitems, ?_⟩
    dsimp only at hrest₁
    by_cases hbag : ((payload.get? "shipping").getD .undefined).truthy = true
    · rw [if_pos hbag] at hrest₁
      obtain ⟨e, rfl, hread₁⟩ | ⟨shipping, t₅, t₆, rfl, hread₁, hrest₂⟩ := settles_bind.mp hrest₁
      · obtain ⟨rfl, hbagLines⟩ := settles_ofExcept.mp hread₁
        exact .unreadable hbagLines.symm hbag
      obtain ⟨rfl, hbagLines⟩ := settles_ofExcept.mp hread₁
      obtain ⟨e, rfl, hship⟩ | ⟨r, t₇, t₈, rfl, hship, hret⟩ := settles_bind.mp hrest₂
      · exact .shipped (r := .error e) hbagLines.symm (resolveLines_runs hship)
      · cases r with
        | parked reason =>
          obtain ⟨rfl, rfl⟩ := settles_pure.mp hret
          rw [List.append_nil]
          exact .shipped (r := .ok (.parked reason)) hbagLines.symm (resolveLines_runs hship)
        | ok lines =>
          obtain ⟨rfl, rfl⟩ := settles_pure.mp hret
          rw [List.append_nil]
          exact .shipped (r := .ok (.ok lines)) hbagLines.symm (resolveLines_runs hship)
    · rw [if_neg hbag] at hrest₁
      obtain ⟨rfl, rfl⟩ := settles_pure.mp hrest₁
      exact .unshipped (by simpa using hbag)

end DpIntegrator
