import DpIntegrator.NetSuite.Draft

/-!
# References of a payload

Wrapping turns the plain ids of the reference fields into references, in the header and in the
lines, drops the header fields without content, and leaves everything else. What it gives it
does not change again: the references are objects, and so are the sublists.
-/

namespace DpIntegrator

/-- A plain id: a text or a number. -/
def IsBare (v : Js.Value) : Prop := (∃ s, v = .str s) ∨ ∃ n, v = .num n

/-- The properties that hold lines. -/
def IsSublist (key : String) : Prop := key = "item" ∨ key = "shipping"

/-- The header property has content: it is not undefined, and null asks to clear a reference. -/
def hasContent (entry : String × Js.Value) : Bool :=
  match entry.2 with
  | .undefined => false
  | .null => entry.1 ∈ headerRefFields
  | _ => true

/-- A property after wrapping, among properties of which `refs` are references. -/
structure WrappedField (refs : List String) (field wrapped : String × Js.Value) : Prop where
  name : wrapped.1 = field.1
  /-- A plain id becomes a reference to it. -/
  bare : field.1 ∈ refs → IsBare field.2 → wrapped.2 = .obj [("id", .str field.2.toText)]
  kept : field.1 ∉ refs ∨ ¬IsBare field.2 → wrapped.2 = field.2

/-- A line after wrapping: the same properties in the same order. -/
def WrappedLine (line wrapped : Js.Value) : Prop :=
  ∃ fields fields', line = .obj fields ∧ wrapped = .obj fields' ∧
    List.Forall₂ (WrappedField lineRefFields) fields fields'

/-- A header property after wrapping: the lines of a sublist in their order, or a field. -/
structure WrappedEntry (entry wrapped : String × Js.Value) : Prop where
  name : wrapped.1 = entry.1
  lines : IsSublist entry.1 → ∃ lines lines', entry.2 = .arr lines ∧
    wrapped.2 = .obj [("items", .arr lines')] ∧ List.Forall₂ WrappedLine lines lines'
  field : ¬IsSublist entry.1 → WrappedField headerRefFields entry wrapped

/-- A payload in which every reference is wrapped and every header field has content. -/
structure Normalised (payload : NsOrderPayload) : Prop where
  header : ∀ entry ∈ payload, entry.1 ∈ headerRefFields → ¬IsBare entry.2
  content : ∀ entry ∈ payload, entry.1 ∉ headerRefFields → entry.2 ≠ .null ∧ entry.2 ≠ .undefined
  lines : ∀ entry ∈ payload, IsSublist entry.1 → ∃ lines, entry.2 = .obj [("items", .arr lines)] ∧
    ∀ line ∈ lines, ∃ fields, line = .obj fields ∧
      ∀ field ∈ fields, field.1 ∈ lineRefFields → ¬IsBare field.2

/-- What stands in the one list stands for something in the other. -/
theorem exists_of_mem_right {α β : Type} {R : α → β → Prop} {xs : List α} {ys : List β} {y : β}
    (h : List.Forall₂ R xs ys) (hy : y ∈ ys) : ∃ x ∈ xs, R x y := by
  induction h with
  | nil => cases hy
  | cons hhead _ ih =>
    rcases List.mem_cons.mp hy with rfl | hy
    · exact ⟨_, List.mem_cons_self .., hhead⟩
    · obtain ⟨x, hx, hR⟩ := ih hy
      exact ⟨x, List.mem_cons_of_mem _ hx, hR⟩

/-! ## One value -/

section Values

variable {v : Js.Value} {key : String}

theorem wrapRef_of_bare (h : IsBare v) : wrapRef v = .obj [("id", .str v.toText)] := by
  rcases h with ⟨s, rfl⟩ | ⟨n, rfl⟩
  · rfl
  · rfl

theorem wrapRef_of_not_bare (h : ¬IsBare v) : wrapRef v = v := by
  cases v with
  | str s => exact absurd (.inl ⟨s, rfl⟩) h
  | num n => exact absurd (.inr ⟨n, rfl⟩) h
  | undefined | null | bool | arr | obj => rfl

theorem not_isBare_obj (fields : Js.Fields) : ¬IsBare (.obj fields) := by
  rintro (⟨s, h⟩ | ⟨n, h⟩) <;> cases h

/-- No plain id is left. -/
theorem not_isBare_wrapRef (v : Js.Value) : ¬IsBare (wrapRef v) := by
  by_cases h : IsBare v
  · rw [wrapRef_of_bare h]
    exact not_isBare_obj _
  · rwa [wrapRef_of_not_bare h]

/-- A reference is not wrapped again. -/
theorem wrapRef_wrapRef (v : Js.Value) : wrapRef (wrapRef v) = wrapRef v :=
  wrapRef_of_not_bare (not_isBare_wrapRef v)

theorem wrappedField_wrapRef {refs : List String} (hkey : key ∈ refs) (v : Js.Value) :
    WrappedField refs (key, v) (key, wrapRef v) where
  name := rfl
  bare := fun _ hbare => wrapRef_of_bare hbare
  kept := by
    rintro (hnot | hbare)
    · exact absurd hkey hnot
    · exact wrapRef_of_not_bare hbare

theorem wrappedField_same {refs : List String} (hkey : key ∉ refs) (v : Js.Value) :
    WrappedField refs (key, v) (key, v) where
  name := rfl
  bare := fun hmem => absurd hmem hkey
  kept := fun _ => rfl

/-- In a property after wrapping no reference is a plain id. -/
theorem WrappedField.not_isBare {refs : List String} {field wrapped : String × Js.Value}
    (h : WrappedField refs field wrapped) (hkey : wrapped.1 ∈ refs) : ¬IsBare wrapped.2 := by
  rw [h.name] at hkey
  by_cases hbare : IsBare field.2
  · rw [h.bare hkey hbare]
    exact not_isBare_obj _
  · rwa [h.kept (.inr hbare)]

theorem isNullish_eq_false (hundefined : v ≠ .undefined) (hnull : v ≠ .null) :
    v.isNullish = false := by
  cases v with
  | undefined => exact absurd rfl hundefined
  | null => exact absurd rfl hnull
  | bool | num | str | arr | obj => rfl

theorem hasContent_of_not_nullish (h : v.isNullish = false) : hasContent (key, v) = true := by
  cases v with
  | undefined | null => cases h
  | bool | num | str | arr | obj => rfl

/-- A property with content that is no reference holds something. -/
theorem ne_nullish_of_hasContent (h : hasContent (key, v) = true) (hkey : key ∉ headerRefFields) :
    v ≠ .null ∧ v ≠ .undefined := by
  constructor
  · rintro rfl
    exact hkey (of_decide_eq_true h)
  · rintro rfl
    cases h

end Values

/-! ## Lines -/

/-- The properties of a line are wrapped one by one. -/
theorem wrapLineRefs_obj (fields : Js.Fields) : ∃ wrapped,
    wrapLineRefs (.obj fields) = .ok wrapped ∧ WrappedLine (.obj fields) wrapped := by
  refine ⟨_, rfl, fields, _, rfl, rfl, ?_⟩
  rw [List.forall₂_map_right_iff]
  apply List.forall₂_same.mpr
  rintro ⟨key, v⟩ -
  by_cases hkey : key ∈ lineRefFields
  · simp only [hkey, if_true]
    exact wrappedField_wrapRef hkey v
  · simp only [hkey, if_false]
    exact wrappedField_same hkey v

/-- The lines of a sublist are wrapped one by one. Induction on the lines. -/
theorem exists_mapM_wrapLineRefs {lines : List Js.Value}
    (h : ∀ line ∈ lines, ∃ fields, line = .obj fields) : ∃ wrapped,
    lines.mapM wrapLineRefs = .ok wrapped ∧ List.Forall₂ WrappedLine lines wrapped := by
  induction lines with
  | nil => exact ⟨[], rfl, .nil⟩
  | cons line lines ih =>
    obtain ⟨⟨fields, rfl⟩, hrest⟩ := List.forall_mem_cons.mp h
    obtain ⟨wrapped, hwrapped, hline⟩ := wrapLineRefs_obj fields
    obtain ⟨rest, hmap, hlines⟩ := ih hrest
    exact ⟨wrapped :: rest, by rw [List.mapM_cons, hwrapped, hmap]; rfl, .cons hline hlines⟩

/-! ## One property of the header -/

section Entries

variable {key : String} {value : Js.Value} {fields : Js.Fields}

theorem not_isSublist_of_mem (hkey : key ∈ headerRefFields) : ¬IsSublist key := by
  rintro (rfl | rfl)
  · exact absurd hkey (by decide)
  · exact absurd hkey (by decide)

/-- A reference field is wrapped, whatever it holds. -/
theorem wrapEntry_ref (hkey : key ∈ headerRefFields) (hvalue : value ≠ .undefined) :
    wrapEntry key value = .ok [(key, wrapRef value)] := by
  have hsub : ¬(key = "item" ∨ key = "shipping") := not_isSublist_of_mem hkey
  cases value with
  | undefined => exact absurd rfl hvalue
  | null => simp [wrapEntry, hkey, wrapRef, pure, Except.pure]
  | bool | num | str | arr | obj => simp [wrapEntry, hkey, hsub, pure, Except.pure]

/-- Another field that holds null is dropped. -/
theorem wrapEntry_null (hkey : key ∉ headerRefFields) (hsub : ¬IsSublist key) :
    wrapEntry key .null = .ok [] := by
  have hnone : ¬(key ∈ headerRefFields ∨ key = "item" ∨ key = "shipping") := by
    rintro (h | h)
    · exact hkey h
    · exact hsub h
  simp [wrapEntry, hnone, pure, Except.pure]

/-- Another field that has content is kept. -/
theorem wrapEntry_other (hkey : key ∉ headerRefFields) (hsub : ¬IsSublist key)
    (hcontent : value.isNullish = false) : wrapEntry key value = .ok [(key, value)] := by
  have hsub : ¬(key = "item" ∨ key = "shipping") := hsub
  cases value with
  | undefined | null => cases hcontent
  | bool | num | str | arr | obj => simp [wrapEntry, hkey, hsub, pure, Except.pure]

/-- A sublist that is no array is kept. -/
theorem wrapEntry_sublist (hsub : IsSublist key) (hvalue : value ≠ .undefined)
    (harr : ∀ lines, value ≠ .arr lines) : wrapEntry key value = .ok [(key, value)] := by
  have hsub : key = "item" ∨ key = "shipping" := hsub
  cases value with
  | undefined => exact absurd rfl hvalue
  | arr lines => exact absurd rfl (harr lines)
  | null | bool | num | str | obj => simp [wrapEntry, hsub, pure, Except.pure]

/-- A sublist that is an array is wrapped line by line, or one of its lines is nothing. -/
theorem wrapEntry_arr {lines : List Js.Value} (hsub : IsSublist key)
    (h : wrapEntry key (.arr lines) = .ok fields) : ∃ wrapped,
    lines.mapM wrapLineRefs = .ok wrapped ∧ fields = [(key, .obj [("items", .arr wrapped)])] := by
  have hsub : key = "item" ∨ key = "shipping" := hsub
  simp only [wrapEntry, hsub, if_true] at h
  obtain ⟨wrapped, hwrapped, hret⟩ := bind_eq_ok.mp h
  cases hret
  exact ⟨wrapped, hwrapped, rfl⟩

/-- What a property became is not changed again. -/
theorem wrapEntry_again (h : wrapEntry key value = .ok fields) :
    fields = [] ∨ ∃ value', fields = [(key, value')] ∧ wrapEntry key value' = .ok fields := by
  by_cases hundefined : value = .undefined
  · subst hundefined
    cases h
    exact .inl rfl
  by_cases hkey : key ∈ headerRefFields
  · rw [wrapEntry_ref hkey hundefined] at h
    cases h
    have hwrapped : wrapRef value ≠ .undefined := by
      by_cases hbare : IsBare value
      · rw [wrapRef_of_bare hbare]
        simp
      · rwa [wrapRef_of_not_bare hbare]
    refine .inr ⟨wrapRef value, rfl, ?_⟩
    rw [wrapEntry_ref hkey hwrapped, wrapRef_wrapRef]
  by_cases hsub : IsSublist key
  · by_cases harr : ∃ lines, value = .arr lines
    · obtain ⟨lines, rfl⟩ := harr
      obtain ⟨wrapped, _, rfl⟩ := wrapEntry_arr hsub h
      exact .inr ⟨_, rfl, wrapEntry_sublist hsub (by simp) (by simp)⟩
    · have hkept := wrapEntry_sublist hsub hundefined fun lines hlines => harr ⟨lines, hlines⟩
      rw [hkept] at h
      cases h
      exact .inr ⟨value, rfl, hkept⟩
  by_cases hnull : value = .null
  · subst hnull
    rw [wrapEntry_null hkey hsub] at h
    cases h
    exact .inl rfl
  · have hcontent := isNullish_eq_false hundefined hnull
    have hkept := wrapEntry_other hkey hsub hcontent
    rw [hkept] at h
    cases h
    exact .inr ⟨value, rfl, hkept⟩

/-- A property without content is dropped; every other one is wrapped. -/
theorem exists_wrappedEntry
    (h : IsSublist key →
      ∃ lines, value = .arr lines ∧ ∀ line ∈ lines, ∃ fields, line = .obj fields) :
    (hasContent (key, value) = false ∧ wrapEntry key value = .ok []) ∨
      hasContent (key, value) = true ∧ ∃ wrapped, wrapEntry key value = .ok [(key, wrapped)] ∧
        WrappedEntry (key, value) (key, wrapped) := by
  by_cases hsub : IsSublist key
  · obtain ⟨lines, rfl, hlines⟩ := h hsub
    obtain ⟨wrapped, hmap, hwrapped⟩ := exists_mapM_wrapLineRefs hlines
    exact .inr ⟨rfl, _, wrapEntry_lines hsub hmap, rfl,
      fun _ => ⟨lines, wrapped, rfl, rfl, hwrapped⟩, fun hnot => absurd hsub hnot⟩
  by_cases hundefined : value = .undefined
  · subst hundefined
    exact .inl ⟨rfl, rfl⟩
  by_cases hkey : key ∈ headerRefFields
  · refine .inr ⟨?_, _, wrapEntry_ref hkey hundefined, rfl, fun h => absurd h hsub,
      fun _ => wrappedField_wrapRef hkey value⟩
    cases value with
    | undefined => exact absurd rfl hundefined
    | null => exact decide_eq_true hkey
    | bool | num | str | arr | obj => rfl
  by_cases hnull : value = .null
  · subst hnull
    exact .inl ⟨decide_eq_false hkey, wrapEntry_null hkey hsub⟩
  · have hcontent := isNullish_eq_false hundefined hnull
    exact .inr ⟨hasContent_of_not_nullish hcontent, value, wrapEntry_other hkey hsub hcontent, rfl,
      fun h => absurd h hsub, fun _ => wrappedField_same hkey value⟩

end Entries

/-! ## The payload -/

section Payloads

variable {raw payload rest : Js.Fields}

/-- Wrapped payloads side by side are wrapped. -/
theorem wrapNsReferences_append (h : wrapNsReferences raw = .ok payload) {more : Js.Fields}
    (hmore : wrapNsReferences more = .ok rest) :
    wrapNsReferences (raw ++ more) = .ok (payload ++ rest) := by
  induction raw generalizing payload with
  | nil =>
    cases h
    exact hmore
  | cons entry raw ih =>
    rw [wrapNsReferences_cons] at h
    obtain ⟨fields, hfields, htail⟩ := bind_eq_ok.mp h
    obtain ⟨wrapped, hwrapped, hret⟩ := bind_eq_ok.mp htail
    cases hret
    rw [List.cons_append, wrapNsReferences_cons, hfields, ih hwrapped]
    exact congrArg Except.ok (List.append_assoc ..).symm

/-- What was wrapped is not changed by wrapping it again. Induction on the properties. -/
theorem wrapNsReferences_again (h : wrapNsReferences raw = .ok payload) :
    wrapNsReferences payload = .ok payload := by
  induction raw generalizing payload with
  | nil =>
    cases h
    rfl
  | cons entry raw ih =>
    rw [wrapNsReferences_cons] at h
    obtain ⟨fields, hfields, htail⟩ := bind_eq_ok.mp h
    obtain ⟨wrapped, hwrapped, hret⟩ := bind_eq_ok.mp htail
    cases hret
    refine wrapNsReferences_append ?_ (ih hwrapped)
    rcases wrapEntry_again hfields with rfl | ⟨value, rfl, hagain⟩
    · rfl
    · rw [wrapNsReferences_cons, hagain]
      rfl

/-- The properties with content are wrapped one by one, in their order. Induction on the
properties. -/
theorem exists_wrappedEntries (h : ∀ entry ∈ raw, IsSublist entry.1 →
      ∃ lines, entry.2 = .arr lines ∧ ∀ line ∈ lines, ∃ fields, line = .obj fields) :
    ∃ payload, wrapNsReferences raw = .ok payload ∧
      List.Forall₂ WrappedEntry (raw.filter hasContent) payload := by
  induction raw with
  | nil => exact ⟨[], rfl, .nil⟩
  | cons entry raw ih =>
    obtain ⟨key, value⟩ := entry
    obtain ⟨hentry, hrest⟩ := List.forall_mem_cons.mp h
    obtain ⟨payload, hpayload, hwrapped⟩ := ih hrest
    obtain ⟨hnone, hdrop⟩ | ⟨hcontent, wrapped, hwrap, hfield⟩ := exists_wrappedEntry hentry
    · refine ⟨payload, ?_, ?_⟩
      · rw [wrapNsReferences_cons, hdrop, hpayload]
        rfl
      · rwa [List.filter_cons_of_neg (by simp [hnone])]
    · refine ⟨(key, wrapped) :: payload, ?_, ?_⟩
      · rw [wrapNsReferences_cons, hwrap, hpayload]
        rfl
      · rw [List.filter_cons_of_pos hcontent]
        exact .cons hfield hwrapped

/-- A payload whose properties were wrapped one by one is normalised. -/
theorem Normalised.of_wrapped (h : List.Forall₂ WrappedEntry (raw.filter hasContent) payload) :
    Normalised payload where
  header := by
    intro wrapped hmem hkey
    obtain ⟨entry, _, hwrapped⟩ := exists_of_mem_right h hmem
    rw [hwrapped.name] at hkey
    have hfield := hwrapped.field (not_isSublist_of_mem hkey)
    rw [← hwrapped.name] at hkey
    exact hfield.not_isBare hkey
  content := by
    intro wrapped hmem hkey
    obtain ⟨⟨key, value⟩, hentry, hwrapped⟩ := exists_of_mem_right h hmem
    rw [hwrapped.name] at hkey
    by_cases hsub : IsSublist key
    · obtain ⟨lines, lines', _, hvalue, _⟩ := hwrapped.lines hsub
      rw [hvalue]
      exact ⟨nofun, nofun⟩
    · rw [(hwrapped.field hsub).kept (.inl hkey)]
      exact ne_nullish_of_hasContent (List.mem_filter.mp hentry).2 hkey
  lines := by
    intro wrapped hmem hsub
    obtain ⟨entry, _, hwrapped⟩ := exists_of_mem_right h hmem
    rw [hwrapped.name] at hsub
    obtain ⟨lines, lines', _, hvalue, hlines⟩ := hwrapped.lines hsub
    refine ⟨lines', hvalue, fun line hline => ?_⟩
    obtain ⟨_, _, fields, fields', _, rfl, hfields⟩ := exists_of_mem_right hlines hline
    refine ⟨fields', rfl, fun field hfield hkey => ?_⟩
    obtain ⟨_, _, hwrappedField⟩ := exists_of_mem_right hfields hfield
    exact hwrappedField.not_isBare hkey

/-- A payload whose sublists are arrays of line objects is normalised by wrapping: its properties
with content are kept in their order, and of them only the plain ids of references and the form of
the sublists change, with every line and the order of its properties kept. And whatever the
payload, what wrapping gave it gives again. -/
theorem references_wrapped_once :
    (∀ raw : Js.Fields,
      (∀ entry ∈ raw, IsSublist entry.1 →
        ∃ lines, entry.2 = .arr lines ∧ ∀ line ∈ lines, ∃ fields, line = .obj fields) →
      ∃ payload, wrapNsReferences raw = .ok payload ∧ Normalised payload ∧
        List.Forall₂ WrappedEntry (raw.filter hasContent) payload) ∧
    ∀ raw payload, wrapNsReferences raw = .ok payload → wrapNsReferences payload = .ok payload := by
  constructor
  · intro raw h
    obtain ⟨payload, hpayload, hwrapped⟩ := exists_wrappedEntries h
    exact ⟨payload, hpayload, .of_wrapped hwrapped, hwrapped⟩
  · intro raw payload h
    exact wrapNsReferences_again h

/-- A payload of one line, with a reference that is wrapped already and a field without content. -/
def rawOrder : Js.Fields :=
  [("entity", .str "7"), ("terms", .obj [("id", .str "2")]), ("memo", .null),
    ("item", .arr [.obj [("item", .str "12"), ("description", .str "tee")]])]

/-- The payload of one line wrapped, once and twice. -/
theorem references_wrapped_once_order :
    (∃ payload, wrapNsReferences rawOrder = .ok payload ∧ Normalised payload ∧
      List.Forall₂ WrappedEntry (rawOrder.filter hasContent) payload) ∧
    wrapNsReferences [("entity", .obj [("id", .str "7")])] =
      .ok [("entity", .obj [("id", .str "7")])] := by
  refine ⟨references_wrapped_once.1 rawOrder ?_,
    references_wrapped_once.2 [("entity", .str "7")] _ rfl⟩
  simp [rawOrder, IsSublist]

end Payloads

end DpIntegrator
