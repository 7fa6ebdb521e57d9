import DpIntegrator.NetSuite.ExternalIds

/-!
# Shopify ids in NetSuite

The translation of an id to an external id writes characters only that may stand in a URL, leaves
what it has written, and keeps apart all that a Shopify id tells but the letter case of its type.
-/

namespace DpIntegrator

/-- A Shopify id: `gid://shopify/`, the name of a type, and a number. -/
structure ShopifyGid where
  type : String
  id : String
  type_ne : type ≠ ""
  type_alpha : ∀ c ∈ type.toList, c.isAlpha = true
  id_ne : id ≠ ""
  id_digit : ∀ c ∈ id.toList, c.isDigit = true

namespace ShopifyGid

def text (gid : ShopifyGid) : String := "gid://shopify/" ++ gid.type ++ "/" ++ gid.id

theorem splitChars_append {cs rest : List Char} (h : '/' ∉ cs) :
    Js.splitChars '/' (cs ++ '/' :: rest) = cs :: Js.splitChars '/' rest := by
  induction cs with
  | nil => rw [List.nil_append, Js.splitChars, if_pos rfl]
  | cons c cs ih =>
    rw [List.mem_cons, not_or] at h
    rw [List.cons_append, Js.splitChars, if_neg (Ne.symm h.1), ih h.2]

theorem splitChars_of_notMem {cs : List Char} (h : '/' ∉ cs) : Js.splitChars '/' cs = [cs] := by
  induction cs with
  | nil => rfl
  | cons c cs ih =>
    rw [List.mem_cons, not_or] at h
    rw [Js.splitChars, if_neg (Ne.symm h.1), ih h.2]

/-- A Shopify id is read as its type and its number. -/
theorem gidParts_text (gid : ShopifyGid) :
    gidParts gid.text = some (gid.type.toList, gid.id.toList) := by
  have hslash (p : Char → Bool) (hp : p '/' = false) {cs : List Char} (hcs : ∀ c ∈ cs, p c = true) :
      '/' ∉ cs := by
    intro hmem
    rw [hcs '/' hmem] at hp
    cases hp
  have htype := hslash Char.isAlpha (by decide) gid.type_alpha
  have hid := hslash Char.isDigit (by decide) gid.id_digit
  have htext : gid.text.toList = "gid:".toList ++ '/' :: ([] ++ '/' :: ("shopify".toList ++
      '/' :: (gid.type.toList ++ '/' :: gid.id.toList))) := by
    have hfront : "gid://shopify/".toList =
        "gid:".toList ++ '/' :: '/' :: ("shopify".toList ++ ['/']) := by decide
    unfold text
    rw [String.toList_append, String.toList_append, String.toList_append, hfront]
    simp
  have htype_ne : gid.type.toList ≠ [] := fun h => gid.type_ne (String.toList_eq_nil_iff.mp h)
  have hid_ne : gid.id.toList ≠ [] := fun h => gid.id_ne (String.toList_eq_nil_iff.mp h)
  unfold gidParts
  rw [htext, splitChars_append (by decide), splitChars_append (by decide),
    splitChars_append (by decide), splitChars_append htype, splitChars_of_notMem hid]
  exact if_pos ⟨rfl, rfl, rfl, htype_ne, List.all_eq_true.mpr gid.type_alpha, hid_ne,
    List.all_eq_true.mpr gid.id_digit⟩

end ShopifyGid

/-- What may stand in an external id is no Shopify id. -/
theorem gidParts_of_safe {s : String} (h : ∀ c ∈ s.toList, isSafe c = true) : gidParts s = none := by
  have hslash : '/' ∉ s.toList := fun hmem => absurd (h '/' hmem) (by decide)
  unfold gidParts
  rw [ShopifyGid.splitChars_of_notMem hslash]

/-- What may stand in an external id is left as it is. -/
theorem shopifyGidToNsExternalId_of_safe {s : String} (h : ∀ c ∈ s.toList, isSafe c = true) :
    shopifyGidToNsExternalId s = s := by
  have hunits : unitsOf s = s.toList := by
    unfold unitsOf
    have hsingle : ∀ c ∈ s.toList, (if c.toNat < 0x10000 then [c] else [c, c]) = [c] := by
      intro c hc
      have hcode := (isSafe_iff c).mp (h c hc)
      rw [if_pos (by omega)]
    rw [List.flatMap_congr hsingle, List.flatMap_singleton']
  apply String.toList_inj.mp
  rw [toList_externalId_of_text (gidParts_of_safe h), hunits, map_keptOrHyphen_of_safe h]

/-- A translated id has letters, digits, underscores and hyphens only, and is translated to itself;
two Shopify ids are translated to one exactly when their numbers are equal, and their types up to
letter case. -/
theorem gid_translation :
    (∀ s, (∀ c ∈ (shopifyGidToNsExternalId s).toList, c.isAlphanum = true ∨ c = '_' ∨ c = '-') ∧
      shopifyGidToNsExternalId (shopifyGidToNsExternalId s) = shopifyGidToNsExternalId s) ∧
    ∀ g g' : ShopifyGid, shopifyGidToNsExternalId g.text = shopifyGidToNsExternalId g'.text ↔
      g.id = g'.id ∧ g.type.toList.map Char.toLower = g'.type.toList.map Char.toLower := by
  refine ⟨fun s => ⟨fun c hc => ?_, ?_⟩, fun g g' => ?_⟩
  · have hsafe := isSafe_shopifyGidToNsExternalId s c hc
    simpa [isSafe, or_assoc] using hsafe
  · exact shopifyGidToNsExternalId_of_safe (isSafe_shopifyGidToNsExternalId s)
  · rw [← String.toList_inj, toList_externalId_of_gid g.gidParts_text,
      toList_externalId_of_gid g'.gidParts_text]
    constructor
    · intro heq
      obtain ⟨htype, hid⟩ := gidText_inj g.id_digit g'.id_digit heq
      exact ⟨String.toList_inj.mp hid, htype⟩
    · rintro ⟨hid, htype⟩
      unfold gidText
      rw [hid, htype]

end DpIntegrator
