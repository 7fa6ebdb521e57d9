import DpIntegrator.NetSuite.SdkGateway
import DpIntegrator.Core.Keys

/-!
# External ids

The external id of an order in NetSuite is made from its Shopify id alone. Ids that are not
made of the same letters and digits can still become one: the type of a GID is written in
lower case, and of other texts every separator becomes a hyphen. This file says which ids do.
-/

namespace DpIntegrator

section

variable {c : Char}

/-! ## Characters of an external id -/

/-- The code of a character in lower case. -/
theorem toNat_toLower (c : Char) : c.toLower.toNat =
    if 65 ≤ c.toNat ∧ c.toNat ≤ 90 then c.toNat + 32 else c.toNat := by
  have hupper : (c.val ≥ 'A'.val ∧ c.val ≤ 'Z'.val) ↔ (65 ≤ c.toNat ∧ c.toNat ≤ 90) := by
    rw [ge_iff_le, UInt32.le_iff_toNat_le, UInt32.le_iff_toNat_le]
    rfl
  unfold Char.toLower
  by_cases h : 65 ≤ c.toNat ∧ c.toNat ≤ 90
  · rw [dif_pos (hupper.mpr h), if_pos h]
    change (c.val + ('a'.val - 'A'.val)).toNat = c.val.toNat + 32
    have hshift : ('a'.val - 'A'.val).toNat = 32 := by decide
    have hcode : c.val.toNat ≤ 90 := h.2
    rw [UInt32.toNat_add, hshift]
    omega
  · rw [dif_neg (hupper.not.mpr h), if_neg h]

theorem isAlpha_iff (c : Char) : c.isAlpha = true ↔
    65 ≤ c.toNat ∧ c.toNat ≤ 90 ∨ 97 ≤ c.toNat ∧ c.toNat ≤ 122 := by
  change (decide (c.val ≥ 'A'.val ∧ c.val ≤ 'Z'.val) ||
    (decide (c.val ≥ 'a'.val) && decide (c.val ≤ 'z'.val))) = true ↔ _
  simp only [Bool.or_eq_true, Bool.and_eq_true, decide_eq_true_eq, ge_iff_le,
    UInt32.le_iff_toNat_le]
  rfl

theorem isDigit_iff (c : Char) : c.isDigit = true ↔ 48 ≤ c.toNat ∧ c.toNat ≤ 57 := by
  simp only [Char.isDigit, Bool.and_eq_true, decide_eq_true_eq, ge_iff_le,
    UInt32.le_iff_toNat_le]
  rfl

theorem eq_of_toNat {c d : Char} (h : c.toNat = d.toNat) : c = d :=
  Char.ext (UInt32.toNat_inj.mp h)

/-- The codes of the characters that may stand in an external id. -/
theorem isSafe_iff (c : Char) : isSafe c = true ↔
    c.toNat = 45 ∨ 48 ≤ c.toNat ∧ c.toNat ≤ 57 ∨ 65 ≤ c.toNat ∧ c.toNat ≤ 90 ∨ c.toNat = 95 ∨
      97 ≤ c.toNat ∧ c.toNat ≤ 122 := by
  have hunderscore : c = '_' ↔ c.toNat = 95 := ⟨by rintro rfl; rfl, fun h => eq_of_toNat h⟩
  have hhyphen : c = '-' ↔ c.toNat = 45 := ⟨by rintro rfl; rfl, fun h => eq_of_toNat h⟩
  simp only [isSafe, Char.isAlphanum, Bool.or_eq_true, beq_iff_eq, isAlpha_iff, isDigit_iff,
    hunderscore, hhyphen]
  omega

theorem isSpace_of_isSafe (h : isSafe c = true) : Js.isSpace c = false := by
  have hcode := (isSafe_iff c).mp h
  simp only [Js.isSpace, Bool.or_eq_false_iff, Bool.and_eq_false_iff, decide_eq_false_iff_not,
    beq_eq_false_iff_ne]
  omega

theorem isSafe_toLower (h : c.isAlpha = true) : isSafe c.toLower = true := by
  rw [isAlpha_iff] at h
  rw [isSafe_iff, toNat_toLower]
  split <;> omega

/-- A character in lower case is a space only if it was one. -/
theorem toLower_ne_space (h : isSafe c = true) : c.toLower ≠ ' ' := by
  have hcode := (isSafe_iff c).mp h
  intro heq
  have hspace : c.toLower.toNat = 32 := congrArg Char.toNat heq
  rw [toNat_toLower] at hspace
  split at hspace <;> omega

theorem toLower_of_isDigit (h : c.isDigit = true) : c.toLower = c := by
  rw [isDigit_iff] at h
  refine eq_of_toNat ?_
  rw [toNat_toLower]
  split <;> omega

/-- The parts of a GID are letters and digits. -/
theorem gidParts_eq_some {s : String} {type number : List Char}
    (h : gidParts s = some (type, number)) :
    (∀ c ∈ type, c.isAlpha = true) ∧ ∀ c ∈ number, c.isDigit = true := by
  unfold gidParts at h
  split at h
  · split at h
    · next hparts =>
      cases h
      exact ⟨List.all_eq_true.mp hparts.2.2.2.2.1, List.all_eq_true.mp hparts.2.2.2.2.2.2⟩
    · cases h
  · cases h

theorem isSafe_shopifyGidToNsExternalId (externalId : String) :
    ∀ c ∈ (shopifyGidToNsExternalId externalId).toList, isSafe c = true := by
  unfold shopifyGidToNsExternalId
  split
  · next type number hparts =>
    obtain ⟨htype, hnumber⟩ := gidParts_eq_some hparts
    intro c hc
    simp only [String.toList_append, String.toList_ofList, List.mem_append, List.mem_map] at hc
    rcases hc with ((hc | ⟨a, ha, rfl⟩) | hc) | hc
    · exact List.all_eq_true.mp (by decide : ("shopify-".toList).all isSafe = true) c hc
    · exact isSafe_toLower (htype a ha)
    · exact List.all_eq_true.mp (by decide : ("-".toList).all isSafe = true) c hc
    · simp [isSafe, Char.isAlphanum, hnumber c hc]
  · intro c hc
    simp only [String.toList_ofList, List.mem_flatMap] at hc
    obtain ⟨a, _, hc⟩ := hc
    split at hc
    · next hsafe => exact (List.mem_singleton.mp hc) ▸ hsafe
    · split at hc
      · rw [List.mem_singleton.mp hc]
        decide
      · simp only [List.mem_cons, List.not_mem_nil, or_false, or_self] at hc
        rw [hc]
        decide

end

/-! ## Ids that become one -/

/-- A text, with a character for each of its UTF-16 code units. -/
def unitsOf (s : String) : List Char :=
  s.toList.flatMap fun c => if c.toNat < 0x10000 then [c] else [c, c]

/-- Characters that are not kept apart from one another: all but letters, digits and
underscores. -/
def IsSeparator (c : Char) : Prop := c.isAlphanum = false ∧ c ≠ '_'

/-- The same character, or two separators. -/
def Alike (a b : Char) : Prop := a = b ∨ IsSeparator a ∧ IsSeparator b

/-- The text `shopify-<type>-<number>` of a GID. -/
def gidText (type number : List Char) : List Char :=
  "shopify-".toList ++ type.map Char.toLower ++ ['-'] ++ number

/-- Two order ids clash: they are GIDs of one number whose types differ in case at most, or
texts that differ in separators at most, or a GID and a text that spells it out. -/
inductive Clash : String → String → Prop
  | gids {s t : String} {type type' number : List Char} (hs : gidParts s = some (type, number))
      (ht : gidParts t = some (type', number))
      (h : type.map Char.toLower = type'.map Char.toLower) : Clash s t
  | texts {s t : String} (hs : gidParts s = none) (ht : gidParts t = none)
      (h : List.Forall₂ Alike (unitsOf s) (unitsOf t)) : Clash s t
  | gidSpelled {s t : String} {type number : List Char} (hs : gidParts s = some (type, number))
      (ht : gidParts t = none) (h : List.Forall₂ Alike (gidText type number) (unitsOf t)) :
      Clash s t
  | spelledGid {s t : String} {type number : List Char} (hs : gidParts s = none)
      (ht : gidParts t = some (type, number))
      (h : List.Forall₂ Alike (unitsOf s) (gidText type number)) : Clash s t

/-- What becomes of a code unit. -/
def keptOrHyphen (c : Char) : Char := if isSafe c then c else '-'

theorem keptOrHyphen_of_separator {c : Char} (h : IsSeparator c) : keptOrHyphen c = '-' := by
  obtain ⟨halpha, hne⟩ := h
  unfold keptOrHyphen
  by_cases hc : c = '-'
  · simp [hc]
  · simp [isSafe, halpha, hne, hc]

theorem keptOrHyphen_of_not_separator {c : Char} (h : ¬IsSeparator c) : keptOrHyphen c = c := by
  unfold IsSeparator at h
  unfold keptOrHyphen
  rw [if_pos]
  unfold isSafe
  cases halpha : c.isAlphanum with
  | true => rfl
  | false =>
    have hunderscore : c = '_' := by simpa [halpha] using h
    rw [hunderscore]
    rfl

/-- Two code units become one exactly when they are alike. -/
theorem keptOrHyphen_eq_iff (a b : Char) : keptOrHyphen a = keptOrHyphen b ↔ Alike a b := by
  have hkept {c : Char} (h : ¬IsSeparator c) : c ≠ '-' := by
    rintro rfl
    exact h ⟨rfl, by decide⟩
  unfold Alike
  by_cases ha : IsSeparator a
  · by_cases hb : IsSeparator b
    · simp [keptOrHyphen_of_separator ha, keptOrHyphen_of_separator hb, ha, hb]
    · have hne : a ≠ b := by
        rintro rfl
        exact hb ha
      rw [keptOrHyphen_of_separator ha, keptOrHyphen_of_not_separator hb]
      simp [hb, hne, (hkept hb).symm]
  · by_cases hb : IsSeparator b
    · have hne : a ≠ b := by
        rintro rfl
        exact ha hb
      rw [keptOrHyphen_of_separator hb, keptOrHyphen_of_not_separator ha]
      simp [ha, hne, hkept ha]
    · rw [keptOrHyphen_of_not_separator ha, keptOrHyphen_of_not_separator hb]
      simp [ha]

/-- Texts become one exactly when their code units are alike. -/
theorem map_keptOrHyphen_eq_iff {us vs : List Char} :
    us.map keptOrHyphen = vs.map keptOrHyphen ↔ List.Forall₂ Alike us vs := by
  rw [← List.forall₂_eq_eq_eq, List.forall₂_map_left_iff, List.forall₂_map_right_iff]
  simp only [keptOrHyphen_eq_iff]

theorem map_keptOrHyphen_of_safe {us : List Char} (h : ∀ c ∈ us, isSafe c = true) :
    us.map keptOrHyphen = us := by
  rw [List.map_congr_left (g := id), List.map_id]
  intro c hc
  unfold keptOrHyphen
  rw [if_pos (h c hc), id]

theorem toList_externalId_of_gid {s : String} {type number : List Char}
    (h : gidParts s = some (type, number)) :
    (shopifyGidToNsExternalId s).toList = gidText type number := by
  unfold shopifyGidToNsExternalId gidText
  rw [h]
  simp only [String.toList_append, String.toList_ofList]
  rfl

theorem toList_externalId_of_text {s : String} (h : gidParts s = none) :
    (shopifyGidToNsExternalId s).toList = (unitsOf s).map keptOrHyphen := by
  unfold shopifyGidToNsExternalId unitsOf
  rw [h, String.toList_ofList, List.map_flatMap]
  congr 1
  funext c
  by_cases hsafe : isSafe c = true
  · have hcode := (isSafe_iff c).mp hsafe
    rw [if_pos hsafe, if_pos (by omega)]
    simp [keptOrHyphen, hsafe]
  · rw [if_neg hsafe]
    split <;> simp [keptOrHyphen, hsafe]

/-- The text of a GID tells its number, and its type in lower case. -/
theorem gidText_inj {type type' number number' : List Char}
    (hnumber : ∀ c ∈ number, c.isDigit = true) (hnumber' : ∀ c ∈ number', c.isDigit = true)
    (h : gidText type number = gidText type' number') :
    type.map Char.toLower = type'.map Char.toLower ∧ number = number' := by
  have hhyphen {cs : List Char} (hcs : ∀ c ∈ cs, c.isDigit = true) : '-' ∉ cs := by
    intro hmem
    exact absurd (hcs '-' hmem) (by decide)
  obtain rfl := Js.append_singleton_append_inj (hhyphen hnumber) (hhyphen hnumber') h
  unfold gidText at h
  rw [List.append_left_inj, List.append_left_inj, List.append_right_inj] at h
  exact ⟨h, rfl⟩

/-- Two order ids have one external id exactly when they clash. -/
theorem externalId_eq_iff_clash (s t : String) :
    shopifyGidToNsExternalId s = shopifyGidToNsExternalId t ↔ Clash s t := by
  rw [← String.toList_inj]
  have hsafe {r : String} {type number : List Char} (hr : gidParts r = some (type, number)) :
      (gidText type number).map keptOrHyphen = gidText type number := by
    rw [← toList_externalId_of_gid hr]
    exact map_keptOrHyphen_of_safe (isSafe_shopifyGidToNsExternalId r)
  cases hs : gidParts s with
  | some parts =>
    obtain ⟨type, number⟩ := parts
    rw [toList_externalId_of_gid hs]
    cases ht : gidParts t with
    | some parts' =>
      obtain ⟨type', number'⟩ := parts'
      rw [toList_externalId_of_gid ht]
      constructor
      · intro heq
        obtain ⟨htype, rfl⟩ :=
          gidText_inj (gidParts_eq_some hs).2 (gidParts_eq_some ht).2 heq
        exact .gids hs ht htype
      · intro hclash
        cases hclash with
        | gids hs' ht' htype =>
          rw [hs] at hs'
          rw [ht] at ht'
          cases hs'
          cases ht'
          unfold gidText
          rw [htype]
        | texts hs' => simp [hs] at hs'
        | gidSpelled _ ht' => simp [ht] at ht'
        | spelledGid hs' => simp [hs] at hs'
    | none =>
      rw [toList_externalId_of_text ht, ← hsafe hs, map_keptOrHyphen_eq_iff]
      constructor
      · exact .gidSpelled hs ht
      · intro hclash
        cases hclash with
        | gids _ ht' => simp [ht] at ht'
        | texts hs' => simp [hs] at hs'
        | gidSpelled hs' _ h =>
          rw [hs] at hs'
          cases hs'
          exact h
        | spelledGid hs' => simp [hs] at hs'
  | none =>
    rw [toList_externalId_of_text hs]
    cases ht : gidParts t with
    | some parts' =>
      obtain ⟨type', number'⟩ := parts'
      rw [toList_externalId_of_gid ht, ← hsafe ht, map_keptOrHyphen_eq_iff]
      constructor
      · exact .spelledGid hs ht
      · intro hclash
        cases hclash with
        | gids hs' => simp [hs] at hs'
        | texts _ ht' => simp [ht] at ht'
        | gidSpelled hs' => simp [hs] at hs'
        | spelledGid _ ht' h =>
          rw [ht] at ht'
          cases ht'
          exact h
    | none =>
      rw [toList_externalId_of_text ht, map_keptOrHyphen_eq_iff]
      constructor
      · exact .texts hs ht
      · intro hclash
        cases hclash with
        | gids hs' => simp [hs] at hs'
        | texts _ _ h => exact h
        | gidSpelled hs' => simp [hs] at hs'
        | spelledGid _ ht' => simp [ht] at ht'

/-- An order id clashes with itself. -/
theorem Clash.refl (s : String) : Clash s s := (externalId_eq_iff_clash s s).mp rfl

/-! ## Records -/

/-- A record in NetSuite, as an upsert addresses it. -/
structure NsRecord where
  nsAccountId : String
  recordType : RecordType
  externalId : String
  deriving DecidableEq, Repr

/-- The record that the gateway creates or updates. -/
def UpsertArgs.nsRecord (args : UpsertArgs) : NsRecord where
  nsAccountId := args.nsAccountId
  recordType := args.recordType
  externalId := shopifyGidToNsExternalId args.externalId

end DpIntegrator
