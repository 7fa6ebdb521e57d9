import DpIntegrator.Paging.Page

/-!
# Walks through a listing

A walk asks for one page after another, each at or after the key of the last element of the
page before. As the cursor is a key and not a position, elements that share a key are listed
again, and a page that only repeats them does not move the cursor.
-/

namespace Paging

variable {α κ : Type} [LinearOrder κ] {key : α → κ} {items page : List α} {since next v : κ}
  {limit : ℕ} {a b last : α} {pages : List (List α)}

/-- `pages` were listed one after another, the first at `since`. After an empty page the
cursor may be anywhere. -/
inductive Walk (lists : κ → List α → Prop) (key : α → κ) : κ → List (List α) → Prop
  | nil {since : κ} : Walk lists key since []
  | cons {since next : κ} {page : List α} {pages : List (List α)} (hpage : lists since page)
      (hnext : ∀ last, page.getLast? = some last → next = key last)
      (h : Walk lists key next pages) : Walk lists key since (page :: pages)

omit [LinearOrder κ] in
theorem Walk.mono {lists lists' : κ → List α → Prop} (h : Walk lists key since pages)
    (hlists : ∀ since page, lists since page → lists' since page) : Walk lists' key since pages := by
  induction h with
  | nil => exact .nil
  | cons hpage hnext _ ih => exact .cons (hlists _ _ hpage) hnext ih

/-- How many of the items have the key `v`. -/
def ties (key : α → κ) (items : List α) (v : κ) : ℕ := items.countP fun a => key a = v

/-- No page from `since` on can be filled by elements that share a key, unless it is the last. -/
def Passable (key : α → κ) (items : List α) (since : κ) (limit : ℕ) : Prop :=
  ∀ v, since ≤ v → ties key items v < limit ∨
    (ties key items v = limit ∧ ∀ a ∈ items, key a ≤ v)

theorem Passable.mono (h : Passable key items since limit) (hle : since ≤ next) :
    Passable key items next limit := fun v hv => h v (hle.trans hv)

theorem ties_pos (ha : a ∈ items) : 0 < ties key items (key a) :=
  List.countP_pos_iff.mpr ⟨a, ha, by simp⟩

/-! ## Progress -/

/-- Elements of a page that share a key, with what follows the page. -/
theorem IsPage.ties_eq (h : IsPage key items since limit page) (hsince : since ≤ v)
    (hshared : ∀ b ∈ page, key b = v) : ∃ rest : List α,
      (∀ a ∈ items, since ≤ key a → a ∉ page → a ∈ rest) ∧
        ties key items v = page.length + ties key rest v := by
  obtain ⟨rest, hrest, hcount⟩ := h.countP_eq hsince
  have hpage : page.countP (fun b => key b = v) = page.length := by
    apply List.countP_eq_length.mpr
    intro b hb
    simpa using hshared b hb
  refine ⟨rest, hrest, ?_⟩
  unfold ties
  omega

/-- A page that does not show everything moves the cursor past one of its elements. -/
theorem IsPage.advances (h : IsPage key items since limit page)
    (hpass : Passable key items since limit) (ha : a ∈ items) (hsince : since ≤ key a)
    (hmissing : a ∉ page) :
    ∃ last, page.getLast? = some last ∧ ∃ b ∈ page, key b < key last := by
  obtain ⟨hfull, hafter⟩ := h.of_not_mem ha hsince hmissing
  cases hlast : page.getLast? with
  | none =>
    have hnil := List.getLast?_eq_none_iff.mp hlast
    subst hnil
    have hpos : 0 < ties key items (key a) := ties_pos ha
    simp only [List.length_nil] at hfull
    obtain hlt | ⟨heq, _⟩ := hpass (key a) hsince <;> omega
  | some last =>
    refine ⟨last, rfl, ?_⟩
    by_contra hnone
    have hshared : ∀ b ∈ page, key b = key last := by
      intro b hb
      have hle := h.le_last hlast hb
      have hge : ¬key b < key last := fun hlt => hnone ⟨b, hb, hlt⟩
      exact le_antisymm hle (not_lt.mp hge)
    have hmem := List.mem_of_getLast? hlast
    have hlater := hafter last hmem
    have hbound := (h.of_mem hmem).2
    obtain ⟨rest, hrest, hties⟩ := h.ties_eq hbound hshared
    obtain hlt | ⟨heq, hmax⟩ := hpass (key last) hbound
    · omega
    · have hkey : key a = key last := le_antisymm (hmax a ha) hlater
      have hpos : 0 < ties key rest (key last) := hkey ▸ ties_pos (hrest a ha hsince hmissing)
      omega

/-- How many of the items are at or after `since`. -/
def remaining (key : α → κ) (items : List α) (since : κ) : ℕ :=
  items.countP fun a => since ≤ key a

theorem remaining_lt (hle : since ≤ next) (hb : b ∈ items) (hsince : since ≤ key b)
    (hlt : key b < next) : remaining key items next < remaining key items since := by
  unfold remaining
  induction items with
  | nil => cases hb
  | cons c items ih =>
    have hmono : items.countP (fun a => next ≤ key a) ≤ items.countP fun a => since ≤ key a := by
      apply List.countP_mono_left
      intro a _ hnext
      simp only [decide_eq_true_eq] at hnext ⊢
      exact hle.trans hnext
    simp only [List.countP_cons, decide_eq_true_eq]
    obtain rfl | hb := List.mem_cons.mp hb
    · rw [if_neg (not_le.mpr hlt), if_pos hsince]
      omega
    · have hrest := ih hb
      by_cases hnext : next ≤ key c
      · rw [if_pos hnext, if_pos (hle.trans hnext)]
        omega
      · rw [if_neg hnext]
        split <;> omega

/-- As many pages as there are elements at or after `since` show them all. Induction on the
walk: a page shows everything, or leaves fewer elements at or after the next cursor. -/
theorem Walk.covers (h : Walk (fun since page => IsPage key items since limit page) key since pages)
    (hpass : Passable key items since limit) (hlength : remaining key items since ≤ pages.length)
    (ha : a ∈ items) (hsince : since ≤ key a) : ∃ page ∈ pages, a ∈ page := by
  induction h generalizing a with
  | nil =>
    have hpos : 0 < remaining key items _ := List.countP_pos_iff.mpr ⟨a, ha, by simpa using hsince⟩
    simp only [List.length_nil] at hlength
    omega
  | @cons since next page pages hpage hnext _ ih =>
    by_cases hmem : a ∈ page
    · exact ⟨page, List.mem_cons_self .., hmem⟩
    obtain ⟨last, hlast, b, hb, hlt⟩ := hpage.advances hpass ha hsince hmem
    have hkey := hnext last hlast
    have hle : since ≤ next := by
      rw [hkey]
      exact (hpage.of_mem (List.mem_of_getLast? hlast)).2
    have hless : remaining key items next < remaining key items since :=
      remaining_lt hle (hpage.of_mem hb).1 (hpage.of_mem hb).2 (hkey ▸ hlt)
    have hlater : next ≤ key a := by
      rw [hkey]
      exact (hpage.of_not_mem ha hsince hmem).2 last (List.mem_of_getLast? hlast)
    simp only [List.length_cons] at hlength
    obtain ⟨page', hpage', hmem'⟩ := ih (hpass.mono hle) (by omega) ha hlater
    exact ⟨page', List.mem_cons_of_mem _ hpage', hmem'⟩

/-! ## Walks that are stuck -/

/-- Where enough elements of one key come before `a`, no page shows `a`: each is taken from
those before, and the cursor stays at or before the key. -/
theorem Walk.misses {before after : List α}
    (h : Walk (fun since page => page = pageOf key (before ++ a :: after) since limit) key since pages)
    (hnodup : (before ++ a :: after).Nodup) (hlimit : 0 < limit) (hsince : since ≤ v)
    (hbefore : ∀ b ∈ before, key b ≤ v) (hties : limit ≤ ties key before v) :
    ∀ page ∈ pages, a ∉ page := by
  have hfresh : a ∉ before := fun ha =>
    (List.nodup_append.mp hnodup).2.2 a ha a (List.mem_cons_self ..) rfl
  induction h with
  | nil => simp
  | @cons since next page pages hpage hnext _ ih =>
    have hroom : limit ≤ (before.filter fun b => since ≤ key b).length := by
      rw [← List.countP_eq_length_filter]
      apply Nat.le_trans hties
      apply List.countP_mono_left
      intro b _ hkey
      simp only [decide_eq_true_eq] at hkey ⊢
      exact hkey ▸ hsince
    have htaken : page = (before.filter fun b => since ≤ key b).take limit := by
      rw [hpage, pageOf, List.filter_append, List.take_append_of_le_length hroom]
    have hsub : ∀ b ∈ page, b ∈ before := by
      intro b hb
      rw [htaken] at hb
      exact List.mem_of_mem_filter (List.mem_of_mem_take hb)
    have hlength : page.length = limit := by
      rw [htaken, List.length_take]
      omega
    obtain ⟨last, hlast⟩ : ∃ last, page.getLast? = some last := by
      cases hlast : page.getLast? with
      | some last => exact ⟨last, rfl⟩
      | none =>
        rw [List.getLast?_eq_none_iff.mp hlast] at hlength
        simp only [List.length_nil] at hlength
        omega
    have hle : next ≤ v := by
      rw [hnext last hlast]
      exact hbefore last (hsub last (List.mem_of_getLast? hlast))
    refine List.forall_mem_cons.mpr ⟨?_, ih hle⟩
    intro ha
    exact hfresh (hsub a ha)

theorem ties_append (items rest : List α) (v : κ) :
    ties key (items ++ rest) v = ties key items v + ties key rest v := List.countP_append

/-- A sorted listing falls apart at every key. -/
theorem exists_split (hsorted : items.Pairwise fun a b => key a ≤ key b) (v : κ) :
    ∃ low high, items = low ++ high ∧ (∀ b ∈ low, key b ≤ v) ∧ ∀ b ∈ high, v < key b := by
  induction items with
  | nil => exact ⟨[], [], by simp⟩
  | cons a items ih =>
    obtain ⟨hfirst, hrest⟩ := List.pairwise_cons.mp hsorted
    by_cases ha : key a ≤ v
    · obtain ⟨low, high, rfl, hlow, hhigh⟩ := ih hrest
      exact ⟨a :: low, high, rfl, List.forall_mem_cons.mpr ⟨ha, hlow⟩, hhigh⟩
    · have hlt : v < key a := not_le.mp ha
      refine ⟨[], a :: items, rfl, by simp, List.forall_mem_cons.mpr ⟨hlt, ?_⟩⟩
      intro b hb
      exact lt_of_lt_of_le hlt (hfirst b hb)

/-- In a sorted listing that is not passable, an element comes after enough of one key. -/
theorem exists_blocked (hsorted : items.Pairwise fun a b => key a ≤ key b)
    (hpass : ¬Passable key items since limit) : ∃ before a after v, items = before ++ a :: after ∧
      since ≤ v ∧ v ≤ key a ∧ (∀ b ∈ before, key b ≤ v) ∧ limit ≤ ties key before v := by
  unfold Passable at hpass
  push Not at hpass
  obtain ⟨v, hsince, hfull, hmore⟩ := hpass
  obtain ⟨low, high, rfl, hlow, hhigh⟩ := exists_split hsorted v
  have hnone : ties key high v = 0 := by
    apply List.countP_eq_zero.mpr
    intro b hb
    have hne := (hhigh b hb).ne'
    simpa using hne
  have hties := @ties_append α κ _ key low high v
  cases high with
  | cons a after => exact ⟨low, a, after, v, rfl, hsince, (hhigh a (List.mem_cons_self ..)).le, hlow,
      by omega⟩
  | nil =>
    have hover : limit < ties key low v := by
      by_contra hle
      obtain ⟨b, hb, hlt⟩ := hmore (by omega)
      rw [List.append_nil] at hb
      exact absurd hlt (not_lt.mpr (hlow b hb))
    obtain ⟨b, hb, hkey⟩ : ∃ b ∈ low, key b = v := by
      have hpos : 0 < low.countP fun b => key b = v := Nat.lt_of_le_of_lt (Nat.zero_le _) hover
      simpa using List.countP_pos_iff.mp hpos
    have hne : low ≠ [] := List.ne_nil_of_mem hb
    obtain ⟨init, a, rfl⟩ : ∃ init a, low = init ++ [a] :=
      ⟨low.dropLast, low.getLast hne, (List.dropLast_append_getLast hne).symm⟩
    rw [List.append_nil] at hsorted
    have hlast : key b ≤ key a := by
      obtain hb | hb := List.mem_append.mp hb
      · exact (List.pairwise_append.mp hsorted).2.2 b hb a (List.mem_singleton.mpr rfl)
      · rw [List.mem_singleton.mp hb]
    have hone : ties key [a] v ≤ 1 := List.countP_le_length
    have hsum := @ties_append α κ _ key init [a] v
    refine ⟨init, a, [], v, by simp, hsince, hkey ▸ hlast, ?_, by omega⟩
    intro b hb
    exact hlow b (List.mem_append_left _ hb)

/-- A walk with as many pages as there are elements shows every one of them if and only if the
listing is passable. -/
theorem Walk.covers_iff (h : Walk (fun since page => page = pageOf key items since limit) key since pages)
    (hsorted : items.Pairwise fun a b => key a ≤ key b) (hnodup : items.Nodup) (hlimit : 0 < limit)
    (hlength : items.length ≤ pages.length) :
    (∀ a ∈ items, since ≤ key a → ∃ page ∈ pages, a ∈ page) ↔ Passable key items since limit := by
  constructor
  · intro hall
    by_contra hpass
    obtain ⟨before, a, after, v, rfl, hv, ha, hbefore, hties⟩ := exists_blocked hsorted hpass
    obtain ⟨page, hpage, hmem⟩ := hall a (by simp) (hv.trans ha)
    exact h.misses hnodup hlimit hv hbefore hties page hpage hmem
  · intro hpass a ha hsince
    have hwalk : Walk (fun since page => IsPage key items since limit page) key since pages :=
      h.mono fun since page hpage => hpage ▸ isPage_pageOf hsorted
    have hremaining : remaining key items since ≤ items.length := List.countP_le_length
    exact hwalk.covers hpass (by omega) ha hsince

end Paging
