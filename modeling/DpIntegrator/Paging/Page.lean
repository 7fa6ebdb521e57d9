import Mathlib.Data.List.Basic
import Mathlib.Order.Lattice
import Mathlib.Tactic.Common

/-!
# Pages of a listing

A listing is asked for its elements at or after a key, oldest first and at most a limit of
them. Elements that share a key may stand in any order, and in another one each time.
-/

namespace Paging

variable {α κ : Type} [LinearOrder κ] {key : α → κ} {items page : List α} {since : κ}
  {limit : ℕ} {a b last : α}

/-- `page` lists, by ascending key, the first `limit` of the `items` at or after `since`. -/
def IsPage (key : α → κ) (items : List α) (since : κ) (limit : ℕ) (page : List α) : Prop :=
  ∃ listing : List α, listing.Perm (items.filter fun a => since ≤ key a) ∧
    listing.Pairwise (fun a b => key a ≤ key b) ∧ page = listing.take limit

/-- The page of a listing that is sorted once and for all. -/
def pageOf (key : α → κ) (items : List α) (since : κ) (limit : ℕ) : List α :=
  (items.filter fun a => since ≤ key a).take limit

theorem isPage_pageOf (hsorted : items.Pairwise fun a b => key a ≤ key b) :
    IsPage key items since limit (pageOf key items since limit) :=
  ⟨_, .refl _, hsorted.filter _, rfl⟩

namespace IsPage

/-- A page with the elements that did not fit in it. -/
theorem split (h : IsPage key items since limit page) : ∃ rest : List α,
    (page ++ rest).Perm (items.filter fun a => since ≤ key a) ∧
      (page ++ rest).Pairwise (fun a b => key a ≤ key b) ∧
      (rest ≠ [] → page.length = limit) := by
  obtain ⟨listing, hperm, hsorted, rfl⟩ := h
  refine ⟨listing.drop limit, ?_, ?_, fun hrest => ?_⟩
  · rwa [List.take_append_drop]
  · rwa [List.take_append_drop]
  · have hlength : limit < listing.length := by
      by_contra hle
      exact hrest (List.drop_eq_nil_of_le (by omega))
    rw [List.length_take]
    omega

theorem of_mem (h : IsPage key items since limit page) (ha : a ∈ page) :
    a ∈ items ∧ since ≤ key a := by
  obtain ⟨rest, hperm, _, _⟩ := h.split
  have hfiltered := hperm.mem_iff.mp (List.mem_append_left rest ha)
  simpa using hfiltered

/-- The last element of a page has its greatest key. -/
theorem le_last (h : IsPage key items since limit page) (hlast : page.getLast? = some last)
    (ha : a ∈ page) : key a ≤ key last := by
  obtain ⟨rest, _, hsorted, _⟩ := h.split
  obtain ⟨init, rfl⟩ := List.getLast?_eq_some_iff.mp hlast
  obtain ha | ha := List.mem_append.mp ha
  · have hinit := (List.pairwise_append.mp (List.pairwise_append.mp hsorted).1).2.2
    exact hinit a ha last (List.mem_singleton.mpr rfl)
  · rw [List.mem_singleton.mp ha]

/-- What is missing on a page comes after it, and the page is full. -/
theorem of_not_mem (h : IsPage key items since limit page) (ha : a ∈ items)
    (hsince : since ≤ key a) (hmissing : a ∉ page) :
    page.length = limit ∧ ∀ b ∈ page, key b ≤ key a := by
  obtain ⟨rest, hperm, hsorted, hfull⟩ := h.split
  have hlisted : a ∈ page ++ rest := by
    apply hperm.mem_iff.mpr
    simpa using ⟨ha, hsince⟩
  have hrest : a ∈ rest := (List.mem_append.mp hlisted).resolve_left hmissing
  constructor
  · exact hfull (List.ne_nil_of_mem hrest)
  · intro b hb
    exact (List.pairwise_append.mp hsorted).2.2 b hb a hrest

/-- Elements before the last one of a page are on the page. -/
theorem mem_of_lt (h : IsPage key items since limit page) (ha : a ∈ items)
    (hsince : since ≤ key a) (hlast : page.getLast? = some last) (hlt : key a < key last) :
    a ∈ page := by
  by_contra hmissing
  have hle := (h.of_not_mem ha hsince hmissing).2 last (List.mem_of_getLast? hlast)
  exact absurd hlt (not_lt.mpr hle)

/-- With room for an element, only an empty listing has an empty page. -/
theorem lt_of_nil (h : IsPage key items since limit []) (hlimit : 0 < limit) (ha : a ∈ items) :
    key a < since := by
  by_contra hle
  have hfull := (h.of_not_mem ha (not_lt.mp hle) List.not_mem_nil).1
  simp only [List.length_nil] at hfull
  omega

/-- The elements that share a key at or after `since` are on the page or after it. -/
theorem countP_eq (h : IsPage key items since limit page) {v : κ} (hv : since ≤ v) :
    ∃ rest : List α, (∀ a ∈ items, since ≤ key a → a ∉ page → a ∈ rest) ∧
      items.countP (fun a => key a = v) =
        page.countP (fun a => key a = v) + rest.countP fun a => key a = v := by
  obtain ⟨rest, hperm, _, _⟩ := h.split
  refine ⟨rest, fun a ha hsince hmissing => ?_, ?_⟩
  · have hlisted : a ∈ page ++ rest := by
      apply hperm.mem_iff.mpr
      simpa using ⟨ha, hsince⟩
    exact (List.mem_append.mp hlisted).resolve_left hmissing
  · rw [← List.countP_append, hperm.countP_eq, List.countP_filter]
    apply List.countP_congr
    intro a _
    constructor
    · intro heq
      have heq' : key a = v := by simpa using heq
      simp [heq', hv]
    · intro hboth
      simp only [Bool.and_eq_true, decide_eq_true_eq] at hboth
      simpa using hboth.1

end IsPage

end Paging
