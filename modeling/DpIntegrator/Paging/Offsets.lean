import Mathlib.Data.List.Chain
import Mathlib.Data.List.Nodup
import Mathlib.Data.List.Perm.Subperm
import Mathlib.Order.Basic
import Mathlib.Tactic.Ring

/-!
# Pages by position

A walk asks for one page after another, each from the position at which the page before ended.
Every request sorts anew, the greatest key first, so that elements of one key may change places
from request to request, and the elements themselves may change in between.
-/

namespace Paging

variable {α κ : Type}

/-- The page of a listing from a position. -/
def offsetPage (listing : List α) (offset limit : ℕ) : List α := (listing.drop offset).take limit

/-- The position after a page, unless the listing ends there. -/
def nextOffset (listing : List α) (offset limit : ℕ) : Option ℕ :=
  if offset + (offsetPage listing offset limit).length < listing.length then
    some (offset + (offsetPage listing offset limit).length)
  else none

/-- `pages` were read one after another from a position to the end, each from its own listing. -/
inductive OffsetWalk (limit : ℕ) : ℕ → List (List α) → List (List α) → Prop
  | last {listing : List α} {offset : ℕ} (h : nextOffset listing offset limit = none) :
      OffsetWalk limit offset [listing] [offsetPage listing offset limit]
  | more {listing : List α} {listings pages : List (List α)} {offset next : ℕ}
      (h : nextOffset listing offset limit = some next)
      (hrest : OffsetWalk limit next listings pages) :
      OffsetWalk limit offset (listing :: listings) (offsetPage listing offset limit :: pages)

section Offset

variable {listing : List α} {listings pages : List (List α)} {offset limit : ℕ}

theorem nextOffset_eq (hlimit : 0 < limit) : nextOffset listing offset limit =
    if offset + limit < listing.length then some (offset + limit) else none := by
  unfold nextOffset offsetPage
  rw [List.length_take, List.length_drop]
  by_cases h : offset + limit < listing.length
  · have hfull : min limit (listing.length - offset) = limit := by omega
    rw [hfull]
  · rw [if_neg (by omega), if_neg h]

/-! ## What a walk lists while the elements change -/

theorem mem_offsetPage [DecidableEq α] {a : α} (ha : a ∈ listing)
    (hfirst : offset ≤ listing.idxOf a) (hlast : listing.idxOf a < offset + limit) :
    a ∈ offsetPage listing offset limit := by
  have hlength := List.idxOf_lt_length_of_mem ha
  refine List.mem_of_getElem? (i := listing.idxOf a - offset) ?_
  unfold offsetPage
  rw [List.getElem?_take_of_lt (by omega), List.getElem?_drop, Nat.add_sub_cancel' hfirst,
    List.getElem?_eq_getElem hlength, List.getElem_idxOf]

/-- An element that never moves to the front is listed. -/
theorem OffsetWalk.exists_mem [DecidableEq α] {a : α} (h : OffsetWalk limit offset listings pages)
    (hlimit : 0 < limit) (hmem : ∀ listing ∈ listings, a ∈ listing)
    (hstart : ∀ listing ∈ listings.head?, offset ≤ listing.idxOf a)
    (hstays : listings.IsChain fun l l' => l.idxOf a ≤ l'.idxOf a) : ∃ page ∈ pages, a ∈ page := by
  induction h with
  | @last listing offset hnext =>
    rw [nextOffset_eq hlimit] at hnext
    have hend : ¬offset + limit < listing.length := by simpa using hnext
    have ha := hmem listing List.mem_cons_self
    have hlength := List.idxOf_lt_length_of_mem ha
    have hpage := mem_offsetPage ha (hstart listing rfl) (by omega : _ < offset + limit)
    exact ⟨_, List.mem_cons_self, hpage⟩
  | @more listing listings pages offset next hnext hrest ih =>
    have ha := hmem listing List.mem_cons_self
    by_cases hplace : listing.idxOf a < offset + limit
    · exact ⟨_, List.mem_cons_self, mem_offsetPage ha (hstart listing rfl) hplace⟩
    · rw [nextOffset_eq hlimit] at hnext
      obtain ⟨_, hnext⟩ := Option.ite_none_right_eq_some.mp hnext
      have hstart' : ∀ l ∈ listings.head?, next ≤ l.idxOf a := by
        intro l hl
        obtain ⟨rest, rfl⟩ : ∃ rest, listings = l :: rest := by
          cases listings with
          | nil => cases hl
          | cons l' rest => exact ⟨rest, by rw [Option.some.inj hl]⟩
        have hle := (List.isChain_cons_cons.mp hstays).1
        have heq : offset + limit = next := by simpa using hnext
        omega
      obtain ⟨page, hpage, hlisted⟩ := ih (fun l hl => hmem l (List.mem_cons_of_mem _ hl)) hstart'
        hstays.tail
      exact ⟨page, List.mem_cons_of_mem _ hpage, hlisted⟩

end Offset

/-! ## Listings by falling keys -/

section Sorted

variable [LinearOrder κ] {key : α → κ} {l l' items : List α} {listings pages : List (List α)}
  {limit : ℕ}

/-- The place of an element whose key no other has: the number of elements ahead of it. -/
theorem idxOf_eq_countP [DecidableEq α] {a : α} (hsorted : l.Pairwise fun a b => key b ≤ key a)
    (ha : a ∈ l) (huntied : ∀ b ∈ l, key b = key a → b = a) :
    l.idxOf a = l.countP fun b => key a < key b := by
  induction l with
  | nil => cases ha
  | cons b l ih =>
    obtain ⟨hhead, htail⟩ := List.pairwise_cons.mp hsorted
    by_cases heq : b = a
    · subst heq
      have hnone : (b :: l).countP (fun c => key b < key c) = 0 := by
        refine List.countP_eq_zero.mpr fun c hc => ?_
        rcases List.mem_cons.mp hc with rfl | hc
        · simp
        · simpa using hhead c hc
      rw [hnone, List.idxOf_cons_self]
    · have hmem : a ∈ l := (List.mem_cons.mp ha).resolve_left (Ne.symm heq)
      have hahead : key a < key b := by
        refine lt_of_le_of_ne (hhead a hmem) fun hkey => ?_
        exact heq (huntied b List.mem_cons_self hkey.symm)
      have hrest := ih htail hmem fun c hc => huntied c (List.mem_cons_of_mem b hc)
      rw [List.idxOf_cons_ne l heq, List.countP_cons_of_pos (by simpa using hahead), hrest]

/-- A listing of the items, by falling keys. -/
structure Lists (key : α → κ) (items l : List α) : Prop where
  perm : l.Perm items
  sorted : l.Pairwise fun a b => key b ≤ key a

/-- No two elements of one key are divided by the position. -/
def Divides (key : α → κ) (l : List α) (n : ℕ) : Prop :=
  ∀ a ∈ l.take n, ∀ b ∈ l.drop n, key b < key a

/-- What holds of all elements from some key on holds of the front of a listing. -/
theorem filter_eq_take {p : α → Bool} (hsorted : l.Pairwise fun a b => key b ≤ key a)
    (hup : ∀ a b, key b ≤ key a → p b = true → p a = true) : l.filter p = l.take (l.countP p) := by
  induction l with
  | nil => rfl
  | cons a l ih =>
    obtain ⟨hhead, htail⟩ := List.pairwise_cons.mp hsorted
    by_cases ha : p a = true
    · rw [List.filter_cons_of_pos ha, List.countP_cons_of_pos ha, List.take_succ_cons, ih htail]
    · have hnone : ∀ b ∈ l, ¬p b = true := fun b hb hpb => ha (hup a b (hhead b hb) hpb)
      rw [List.filter_cons_of_neg ha, List.countP_cons_of_neg ha, List.countP_eq_zero.mpr hnone,
        List.filter_eq_nil_iff.mpr hnone]
      rfl

/-- Where no key is divided, the front of every listing has the same elements. -/
theorem take_perm_of_divides (h : Lists key items l) (h' : Lists key items l') {n : ℕ}
    (hdivides : Divides key l n) : (l'.take n).Perm (l.take n) := by
  have hperm : l'.Perm l := h'.perm.trans h.perm.symm
  rcases Nat.lt_or_ge n l.length with hn | hn
  · -- The front has the elements that come before all others.
    let p (a : α) : Bool := (l.drop n).all fun b => key b < key a
    have hp (a : α) : p a = true ↔ ∀ b ∈ l.drop n, key b < key a := by simp [p]
    have hup (a b : α) (hle : key b ≤ key a) (hpb : p b = true) : p a = true :=
      (hp a).mpr fun c hc => lt_of_lt_of_le ((hp b).mp hpb c hc) hle
    have hcount : l.countP p = n := by
      have htake : (l.take n).countP p = (l.take n).length :=
        List.countP_eq_length.mpr fun a ha => (hp a).mpr fun b hb => hdivides a ha b hb
      have hdrop : (l.drop n).countP p = 0 :=
        List.countP_eq_zero.mpr fun a ha hpa => lt_irrefl _ ((hp a).mp hpa a ha)
      rw [← List.take_append_drop n l, List.countP_append, htake, hdrop, List.length_take]
      omega
    have hcount' : l'.countP p = n := (hperm.countP_eq p).trans hcount
    have hfront := filter_eq_take h.sorted hup
    have hfront' := filter_eq_take h'.sorted hup
    rw [hcount] at hfront
    rw [hcount'] at hfront'
    rw [← hfront, ← hfront']
    exact hperm.filter p
  · rw [List.take_of_length_le hn, List.take_of_length_le (by rwa [hperm.length_eq])]
    exact hperm

theorem drop_perm_of_divides (h : Lists key items l) (h' : Lists key items l') {n : ℕ}
    (hdivides : Divides key l n) : (l'.drop n).Perm (l.drop n) := by
  have hperm : (l'.take n ++ l'.drop n).Perm (l.take n ++ l.drop n) := by
    rw [List.take_append_drop, List.take_append_drop]
    exact h'.perm.trans h.perm.symm
  have hfront := (take_perm_of_divides h h' hdivides).append_right (l'.drop n)
  exact (List.perm_append_left_iff _).mp (hfront.symm.trans hperm)

/-- Where no page divides a key, a walk lists what remains. -/
theorem OffsetWalk.flatten_perm (hlimit : 0 < limit) (h : Lists key items l)
    (hdivides : ∀ k, Divides key l (k * limit)) {offset : ℕ}
    (hwalk : OffsetWalk limit offset listings pages)
    (hlistings : ∀ l' ∈ listings, Lists key items l') {k : ℕ} (hoffset : offset = k * limit) :
    pages.flatten.Perm (l.drop offset) := by
  induction hwalk generalizing k with
  | @last listing offset hnext =>
    have hlists := hlistings listing List.mem_cons_self
    rw [nextOffset_eq hlimit] at hnext
    have hend : ¬offset + limit < listing.length := by simpa using hnext
    have hpage : offsetPage listing offset limit = listing.drop offset := by
      unfold offsetPage
      exact List.take_of_length_le (by rw [List.length_drop]; omega)
    rw [List.flatten_cons, List.flatten_nil, List.append_nil, hpage]
    exact drop_perm_of_divides h hlists (hoffset ▸ hdivides k)
  | @more listing listings pages offset next hnext hrest ih =>
    have hlists := hlistings listing List.mem_cons_self
    rw [nextOffset_eq hlimit] at hnext
    obtain ⟨_, hnext⟩ := Option.ite_none_right_eq_some.mp hnext
    obtain rfl : offset + limit = next := by simpa using hnext
    have hstep : offset + limit = (k + 1) * limit := by rw [hoffset, Nat.succ_mul]
    have hlater := ih (fun l' hl' => hlistings l' (List.mem_cons_of_mem _ hl')) hstep
    have hdrop := drop_perm_of_divides h hlists (hstep ▸ hdivides (k + 1))
    have hpages := (hlater.trans hdrop.symm).append_left (offsetPage listing offset limit)
    have hsplit : offsetPage listing offset limit ++ listing.drop (offset + limit) =
        listing.drop offset := by
      unfold offsetPage
      rw [← List.drop_drop, List.take_append_drop]
    rw [hsplit] at hpages
    rw [List.flatten_cons]
    exact hpages.trans (drop_perm_of_divides h hlists (hoffset ▸ hdivides k))

/-- A walk over one listing to its end. -/
theorem exists_walk (hlimit : 0 < limit) (l : List α) (offset : ℕ) : ∃ listings pages,
    OffsetWalk limit offset listings pages ∧ (∀ l' ∈ listings, l' = l) ∧
      pages.flatten = l.drop offset := by
  by_cases h : offset + limit < l.length
  · obtain ⟨listings, pages, hwalk, hsame, hflatten⟩ := exists_walk hlimit l (offset + limit)
    have hnext : nextOffset l offset limit = some (offset + limit) := by
      rw [nextOffset_eq hlimit, if_pos h]
    refine ⟨l :: listings, _ :: pages, .more hnext hwalk, ?_, ?_⟩
    · exact List.forall_mem_cons.mpr ⟨rfl, hsame⟩
    · rw [List.flatten_cons, hflatten, offsetPage, ← List.drop_drop, List.take_append_drop]
  · have hnext : nextOffset l offset limit = none := by rw [nextOffset_eq hlimit, if_neg h]
    refine ⟨[l], _, .last hnext, fun l' hl' => List.mem_singleton.mp hl', ?_⟩
    rw [List.flatten_cons, List.flatten_nil, List.append_nil, offsetPage]
    exact List.take_of_length_le (by rw [List.length_drop]; omega)
termination_by l.length - offset

/-- Pages of one listing in front of a walk. -/
theorem OffsetWalk.after_pages (hlimit : 0 < limit) {k offset : ℕ}
    (hlength : offset + k * limit < l.length)
    (hwalk : OffsetWalk limit (offset + k * limit) listings pages) : ∃ listings' pages',
    OffsetWalk limit offset listings' pages' ∧ (∀ l' ∈ listings', l' = l ∨ l' ∈ listings) ∧
      pages'.flatten = (l.drop offset).take (k * limit) ++ pages.flatten := by
  induction k generalizing offset with
  | zero =>
    refine ⟨listings, pages, by simpa using hwalk, fun l' hl' => .inr hl', by simp⟩
  | succ k ih =>
    have hstep : offset + (k + 1) * limit = offset + limit + k * limit := by ring
    rw [hstep] at hlength hwalk
    obtain ⟨listings', pages', hwalk', hlistings, hflatten⟩ := ih hlength hwalk
    have hnext : nextOffset l offset limit = some (offset + limit) := by
      rw [nextOffset_eq hlimit, if_pos (by omega)]
    refine ⟨l :: listings', _ :: pages', .more hnext hwalk', ?_, ?_⟩
    · exact List.forall_mem_cons.mpr ⟨.inl rfl, hlistings⟩
    · have hpages : (k + 1) * limit = limit + k * limit := by ring
      rw [List.flatten_cons, hflatten, hpages, List.take_add, List.drop_drop, offsetPage,
        List.append_assoc]

/-- Two elements of one key in either place. -/
theorem exists_swapped (h : Lists key items l) {n : ℕ} (hdivides : ¬Divides key l n) :
    ∃ a l', Lists key items l' ∧ a ∈ l.take n ∧ a ∈ l'.drop n := by
  unfold Divides at hdivides
  push Not at hdivides
  obtain ⟨a, ha, b, hb, hle⟩ := hdivides
  have hge : key b ≤ key a := by
    have hsorted := h.sorted
    rw [← List.take_append_drop n l] at hsorted
    exact (List.pairwise_append.mp hsorted).2.2 a ha b hb
  have hkey : key a = key b := le_antisymm hle hge
  obtain ⟨before, between, htake⟩ := List.append_of_mem ha
  obtain ⟨between', after, hdrop⟩ := List.append_of_mem hb
  have hl : l = before ++ a :: between ++ (between' ++ b :: after) := by
    rw [← htake, ← hdrop, List.take_append_drop]
  have hn : (before ++ a :: between).length = n := by
    have hlength := congrArg List.length htake
    have hpos := List.length_pos_of_mem hb
    rw [List.length_take] at hlength
    rw [List.length_drop] at hpos
    omega
  refine ⟨a, before ++ b :: between ++ (between' ++ a :: after), ⟨?_, ?_⟩, ha, ?_⟩
  · refine List.Perm.trans ?_ h.perm
    rw [hl]
    simp only [List.append_assoc, List.cons_append]
    refine List.Perm.append_left before ?_
    have hleft : (b :: (between ++ (between' ++ a :: after))).Perm
        (b :: a :: (between ++ (between' ++ after))) := by
      rw [← List.append_assoc, ← List.append_assoc]
      exact List.perm_middle.cons b
    have hright : (a :: (between ++ (between' ++ b :: after))).Perm
        (a :: b :: (between ++ (between' ++ after))) := by
      rw [← List.append_assoc, ← List.append_assoc]
      exact List.perm_middle.cons a
    exact hleft.trans ((List.Perm.swap a b _).trans hright.symm)
  · have hkeys : (before ++ b :: between ++ (between' ++ a :: after)).map key = l.map key := by
      rw [hl]
      simp [hkey]
    have hsorted : (l.map key).Pairwise fun x y => y ≤ x := List.pairwise_map.mpr h.sorted
    rw [← hkeys] at hsorted
    exact List.pairwise_map.mp hsorted
  · have hsame : (before ++ b :: between).length = n := by simpa using hn
    rw [← hsame, List.drop_left]
    simp

/-- Walks list every element once, however each request orders the elements of one key, if and
only if no page divides the elements of a key. -/
theorem flatten_perm_iff (hlimit : 0 < limit) (hnodup : items.Nodup) (h : Lists key items l) :
    (∀ listings pages, (∀ l' ∈ listings, Lists key items l') →
      OffsetWalk limit 0 listings pages → pages.flatten.Perm items) ↔
      ∀ k, Divides key l (k * limit) := by
  constructor
  · intro hall k
    by_contra hdivides
    obtain ⟨a, l', hlists, hfront, hback⟩ := exists_swapped h hdivides
    have hlength : 0 + k * limit < l.length := by
      rw [(h.perm.trans hlists.perm.symm).length_eq]
      have hpos := List.length_pos_of_mem hback
      rw [List.length_drop] at hpos
      omega
    obtain ⟨listings, pages, hwalk, hsame, hflatten⟩ := exists_walk hlimit l' (0 + k * limit)
    obtain ⟨listings', pages', hwalk', hlistings, hflatten'⟩ := hwalk.after_pages hlimit hlength
    have hperm := hall listings' pages' (fun l₁ hl₁ => ?_) hwalk'
    · have htwice := (hperm.nodup_iff).mpr hnodup
      rw [hflatten', hflatten, Nat.zero_add, List.drop_zero] at htwice
      exact (List.nodup_append.mp htwice).2.2 a hfront a hback rfl
    · rcases hlistings l₁ hl₁ with rfl | hmem
      · exact h
      · rw [hsame l₁ hmem]
        exact hlists
  · intro hdivides listings pages hlistings hwalk
    have hperm := hwalk.flatten_perm hlimit h hdivides hlistings (Nat.zero_mul limit).symm
    rw [List.drop_zero] at hperm
    exact hperm.trans h.perm

end Sorted

end Paging
