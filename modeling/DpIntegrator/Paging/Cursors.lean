import Mathlib.Data.List.Nodup
import Mathlib.Data.Nat.Notation
import Mathlib.Tactic.Common

/-!
# Listings that are read by position

Every element of a listing has a cursor of its own. A page shows the elements after a cursor, at
most a limit of them, and tells whether more follow and which cursor they follow. As the cursor is
a position, no element is shown twice or passed over.
-/

namespace Paging

variable {α κ : Type}

structure CursorPage (α κ : Type) where
  items : List α
  hasNextPage : Bool
  endCursor : Option κ

/-- The cursor of the next page, if there is one. -/
def CursorPage.next (page : CursorPage α κ) : Option κ :=
  if page.hasNextPage then page.endCursor else none

/-- The items of at most `n` pages, the first one at `start`. -/
def readPages (page : Option κ → CursorPage α κ) : ℕ → Option κ → List α
  | 0, _ => []
  | n + 1, start => (page start).items ++
    match (page start).next with
    | some cursor => readPages page n (some cursor)
    | none => []

/-- A page of a listing of lists, as a page of their elements. -/
def CursorPage.flatten (page : CursorPage (List α) κ) : CursorPage α κ where
  items := page.items.flatten
  hasNextPage := page.hasNextPage
  endCursor := page.endCursor

theorem readPages_flatten (page : Option κ → CursorPage (List α) κ) (n : ℕ) (start : Option κ) :
    readPages (fun start => (page start).flatten) n start = (readPages page n start).flatten := by
  induction n generalizing start with
  | zero => rfl
  | succ n ih =>
    have hnext : (page start).flatten.next = (page start).next := rfl
    rw [readPages, readPages, hnext, List.flatten_append]
    cases (page start).next with
    | none => rfl
    | some cursor => exact congrArg _ (ih (some cursor))

variable [DecidableEq κ] {cursor : α → κ} {listing before rest : List α} {limit : ℕ}

/-- The elements of a listing after a cursor. -/
def itemsAfter (cursor : α → κ) (listing : List α) : Option κ → List α
  | none => listing
  | some c => (listing.dropWhile fun a => cursor a ≠ c).tail

/-- The page after a cursor. -/
def cursorPage (cursor : α → κ) (listing : List α) (limit : ℕ) (start : Option κ) :
    CursorPage α κ where
  items := (itemsAfter cursor listing start).take limit
  hasNextPage := limit < (itemsAfter cursor listing start).length
  endCursor := ((itemsAfter cursor listing start).take limit).getLast?.map cursor

/-- The cursor to go on with is that of an element. -/
theorem exists_of_endCursor {start : Option κ} {c : κ}
    (h : (cursorPage cursor listing limit start).endCursor = some c) : ∃ a ∈ listing, cursor a = c := by
  obtain ⟨a, hlast, rfl⟩ := Option.map_eq_some_iff.mp h
  have hafter := List.mem_of_mem_take (List.mem_of_getLast? hlast)
  refine ⟨a, ?_, rfl⟩
  cases start with
  | none => exact hafter
  | some c => exact List.dropWhile_subset _ (List.mem_of_mem_tail hafter)

/-- After the cursor of its last element, a listing goes on with the rest. -/
theorem itemsAfter_append (hdistinct : ((before ++ rest).map cursor).Nodup) :
    itemsAfter cursor (before ++ rest) (before.getLast?.map cursor) = rest := by
  cases hlast : before.getLast? with
  | none =>
    have hnil := List.getLast?_eq_none_iff.mp hlast
    rw [hnil]
    rfl
  | some last =>
    obtain ⟨init, rfl⟩ := List.getLast?_eq_some_iff.mp hlast
    have hskipped : ∀ a ∈ init, decide (cursor a ≠ cursor last) = true := by
      intro a ha
      rw [List.append_assoc, List.map_append, List.nodup_append] at hdistinct
      have hne := hdistinct.2.2 (cursor a) (List.mem_map_of_mem ha) (cursor last) (by simp)
      exact decide_eq_true hne
    change ((init ++ [last] ++ rest).dropWhile fun a => decide (cursor a ≠ cursor last)).tail = rest
    rw [List.append_assoc, List.dropWhile_append_of_pos hskipped]
    simp

/-- What is read from a position is the listing from there on, as far as the pages reach.
Induction on the number of pages: each moves its items from the rest to what lies before. -/
theorem readPages_append (hdistinct : ((before ++ rest).map cursor).Nodup) (hlimit : 0 < limit)
    (n : ℕ) : readPages (cursorPage cursor (before ++ rest) limit) n (before.getLast?.map cursor) =
      rest.take (n * limit) := by
  induction n generalizing before rest with
  | zero => simp [readPages]
  | succ n ih =>
    have hafter := itemsAfter_append hdistinct
    have hreach : (n + 1) * limit = limit + n * limit := by rw [Nat.succ_mul, Nat.add_comm]
    rw [readPages, hreach]
    simp only [CursorPage.next, cursorPage, hafter]
    by_cases hmore : limit < rest.length
    · have hsplit : before ++ rest = (before ++ rest.take limit) ++ rest.drop limit := by
        rw [List.append_assoc, List.take_append_drop]
      obtain ⟨last, hlast⟩ : ∃ last, (rest.take limit).getLast? = some last := by
        cases hlast : (rest.take limit).getLast? with
        | some last => exact ⟨last, rfl⟩
        | none =>
          have hlength := congrArg List.length (List.getLast?_eq_none_iff.mp hlast)
          rw [List.length_take, List.length_nil] at hlength
          omega
      have hcursor : (before ++ rest.take limit).getLast?.map cursor = some (cursor last) := by
        rw [List.getLast?_append, hlast]
        rfl
      have hnext := ih (hsplit ▸ hdistinct)
      rw [← hsplit, hcursor] at hnext
      simp only [hmore, decide_true, if_true, hlast, Option.map_some]
      change _ ++ readPages (cursorPage cursor (before ++ rest) limit) n (some (cursor last)) = _
      rw [hnext, List.take_add]
    · have hlength : rest.length ≤ limit := by omega
      simp only [hmore, decide_false, Bool.false_eq_true, if_false, List.append_nil]
      rw [List.take_of_length_le hlength, List.take_of_length_le (by omega)]

/-- As many elements are read as the pages hold. -/
theorem readPages_eq (hdistinct : (listing.map cursor).Nodup) (hlimit : 0 < limit) (n : ℕ) :
    readPages (cursorPage cursor listing limit) n none = listing.take (n * limit) := by
  have hall : (([] ++ listing).map cursor).Nodup := hdistinct
  exact readPages_append hall hlimit n

/-! ## Listings that come in parts -/

variable [Inhabited κ]

/-- The cursor of a part is that of its last element. -/
def partCursor (cursor : α → κ) (part : List α) : κ := (part.getLast?.map cursor).getD default

omit [DecidableEq κ] in
theorem exists_partCursor (cursor : α → κ) {part : List α} (h : part ≠ []) :
    ∃ a ∈ part, partCursor cursor part = cursor a := by
  refine ⟨part.getLast h, List.getLast_mem h, ?_⟩
  rw [partCursor, List.getLast?_eq_some_getLast h, Option.map_some, Option.getD_some]

omit [DecidableEq κ] in
/-- Parts that are filled have cursors of their own. -/
theorem partCursors_nodup {parts : List (List α)} (hfilled : ∀ part ∈ parts, part ≠ [])
    (hdistinct : (parts.flatten.map cursor).Nodup) : (parts.map (partCursor cursor)).Nodup := by
  induction parts with
  | nil => exact List.nodup_nil
  | cons part parts ih =>
    obtain ⟨hpart, hparts⟩ := List.forall_mem_cons.mp hfilled
    rw [List.flatten_cons, List.map_append, List.nodup_append] at hdistinct
    obtain ⟨_, hrest, hapart⟩ := hdistinct
    rw [List.map_cons, List.nodup_cons]
    refine ⟨fun hmem => ?_, ih hparts hrest⟩
    obtain ⟨part', hpart', heq⟩ := List.mem_map.mp hmem
    obtain ⟨a, ha, hcursor⟩ := exists_partCursor cursor hpart
    obtain ⟨b, hb, hcursor'⟩ := exists_partCursor cursor (hparts part' hpart')
    have hsame : cursor a = cursor b := hcursor.symm.trans (heq.symm.trans hcursor')
    have hlater : b ∈ parts.flatten := List.mem_flatten.mpr ⟨part', hpart', hb⟩
    exact hapart (cursor a) (List.mem_map_of_mem ha) (cursor b) (List.mem_map_of_mem hlater) hsame

/-- The page after a cursor, where each page is a part of the listing. -/
def partPage (cursor : α → κ) (parts : List (List α)) (start : Option κ) : CursorPage α κ :=
  (cursorPage (partCursor cursor) parts 1 start).flatten

/-- As many parts are read as there are pages. -/
theorem readPages_parts {parts : List (List α)} (hfilled : ∀ part ∈ parts, part ≠ [])
    (hdistinct : (parts.flatten.map cursor).Nodup) (n : ℕ) :
    readPages (partPage cursor parts) n none = (parts.take n).flatten := by
  have hread := readPages_eq (partCursors_nodup hfilled hdistinct) (by decide : 0 < 1) n
  rw [Nat.mul_one] at hread
  rw [← hread]
  exact readPages_flatten _ n none

theorem exists_of_endCursor_part {parts : List (List α)} (hfilled : ∀ part ∈ parts, part ≠ [])
    {start : Option κ} {c : κ} (h : (partPage cursor parts start).endCursor = some c) :
    ∃ a ∈ parts.flatten, cursor a = c := by
  obtain ⟨part, hpart, rfl⟩ := exists_of_endCursor h
  obtain ⟨a, ha, hcursor⟩ := exists_partCursor cursor (hfilled part hpart)
  exact ⟨a, List.mem_flatten.mpr ⟨part, hpart, ha⟩, hcursor.symm⟩

end Paging
