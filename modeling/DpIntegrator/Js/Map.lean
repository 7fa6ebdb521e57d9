import Mathlib.Data.List.Nodup

/-!
# Maps

A `Map` keeps its entries in the order in which their keys were first set; setting a key
that is there changes its value in place.
-/

namespace Js

variable {κ β : Type}

/-- The entries of a map, each key once. -/
structure Map (κ β : Type) where
  entries : List (κ × β)
  distinct : (entries.map Prod.fst).Nodup

/-- Set a key in a list of entries. -/
def setEntry [DecidableEq κ] (key : κ) (b : β) : List (κ × β) → List (κ × β)
  | [] => [(key, b)]
  | entry :: rest => if entry.1 = key then (key, b) :: rest else entry :: setEntry key b rest

theorem mem_setEntry [DecidableEq κ] {key : κ} {b : β} {entries : List (κ × β)}
    (h : (entries.map Prod.fst).Nodup) {entry : κ × β} :
    entry ∈ setEntry key b entries ↔ entry = (key, b) ∨ entry.1 ≠ key ∧ entry ∈ entries := by
  induction entries with
  | nil => simp [setEntry]
  | cons head rest ih =>
    rw [List.map_cons, List.nodup_cons] at h
    unfold setEntry
    by_cases hhead : head.1 = key
    · have hrest : entry ∈ rest → entry.1 ≠ key := by
        rintro hmem rfl
        exact h.1 (hhead ▸ List.mem_map_of_mem hmem)
      rw [if_pos hhead, List.mem_cons, List.mem_cons]
      constructor
      · rintro (heq | hmem)
        · exact .inl heq
        · exact .inr ⟨hrest hmem, .inr hmem⟩
      · rintro (heq | ⟨hne, rfl | hmem⟩)
        · exact .inl heq
        · exact absurd hhead hne
        · exact .inr hmem
    · rw [if_neg hhead, List.mem_cons, List.mem_cons, ih h.2]
      constructor
      · rintro (rfl | heq | ⟨hne, hmem⟩)
        · exact .inr ⟨hhead, .inl rfl⟩
        · exact .inl heq
        · exact .inr ⟨hne, .inr hmem⟩
      · rintro (heq | ⟨hne, rfl | hmem⟩)
        · exact .inr (.inl heq)
        · exact .inl rfl
        · exact .inr (.inr ⟨hne, hmem⟩)

theorem setEntry_distinct [DecidableEq κ] {key : κ} {b : β} {entries : List (κ × β)}
    (h : (entries.map Prod.fst).Nodup) : ((setEntry key b entries).map Prod.fst).Nodup := by
  induction entries with
  | nil => simp [setEntry]
  | cons head rest ih =>
    rw [List.map_cons, List.nodup_cons] at h
    unfold setEntry
    by_cases hhead : head.1 = key
    · subst hhead
      rw [if_pos rfl, List.map_cons, List.nodup_cons]
      exact h
    · rw [if_neg hhead, List.map_cons, List.nodup_cons]
      refine ⟨?_, ih h.2⟩
      intro hmem
      obtain ⟨entry, hentry, heq⟩ := List.mem_map.mp hmem
      obtain rfl | ⟨_, hrest⟩ := (mem_setEntry h.2).mp hentry
      · exact hhead heq.symm
      · exact h.1 (heq ▸ List.mem_map_of_mem hrest)

namespace Map

variable [DecidableEq κ]

def empty : Map κ β where
  entries := []
  distinct := List.nodup_nil

def get (m : Map κ β) (key : κ) : Option β :=
  (m.entries.find? fun entry => entry.1 = key).map Prod.snd

def set (m : Map κ β) (key : κ) (b : β) : Map κ β where
  entries := setEntry key b m.entries
  distinct := setEntry_distinct m.distinct

/-- The values, in the order of the keys. -/
def values (m : Map κ β) : List β := m.entries.map Prod.snd

theorem get_empty (key : κ) : (empty : Map κ β).get key = none := rfl

theorem get_eq_some {m : Map κ β} {key : κ} {b : β} :
    m.get key = some b ↔ (key, b) ∈ m.entries := by
  unfold get
  rw [Option.map_eq_some_iff]
  constructor
  · rintro ⟨entry, hfind, rfl⟩
    have hkey : entry.1 = key := by simpa using List.find?_some hfind
    exact hkey ▸ List.mem_of_find?_eq_some hfind
  · intro hmem
    obtain ⟨entry, hfind⟩ : ∃ entry, m.entries.find? (fun entry => entry.1 = key) = some entry := by
      rw [← Option.isSome_iff_exists, List.find?_isSome]
      exact ⟨(key, b), hmem, by simp⟩
    have hkey : entry.1 = (key, b).1 := by simpa using List.find?_some hfind
    have heq : entry = (key, b) :=
      List.inj_on_of_nodup_map m.distinct (List.mem_of_find?_eq_some hfind) hmem hkey
    exact ⟨entry, hfind, by rw [heq]⟩

theorem get_set_self (m : Map κ β) (key : κ) (b : β) : (m.set key b).get key = some b := by
  rw [get_eq_some]
  exact (mem_setEntry m.distinct).mpr (.inl rfl)

theorem get_set_of_ne {key key' : κ} (h : key' ≠ key) (m : Map κ β) (b : β) :
    (m.set key b).get key' = m.get key' := by
  ext c
  rw [get_eq_some, get_eq_some]
  refine (mem_setEntry m.distinct).trans ?_
  simp [h]

theorem get_set (m : Map κ β) (key : κ) (b : β) :
    (m.set key b).get = Function.update m.get key (some b) := by
  funext key'
  by_cases h : key' = key
  · rw [h, get_set_self, Function.update_self]
  · rw [get_set_of_ne h, Function.update_of_ne h]

/-- Looking up a key among the entries, each value changed by `f`. -/
theorem lookup_map [BEq κ] [LawfulBEq κ] {γ : Type} (m : Map κ β) (f : β → γ) (key : κ) :
    (m.entries.map fun entry => (entry.1, f entry.2)).lookup key = (m.get key).map f := by
  unfold get
  induction m.entries with
  | nil => rfl
  | cons entry rest ih =>
    by_cases hkey : entry.1 = key
    · simp [hkey]
    · have hbeq : (key == entry.1) = false := by simpa using Ne.symm hkey
      simpa [List.lookup_cons, hbeq, hkey] using ih

theorem mem_values {m : Map κ β} {b : β} : b ∈ m.values ↔ ∃ key, m.get key = some b := by
  unfold values
  simp [get_eq_some]

end Map

end Js
