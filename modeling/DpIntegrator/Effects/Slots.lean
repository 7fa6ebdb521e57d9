import Mathlib.Data.Set.Card

/-!
# Slots held by clients

Clients hold slots of resources, each under a name, and a register lists the names under
which the slots of each resource are held. As long as no two clients use one name, taking
and giving back slots keeps the register equal to what the clients hold, and the size of
its entry for a resource is the number of clients that hold a slot of it.
-/

namespace Effects

variable {ι κ η : Type}

/-- What a client does to the slot it holds and to the register: it leaves both alone, takes
a slot, or gives its slot back. -/
inductive SlotChange [DecidableEq κ] [DecidableEq η] : Option (κ × η) → (κ → Finset η) → Option (κ × η) → (κ → Finset η) → Prop
  | keep (held : Option (κ × η)) (register : κ → Finset η) :
      SlotChange held register held register
  | take (k : κ) (name : η) (register : κ → Finset η) :
      SlotChange none register (some (k, name))
        (Function.update register k (insert name (register k)))
  | free (k : κ) (name : η) (register : κ → Finset η) :
      SlotChange (some (k, name)) register none
        (Function.update register k ((register k).erase name))

/-- The register lists the slots that the clients hold, and the names differ. -/
structure SlotsTracked (held : ι → Option (κ × η)) (register : κ → Finset η) : Prop where
  mem_iff : ∀ k name, name ∈ register k ↔ ∃ i, held i = some (k, name)
  distinct : ∀ i j k k' name, held i = some (k, name) → held j = some (k', name) → i = j

variable {held : ι → Option (κ × η)} {register register' : κ → Finset η} {i : ι}
  {slot : Option (κ × η)}

theorem slotsTracked_empty : SlotsTracked (fun _ : ι => (none : Option (κ × η))) fun _ => ∅ where
  mem_iff := by simp
  distinct i j k k' name hi := by cases hi

/-- The size of the register's entry is the number of clients that hold a slot. -/
theorem SlotsTracked.encard_holders (h : SlotsTracked held register) (k : κ) :
    {i | ∃ name, held i = some (k, name)}.encard = ((register k).card : ℕ∞) := by
  let name : ι → Option η := fun i => (held i).map Prod.snd
  have hname {i : ι} {x : η} (hi : held i = some (k, x)) : name i = some x := by
    simp only [name, hi, Option.map_some]
  have hinj : Set.InjOn name {i | ∃ x, held i = some (k, x)} := by
    rintro i ⟨x, hi⟩ j ⟨y, hj⟩ heq
    rw [hname hi, hname hj] at heq
    obtain rfl := Option.some.inj heq
    exact h.distinct _ _ _ _ _ hi hj
  have himage : name '' {i | ∃ x, held i = some (k, x)} = some '' (register k : Set η) := by
    ext o
    constructor
    · rintro ⟨i, ⟨x, hi⟩, rfl⟩
      exact ⟨x, (h.mem_iff k x).mpr ⟨i, hi⟩, (hname hi).symm⟩
    · rintro ⟨x, hx, rfl⟩
      obtain ⟨i, hi⟩ := (h.mem_iff k x).mp hx
      exact ⟨i, ⟨x, hi⟩, hname hi⟩
  rw [← hinj.encard_image, himage, (Option.some_injective η).encard_image,
    Set.encard_coe_eq_coe_finsetCard]

section Changes

variable [DecidableEq ι] [DecidableEq κ] [DecidableEq η]

theorem mem_update_insert {k k' : κ} {name name' : η} :
    name' ∈ Function.update register k (insert name (register k)) k' ↔
      (k = k' ∧ name = name') ∨ name' ∈ register k' := by
  by_cases hk : k' = k
  · subst hk
    rw [Function.update_self, Finset.mem_insert]
    simp [eq_comm]
  · rw [Function.update_of_ne hk]
    simp [Ne.symm hk]

theorem mem_update_erase {k k' : κ} {name name' : η} :
    name' ∈ Function.update register k ((register k).erase name) k' ↔
      ¬(k = k' ∧ name = name') ∧ name' ∈ register k' := by
  by_cases hk : k' = k
  · subst hk
    rw [Function.update_self, Finset.mem_erase]
    simp [eq_comm]
  · rw [Function.update_of_ne hk]
    simp [Ne.symm hk]

/-- A client that changes its slot, under a name that no other client uses, keeps the
register right. -/
theorem SlotsTracked.change (h : SlotsTracked held register)
    (hchange : SlotChange (held i) register slot register')
    (hfresh : ∀ k name, slot = some (k, name) → ∀ j k', held j = some (k', name) → j = i) :
    SlotsTracked (Function.update held i slot) register' := by
  have hself : Function.update held i slot i = slot := Function.update_self ..
  have hother {j : ι} (hj : j ≠ i) : Function.update held i slot j = held j :=
    Function.update_of_ne hj ..
  refine ⟨?_, ?_⟩
  · intro k' name'
    have hexists : (∃ j, Function.update held i slot j = some (k', name')) ↔
        slot = some (k', name') ∨ ∃ j, j ≠ i ∧ held j = some (k', name') := by
      constructor
      · rintro ⟨j, hj⟩
        by_cases hji : j = i
        · rw [hji, hself] at hj
          exact .inl hj
        · rw [hother hji] at hj
          exact .inr ⟨j, hji, hj⟩
      · rintro (hslot | ⟨j, hji, hj⟩)
        · exact ⟨i, by rw [hself, hslot]⟩
        · exact ⟨j, by rw [hother hji, hj]⟩
    rw [hexists]
    generalize hi : held i = slot₀ at hchange
    cases hchange with
    | keep =>
      rw [h.mem_iff]
      constructor
      · rintro ⟨j, hj⟩
        by_cases hji : j = i
        · exact .inl (by rw [← hi, ← hji, hj])
        · exact .inr ⟨j, hji, hj⟩
      · rintro (hslot | ⟨j, _, hj⟩)
        · exact ⟨i, by rw [hi, hslot]⟩
        · exact ⟨j, hj⟩
    | take k name =>
      rw [mem_update_insert, h.mem_iff]
      constructor
      · rintro (⟨rfl, rfl⟩ | ⟨j, hj⟩)
        · exact .inl rfl
        · refine .inr ⟨j, ?_, hj⟩
          rintro rfl
          rw [hi] at hj
          cases hj
      · rintro (hslot | ⟨j, _, hj⟩)
        · cases hslot
          exact .inl ⟨rfl, rfl⟩
        · exact .inr ⟨j, hj⟩
    | free k name =>
      rw [mem_update_erase, h.mem_iff]
      constructor
      · rintro ⟨hne, j, hj⟩
        refine .inr ⟨j, ?_, hj⟩
        rintro rfl
        rw [hi] at hj
        cases hj
        exact hne ⟨rfl, rfl⟩
      · rintro (hslot | ⟨j, hji, hj⟩)
        · cases hslot
        · refine ⟨?_, j, hj⟩
          rintro ⟨rfl, rfl⟩
          exact hji (h.distinct _ _ _ _ _ hj hi)
  · have hwith {k k' : κ} {name : η} {j : ι} (hslot : slot = some (k, name))
        (hj : Function.update held i slot j = some (k', name)) : j = i := by
      by_cases hji : j = i
      · exact hji
      · rw [hother hji] at hj
        exact hfresh k name hslot j k' hj
    intro j j' k k' name hj hj'
    by_cases hji : j = i
    · rw [hji, hself] at hj
      rw [hji, hwith hj hj']
    · by_cases hji' : j' = i
      · rw [hji', hself] at hj'
        rw [hji', hwith hj' hj]
      · rw [hother hji] at hj
        rw [hother hji'] at hj'
        exact h.distinct _ _ _ _ _ hj hj'

end Changes

end Effects
