import DpIntegrator.Effects.Program

/-!
# Calls among other happenings

While a program runs, other things happen: between two of its calls its surroundings change.
A run is then a list of happenings, some of which are the calls of the program.
-/

namespace Effects

variable {C X S : Type} {R : C → Type}

/-- An answered call of the program that runs, or something else. -/
inductive Happening (C : Type) (R : C → Type) (X : Type) : Type
  | call (ev : Event C R)
  | other (x : X)

/-- The calls among the happenings of a list, in order. -/
def callsIn (hs : List (Happening C R X)) : List (Event C R) :=
  hs.filterMap fun
    | .call ev => some ev
    | .other _ => none

/-- The happenings of a list take `s` to `s'`, one after another. -/
inductive Unfolds (happens : Happening C R X → S → S → Prop) : S → List (Happening C R X) → S → Prop
  | nil (s : S) : Unfolds happens s [] s
  | cons {h : Happening C R X} {hs : List (Happening C R X)} {s s₁ s' : S} (hh : happens h s s₁)
      (hrest : Unfolds happens s₁ hs s') : Unfolds happens s (h :: hs) s'

variable {happens : Happening C R X → S → S → Prop} {hs hs' : List (Happening C R X)} {s s' : S}

theorem callsIn_map (tr : List (Event C R)) :
    callsIn (tr.map Happening.call : List (Happening C R X)) = tr := by
  induction tr with
  | nil => rfl
  | cons ev tr ih => exact congrArg (ev :: ·) ih

theorem mem_callsIn {ev : Event C R} : ev ∈ callsIn hs ↔ .call ev ∈ hs := by
  unfold callsIn
  rw [List.mem_filterMap]
  constructor
  · rintro ⟨h, hmem, heq⟩
    cases h with
    | call ev' => exact Option.some.inj heq ▸ hmem
    | other x => cases heq
  · intro hmem
    exact ⟨.call ev, hmem, rfl⟩

/-- Where a call stands among the calls, it stands among the happenings. -/
theorem exists_of_callsIn {t₁ t₂ : List (Event C R)} {ev : Event C R}
    (h : callsIn hs = t₁ ++ ev :: t₂) : ∃ hs₁ hs₂, hs = hs₁ ++ .call ev :: hs₂ ∧
      callsIn hs₁ = t₁ ∧ callsIn hs₂ = t₂ := by
  induction hs generalizing t₁ with
  | nil => cases t₁ <;> cases h
  | cons x hs ih =>
    cases x with
    | other x =>
      obtain ⟨hs₁, hs₂, rfl, h₁, h₂⟩ := ih h
      exact ⟨.other x :: hs₁, hs₂, rfl, h₁, h₂⟩
    | call ev' =>
      have hcons : callsIn (.call ev' :: hs) = ev' :: callsIn hs := rfl
      rw [hcons] at h
      cases t₁ with
      | nil =>
        obtain ⟨rfl, hrest⟩ := List.cons.inj h
        exact ⟨[], hs, rfl, rfl, hrest⟩
      | cons first t₁ =>
        obtain ⟨rfl, hrest⟩ := List.cons.inj h
        obtain ⟨hs₁, hs₂, rfl, h₁, h₂⟩ := ih hrest
        exact ⟨.call ev' :: hs₁, hs₂, rfl, congrArg (ev' :: ·) h₁, h₂⟩

@[simp] theorem unfolds_nil : Unfolds happens s [] s' ↔ s' = s := by
  constructor
  · rintro ⟨⟩
    rfl
  · rintro rfl
    exact .nil _

@[simp] theorem unfolds_cons {h : Happening C R X} :
    Unfolds happens s (h :: hs) s' ↔ ∃ s₁, happens h s s₁ ∧ Unfolds happens s₁ hs s' := by
  constructor
  · rintro ⟨⟩
    exact ⟨_, by assumption, by assumption⟩
  · rintro ⟨s₁, hh, hrest⟩
    exact .cons hh hrest

@[simp] theorem unfolds_append :
    Unfolds happens s (hs ++ hs') s' ↔ ∃ s₁, Unfolds happens s hs s₁ ∧ Unfolds happens s₁ hs' s' := by
  induction hs generalizing s with
  | nil => simp
  | cons x hs ih =>
    simp only [List.cons_append, unfolds_cons, ih]
    constructor
    · rintro ⟨s₁, hh, s₂, h₁, h₂⟩
      exact ⟨s₂, ⟨s₁, hh, h₁⟩, h₂⟩
    · rintro ⟨s₂, ⟨s₁, hh, h₁⟩, h₂⟩
      exact ⟨s₁, hh, s₂, h₁, h₂⟩

/-- What every happening of a list preserves, the whole list preserves. -/
theorem Unfolds.preserves {P : S → Prop} (h : Unfolds happens s hs s')
    (hstep : ∀ x ∈ hs, ∀ s s', happens x s s' → P s → P s') (hs₀ : P s) : P s' := by
  induction h with
  | nil s => exact hs₀
  | cons hh _ ih =>
    have hfirst := hstep _ (List.mem_cons_self ..) _ _ hh hs₀
    exact ih (fun x hx => hstep x (List.mem_cons_of_mem _ hx)) hfirst

end Effects
