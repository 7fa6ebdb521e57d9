import DpIntegrator.Effects.World

/-!
# Calls answered by programs

A program is run with each of its calls answered by another program, which issues calls of its
own. An execution is then a run of the first program, together with an execution of the answering
program for each call of that run.
-/

namespace Effects

variable {C D : Type} {R : C → Type} {T : D → Type} {V α : Type}

/-- Replace each call by a program that answers it. -/
def Prog.handle (h : (c : C) → Prog D T (R c)) : Prog C R α → Prog D T α
  | .ret a => .ret a
  | .call c k => h c >>= fun r => (k r).handle h

/-- The calls of a list are answered one after another: the answering programs issue the calls of
another list. -/
inductive Served (step : (d : D) → V → T d → V → Prop) (h : (c : C) → Prog D T (R c)) :
    V → List (Event C R) → List (Event D T) → V → Prop
  | nil (v : V) : Served step h v [] [] v
  | cons {c : C} {r : R c} {v v₁ v' : V} {tr : List (Event C R)} {t t' : List (Event D T)}
      (hcall : Exec step (h c) v t r v₁) (hrest : Served step h v₁ tr t' v') :
      Served step h v (⟨c, r⟩ :: tr) (t ++ t') v'

variable {step : (d : D) → V → T d → V → Prop} {h : (c : C) → Prog D T (R c)} {p : Prog C R α}
  {v v' : V} {tr : List (Event C R)} {t t₀ : List (Event D T)} {a : α}

/-- An execution is a run of the program whose calls are answered. -/
theorem exec_handle :
    Exec step (p.handle h) v t a v' ↔ ∃ tr, Runs p tr a ∧ Served step h v tr t v' := by
  induction p generalizing v t with
  | ret b =>
    constructor
    · rintro ⟨hruns, hsteps⟩
      obtain ⟨rfl, rfl⟩ := runs_ret.mp hruns
      obtain rfl := steps_nil.mp hsteps
      exact ⟨[], .ret a, .nil _⟩
    · rintro ⟨tr, hruns, hhandled⟩
      obtain ⟨rfl, rfl⟩ := runs_ret.mp hruns
      cases hhandled
      exact ⟨.ret a, .nil _⟩
  | call c k ih =>
    constructor
    · rintro ⟨hruns, hsteps⟩
      obtain ⟨r, t₁, t₂, rfl, hfirst, hrest⟩ := runs_bind.mp hruns
      obtain ⟨v₁, hsteps₁, hsteps₂⟩ := steps_append.mp hsteps
      obtain ⟨tr, hruns', hhandled⟩ := (ih r).mp ⟨hrest, hsteps₂⟩
      exact ⟨⟨c, r⟩ :: tr, .call hruns', .cons ⟨hfirst, hsteps₁⟩ hhandled⟩
    · rintro ⟨tr, hruns, hhandled⟩
      obtain ⟨r, tr, rfl, hruns'⟩ := runs_call.mp hruns
      cases hhandled with
      | cons hcall hrest =>
        have hlater := (ih r).mpr ⟨tr, hruns', hrest⟩
        exact ⟨runs_bind.mpr ⟨r, _, _, rfl, hcall.runs, hlater.runs⟩,
          steps_append.mpr ⟨_, hcall.steps, hlater.steps⟩⟩

namespace Served

/-- What every answering program preserves, of the state, of the calls answered so far and of those
issued for them, holds in the end. -/
theorem preserves {I : V → List (Event C R) → List (Event D T) → Prop}
    (hcall : ∀ c v t r v' tr₀ t₀, I v tr₀ t₀ → Exec step (h c) v t r v' →
      I v' (tr₀ ++ [⟨c, r⟩]) (t₀ ++ t))
    (hhandled : Served step h v tr t v') {tr₀ : List (Event C R)} (hI : I v tr₀ t₀) :
    I v' (tr₀ ++ tr) (t₀ ++ t) := by
  induction hhandled generalizing tr₀ t₀ with
  | nil v => rwa [List.append_nil, List.append_nil]
  | @cons c r _ _ _ tr t t' hexec _ ih =>
    have hlater := ih (hcall _ _ _ _ _ _ _ hI hexec)
    rwa [List.append_assoc, List.append_assoc, List.singleton_append] at hlater

/-- A call that was issued was issued to answer one of the list. -/
theorem exists_of_mem (hhandled : Served step h v tr t v') {ev : Event D T} (hev : ev ∈ t) :
    ∃ c r, ⟨c, r⟩ ∈ tr ∧ ∃ v₁ t₁ v₂, Exec step (h c) v₁ t₁ r v₂ ∧ ev ∈ t₁ := by
  induction hhandled with
  | nil v => cases hev
  | @cons c r v v₁ v' tr t t' hexec _ ih =>
    rcases List.mem_append.mp hev with hev | hev
    · exact ⟨c, r, List.mem_cons_self, v, t, v₁, hexec, hev⟩
    · obtain ⟨c', r', hmem, hissued⟩ := ih hev
      exact ⟨c', r', List.mem_cons_of_mem _ hmem, hissued⟩

end Served

end Effects
