import DpIntegrator.Effects.Executions
import DpIntegrator.Effects.Lockstep

/-!
# Simulation

Two programs that issue different calls against different worlds. One is followed by the other
when every execution of it from related states can be matched by an execution that ends in
related states with related results. Following is shown call by call, and goes through
sequences.
-/

namespace Effects

variable {C D : Type} {R : C → Type} {T : D → Type} {V W E α β γ δ : Type}
  {step : (c : C) → V → R c → V → Prop} {step' : (d : D) → W → T d → W → Prop}
  {S : V → W → Prop}

/-- Every execution of `p` is matched by one of `q`. -/
def Followed (step : (c : C) → V → R c → V → Prop) (step' : (d : D) → W → T d → W → Prop)
    (S : V → W → Prop) (Q : α → β → Prop) (p : Prog C R α) (q : Prog D T β) : Prop :=
  ∀ v w tr a v', S v w → Exec step p v tr a v' →
    ∃ tr' b w', Exec step' q w tr' b w' ∧ Q a b ∧ S v' w'

namespace Followed

variable {Q : α → β → Prop} {P : γ → δ → Prop} {p : Prog C R α} {q : Prog D T β}

theorem ret {a : α} {b : β} (h : Q a b) :
    Followed step step' S Q (.ret a : Prog C R α) (.ret b : Prog D T β) := by
  rintro v w tr a' v' hS ⟨hruns, hsteps⟩
  obtain ⟨rfl, rfl⟩ := runs_ret.mp hruns
  obtain rfl := steps_nil.mp hsteps
  exact ⟨[], b, w, ⟨.ret b, .nil w⟩, h, hS⟩

/-- Calls whose answers are matched. -/
theorem perform {c : C} {d : D} {Q : R c → T d → Prop}
    (h : ∀ v w r v', S v w → step c v r v' → ∃ t w', step' d w t w' ∧ Q r t ∧ S v' w') :
    Followed step step' S Q (Prog.perform c) (Prog.perform d) := by
  intro v w tr r v' hS hexec
  obtain ⟨t, w', hstep, hQ, hS'⟩ := h v w r v' hS (exec_perform hexec)
  exact ⟨_, t, w', ⟨runs_perform.mpr rfl, .cons hstep (.nil w')⟩, hQ, hS'⟩

theorem bind {f : α → Prog C R γ} {g : β → Prog D T δ} (hp : Followed step step' S Q p q)
    (hf : ∀ a b, Q a b → Followed step step' S P (f a) (g b)) :
    Followed step step' S P (p >>= f) (q >>= g) := by
  rintro v w tr c v' hS ⟨hruns, hsteps⟩
  obtain ⟨a, t₁, t₂, rfl, hfirst, hrest⟩ := runs_bind.mp hruns
  obtain ⟨v₁, hsteps₁, hsteps₂⟩ := steps_append.mp hsteps
  obtain ⟨t₁', b, w₁, hq, hQ, hS₁⟩ := hp v w t₁ a v₁ hS ⟨hfirst, hsteps₁⟩
  obtain ⟨t₂', d, w', hg, hP, hS'⟩ := hf a b hQ v₁ w₁ t₂ c v' hS₁ ⟨hrest, hsteps₂⟩
  exact ⟨t₁' ++ t₂', d, w', ⟨runs_bind.mpr ⟨b, t₁', t₂', rfl, hq.runs, hg.runs⟩,
    steps_append.mpr ⟨w₁, hq.steps, hg.steps⟩⟩, hP, hS'⟩

/-- A call of the follower alone, that a world answers with `t` and stays related. -/
theorem perform_right {d : D} {t : T d} {g : T d → Prog D T β}
    (hstep : ∀ v w, S v w → step' d w t w) (h : Followed step step' S Q p (g t)) :
    Followed step step' S Q p (Prog.perform d >>= g) := by
  intro v w tr a v' hS hexec
  obtain ⟨tr', b, w', hg, hQ, hS'⟩ := h v w tr a v' hS hexec
  exact ⟨⟨d, t⟩ :: tr', b, w', ⟨runs_call.mpr ⟨t, tr', rfl, hg.runs⟩,
    steps_cons.mpr ⟨w, hstep v w hS, hg.steps⟩⟩, hQ, hS'⟩

/-- A call of the followed program alone, that a world answers with `r` only and stays related. -/
theorem perform_left {c : C} {r : R c} {f : R c → Prog C R α}
    (hstep : ∀ v w r' v', S v w → step c v r' v' → r' = r ∧ v' = v)
    (h : Followed step step' S Q (f r) q) : Followed step step' S Q (Prog.perform c >>= f) q := by
  rintro v w tr a v' hS ⟨hruns, hsteps⟩
  obtain ⟨r', t, rfl, hrest⟩ := runs_call.mp hruns
  obtain ⟨v₁, hcall, hlater⟩ := steps_cons.mp hsteps
  obtain ⟨rfl, rfl⟩ := hstep v w r' v₁ hS hcall
  exact h v₁ w t a v' hS ⟨hrest, hlater⟩

end Followed

/-! ## Programs that throw -/

/-- Every execution of `x` is matched by one of `y`, which throws the same. -/
abbrev Follows (step : (c : C) → V → R c → V → Prop) (step' : (d : D) → W → T d → W → Prop)
    (S : V → W → Prop) (Q : α → β → Prop) (x : Throwing E C R α) (y : Throwing E D T β) : Prop :=
  Followed step step' S (SameEnd Q) x.run y.run

namespace Follows

variable {Q : α → β → Prop} {P : γ → δ → Prop} {x : Throwing E C R α} {y : Throwing E D T β}

theorem pure {a : α} {b : β} (h : Q a b) : Follows step step' S Q
    (pure a : Throwing E C R α) (pure b : Throwing E D T β) := Followed.ret (.ok h)

theorem bind {f : α → Throwing E C R γ} {g : β → Throwing E D T δ}
    (hx : Follows step step' S Q x y) (hf : ∀ a b, Q a b → Follows step step' S P (f a) (g b)) :
    Follows step step' S P (x >>= f) (y >>= g) := by
  refine Followed.bind hx fun r r' hend => ?_
  cases hend with
  | error e => exact Followed.ret (.error e)
  | ok h => exact hf _ _ h

/-- Calls that cannot fail. -/
theorem observe {c : C} {d : D} {Q : R c → T d → Prop}
    (h : ∀ v w r v', S v w → step c v r v' → ∃ t w', step' d w t w' ∧ Q r t ∧ S v' w') :
    Follows step step' S Q (Throwing.observe c : Throwing E C R (R c))
      (Throwing.observe d : Throwing E D T (T d)) :=
  Followed.bind (Followed.perform h) fun _ _ hQ => .ret (.ok hQ)

end Follows

/-! ## Histories -/

/-- A history of activities is matched activity by activity. -/
theorem exists_steps_of_follows {A B : Type} {X : A → Type} {Y : B → Type}
    {does : (a : A) → V → X a → V → Prop} {does' : (b : B) → W → Y b → W → Prop}
    {alike : Event A X → Event B Y → Prop}
    (hstep : ∀ ev v w v', S v w → does ev.1 v ev.2 v' →
      ∃ ev' w', does' ev'.1 w ev'.2 w' ∧ alike ev ev' ∧ S v' w')
    {h : List (Event A X)} {v v' : V} {w : W} (hS : S v w) (hsteps : Steps does v h v') :
    ∃ h' w', Steps does' w h' w' ∧ List.Forall₂ alike h h' ∧ S v' w' := by
  induction hsteps generalizing w with
  | nil v => exact ⟨[], w, .nil w, .nil, hS⟩
  | cons hdoes _ ih =>
    obtain ⟨ev', w₁, hdoes', halike, hS₁⟩ := hstep ⟨_, _⟩ _ w _ hS hdoes
    obtain ⟨h', w', hsteps', hall, hS'⟩ := ih hS₁
    exact ⟨ev' :: h', w', steps_cons.mpr ⟨w₁, hdoes', hsteps'⟩, .cons halike hall, hS'⟩

end Effects
