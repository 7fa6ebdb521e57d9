import DpIntegrator.Effects.Throwing
import DpIntegrator.Effects.World

/-!
# Throwing programs in a world

An execution of a throwing program is taken apart like its runs: each part goes on from the world
that the part before it left.
-/

namespace Effects

variable {C : Type} {R : C → Type} {W E α β : Type} {step : (c : C) → W → R c → W → Prop}
  {x : Throwing E C R α} {f : α → Throwing E C R β} {tr : List (Event C R)} {w w' : W}

/-- A call is answered by the world. -/
theorem exec_perform {c : C} {r : R c} (h : Exec step (Prog.perform c) w tr r w') :
    step c w r w' := by
  obtain ⟨hruns, hsteps⟩ := h
  obtain rfl := runs_perform.mp hruns
  obtain ⟨w₁, hstep, hnil⟩ := steps_cons.mp hsteps
  obtain rfl := steps_nil.mp hnil
  exact hstep

/-- A call that cannot fail returns its answer. -/
theorem exec_observe {c : C} {res : Except E (R c)}
    (h : Exec step (Throwing.observe c : Throwing E C R (R c)).run w tr res w') :
    ∃ r, res = .ok r ∧ step c w r w' := by
  obtain ⟨hruns, hsteps⟩ := h
  obtain ⟨r, rfl, rfl⟩ := settles_observe.mp hruns
  obtain ⟨w₁, hstep, hnil⟩ := steps_cons.mp hsteps
  obtain rfl := steps_nil.mp hnil
  exact ⟨r, rfl, hstep⟩

/-- What is computed without calls leaves the world alone. -/
theorem exec_ret {res res' : Except E α} (h : Exec step (Prog.ret res) w tr res' w') :
    res' = res ∧ w' = w := by
  obtain ⟨hruns, hsteps⟩ := h
  obtain ⟨rfl, rfl⟩ := runs_ret.mp hruns
  exact ⟨rfl, steps_nil.mp hsteps⟩

theorem exec_pure {a : α} {res : Except E α}
    (h : Exec step (pure a : Throwing E C R α).run w tr res w') : res = .ok a ∧ w' = w :=
  exec_ret h

theorem exec_throw {e : E} {res : Except E α}
    (h : Exec step (throw e : Throwing E C R α).run w tr res w') : res = .error e ∧ w' = w :=
  exec_ret h

/-- What follows a function that returned goes on from the world that it left. -/
theorem exec_bind {res : Except E β} (h : Exec step (x >>= f).run w tr res w') :
    (∃ e, res = .error e ∧ Exec step x.run w tr (.error e) w') ∨
      ∃ a w₁ t₁ t₂, Exec step x.run w t₁ (.ok a) w₁ ∧ Exec step (f a).run w₁ t₂ res w' := by
  obtain ⟨hruns, hsteps⟩ := h
  obtain ⟨e, rfl, hx⟩ | ⟨a, t₁, t₂, rfl, hx, hrest⟩ := settles_bind.mp hruns
  · exact .inl ⟨e, rfl, hx, hsteps⟩
  · obtain ⟨w₁, hsteps₁, hsteps₂⟩ := steps_append.mp hsteps
    exact .inr ⟨a, w₁, t₁, t₂, ⟨hx, hsteps₁⟩, ⟨hrest, hsteps₂⟩⟩

/-- A handler goes on from the world in which the error was thrown. -/
theorem exec_tryCatch {handler : E → Throwing E C R α} {res : Except E α}
    (h : Exec step (tryCatch x handler).run w tr res w') :
    (∃ a, res = .ok a ∧ Exec step x.run w tr (.ok a) w') ∨
      ∃ e w₁ t₁ t₂, Exec step x.run w t₁ (.error e) w₁ ∧
        Exec step (handler e).run w₁ t₂ res w' := by
  obtain ⟨hruns, hsteps⟩ := h
  obtain ⟨a, rfl, hx⟩ | ⟨e, t₁, t₂, rfl, hx, hrest⟩ := settles_tryCatch.mp hruns
  · exact .inl ⟨a, rfl, hx, hsteps⟩
  · obtain ⟨w₁, hsteps₁, hsteps₂⟩ := steps_append.mp hsteps
    exact .inr ⟨e, w₁, t₁, t₂, ⟨hx, hsteps₁⟩, ⟨hrest, hsteps₂⟩⟩

end Effects
