import DpIntegrator.Effects.Program

/-!
# Calls answered by a world

A world answers calls one at a time, each answer possibly changing it. What the
world does is a relation, so that calls may fail or be answered in several ways.
An execution is a run of a program whose calls a world answered in order.
-/

namespace Effects

variable {C : Type} {R : C → Type} {W α : Type} {step : (c : C) → W → R c → W → Prop}

/-- `Steps step w tr w'`: the world `w` answers the calls of `tr` in order and ends as `w'`. -/
inductive Steps (step : (c : C) → W → R c → W → Prop) : W → List (Event C R) → W → Prop
  | nil (w : W) : Steps step w [] w
  | cons {c : C} {r : R c} {w w₁ w' : W} {tr : List (Event C R)} (h : step c w r w₁)
      (hrest : Steps step w₁ tr w') : Steps step w (⟨c, r⟩ :: tr) w'

/-- `p` issues the calls of `tr` against the world `w`, returns `a` and leaves `w'`. -/
structure Exec (step : (c : C) → W → R c → W → Prop) (p : Prog C R α) (w : W)
    (tr : List (Event C R)) (a : α) (w' : W) : Prop where
  /-- The calls and responses are a run of the program. -/
  runs : Runs p tr a
  /-- The responses are the world's. -/
  steps : Steps step w tr w'

@[simp] theorem steps_nil {w w' : W} : Steps step w [] w' ↔ w' = w := by
  constructor
  · rintro ⟨⟩
    rfl
  · rintro rfl
    exact .nil _

@[simp] theorem steps_cons {ev : Event C R} {tr : List (Event C R)} {w w' : W} :
    Steps step w (ev :: tr) w' ↔ ∃ w₁, step ev.1 w ev.2 w₁ ∧ Steps step w₁ tr w' := by
  constructor
  · rintro ⟨⟩
    exact ⟨_, by assumption, by assumption⟩
  · rintro ⟨w₁, h, hrest⟩
    exact .cons h hrest

@[simp] theorem steps_append {t₁ t₂ : List (Event C R)} {w w' : W} :
    Steps step w (t₁ ++ t₂) w' ↔ ∃ w₁, Steps step w t₁ w₁ ∧ Steps step w₁ t₂ w' := by
  induction t₁ generalizing w with
  | nil => simp
  | cons ev t₁ ih =>
    simp only [List.cons_append, steps_cons, ih]
    constructor
    · rintro ⟨w₁, h, w₂, h₁, h₂⟩
      exact ⟨w₂, ⟨w₁, h, h₁⟩, h₂⟩
    · rintro ⟨w₂, ⟨w₁, h, h₁⟩, h₂⟩
      exact ⟨w₁, h, w₂, h₁, h₂⟩

/-- What every answered call of a list preserves, the whole list preserves. -/
theorem Steps.preserves {P : W → Prop} {tr : List (Event C R)} {w w' : W}
    (h : Steps step w tr w')
    (hstep : ∀ ev ∈ tr, ∀ w w', step ev.1 w ev.2 w' → P w → P w') (hw : P w) : P w' := by
  induction h with
  | nil w => exact hw
  | cons hc _ ih =>
    exact ih (fun ev hev => hstep ev (List.mem_cons_of_mem _ hev))
      (hstep _ (List.mem_cons_self ..) _ _ hc hw)

/-- What every answered call of a list leaves unchanged, the whole list leaves unchanged. -/
theorem Steps.frame {β : Type*} {f : W → β} {tr : List (Event C R)} {w w' : W}
    (h : Steps step w tr w')
    (hstep : ∀ ev ∈ tr, ∀ w w', step ev.1 w ev.2 w' → f w' = f w) : f w' = f w :=
  h.preserves (P := fun v => f v = f w)
    (fun ev hev _ _ hs hv => (hstep ev hev _ _ hs).trans hv) rfl

/-- The calls of a kind are answered as if they were the only ones, where the others do not show
in what the worlds agree on. Induction on the calls. -/
theorem Steps.filter {p : Event C R → Bool} {Q : W → W → Prop} {tr : List (Event C R)}
    {w w' v : W} (h : Steps step w tr w')
    (hown : ∀ ev w w' v, p ev → step ev.1 w ev.2 w' → Q w v →
      ∃ v', step ev.1 v ev.2 v' ∧ Q w' v')
    (hother : ∀ ev w w' v, ¬p ev → step ev.1 w ev.2 w' → Q w v → Q w' v)
    (hagree : Q w v) : ∃ v', Steps step v (tr.filter p) v' ∧ Q w' v' := by
  induction h generalizing v with
  | nil w => exact ⟨v, .nil v, hagree⟩
  | @cons c r w w₁ w' tr hc _ ih =>
    by_cases hp : p ⟨c, r⟩
    · obtain ⟨v₁, hstep, hagree₁⟩ := hown ⟨c, r⟩ w w₁ v hp hc hagree
      obtain ⟨v', hrest, hagree'⟩ := ih hagree₁
      refine ⟨v', ?_, hagree'⟩
      rw [List.filter_cons_of_pos hp]
      exact .cons hstep hrest
    · rw [List.filter_cons_of_neg hp]
      exact ih (hother ⟨c, r⟩ w w₁ v hp hc hagree)

/-- Every call of a list was answered at some world. -/
theorem Steps.exists_step {tr : List (Event C R)} {w w' : W} (h : Steps step w tr w')
    {ev : Event C R} (hev : ev ∈ tr) : ∃ v v', step ev.1 v ev.2 v' := by
  induction h with
  | nil w => cases hev
  | cons hc _ ih =>
    obtain rfl | hev := List.mem_cons.mp hev
    · exact ⟨_, _, hc⟩
    · exact ih hev

/-- A quantity that every answered call raises by no more than it credits rises over
a list of calls by no more than the credits of the list. -/
theorem Steps.potential {level : W → ℕ} {gain cost : Event C R → Prop}
    [DecidablePred gain] [DecidablePred cost] {tr : List (Event C R)} {w w' : W}
    (h : Steps step w tr w')
    (hstep : ∀ (ev : Event C R) (w w' : W), step ev.1 w ev.2 w' →
      (if gain ev then 1 else 0) + level w ≤ (if cost ev then 1 else 0) + level w') :
    tr.countP gain + level w ≤ tr.countP cost + level w' := by
  induction h with
  | nil w => simp
  | @cons c r w w₁ w' tr hc _ ih =>
    have h := hstep ⟨c, r⟩ w w₁ hc
    simp only [List.countP_cons, decide_eq_true_eq]
    omega

/-- Run `p` against a world that answers by a function: the calls, the result and the
world that is left. -/
def Prog.execute (serve : (c : C) → W → R c × W) : Prog C R α → W → List (Event C R) × α × W
  | .ret a, w => ([], a, w)
  | .call c k, w =>
    let (r, w₁) := serve c w
    let (tr, a, w') := (k r).execute serve w₁
    (⟨c, r⟩ :: tr, a, w')

/-- Running against a function whose answers the world may give is an execution. -/
theorem Prog.exec_execute {serve : (c : C) → W → R c × W}
    (hserve : ∀ c w, step c w (serve c w).1 (serve c w).2) (p : Prog C R α) (w : W) :
    Exec step p w (p.execute serve w).1 (p.execute serve w).2.1 (p.execute serve w).2.2 := by
  induction p generalizing w with
  | ret a => exact ⟨.ret a, .nil w⟩
  | call c k ih =>
    have h := ih (serve c w).1 (serve c w).2
    exact ⟨.call h.runs, .cons (hserve c w) h.steps⟩

/-- Every response of such a run is the function's, at some world. -/
theorem Prog.mem_execute {serve : (c : C) → W → R c × W} {p : Prog C R α} {w : W}
    {ev : Event C R} (h : ev ∈ (p.execute serve w).1) : ∃ v, ev.2 = (serve ev.1 v).1 := by
  induction p generalizing w with
  | ret a => cases h
  | call c k ih =>
    obtain rfl | h := List.mem_cons.mp h
    · exact ⟨w, rfl⟩
    · exact ih _ h

/-- A world that answers every call lets every program finish: programs are finite. -/
theorem exists_exec (htotal : ∀ c w, ∃ r w', step c w r w') (p : Prog C R α) (w : W) :
    ∃ tr a w', Exec step p w tr a w' := by
  induction p generalizing w with
  | ret a => exact ⟨[], a, w, .ret a, .nil w⟩
  | call c k ih =>
    obtain ⟨r, w₁, hc⟩ := htotal c w
    obtain ⟨tr, a, w', h⟩ := ih r w₁
    exact ⟨_, a, w', .call h.runs, .cons hc h.steps⟩

end Effects
