import DpIntegrator.Effects.Throwing
import DpIntegrator.Effects.World

/-!
# Programs in lockstep

Two runs of one program, or of two, compared call by call. The programs are in lockstep
when they issue like calls as long as these are answered alike, and then end alike. What is
like and what is alike is left open, so that calls and answers may differ in what does not
matter. Against worlds that answer like calls alike, programs in lockstep cannot be told
apart.
-/

namespace Effects

variable {C : Type} {R : C → Type} {W E σ α β γ δ : Type} {like : C → C → Prop}
  {alike : Event C R → Event C R → Prop}

/-- Two programs issue like calls as long as these are answered alike, and then return
related results. -/
inductive Lockstep (like : C → C → Prop) (alike : Event C R → Event C R → Prop)
    (Q : α → β → Prop) : Prog C R α → Prog C R β → Prop
  | ret {a : α} {b : β} (h : Q a b) : Lockstep like alike Q (.ret a) (.ret b)
  | call {c c' : C} {k : R c → Prog C R α} {k' : R c' → Prog C R β} (hcall : like c c')
      (h : ∀ r r', alike ⟨c, r⟩ ⟨c', r'⟩ → Lockstep like alike Q (k r) (k' r')) :
      Lockstep like alike Q (.call c k) (.call c' k')

section Lockstep

variable {Q : α → β → Prop} {P : γ → δ → Prop}

theorem Lockstep.bind {x : Prog C R α} {y : Prog C R β} {f : α → Prog C R γ}
    {g : β → Prog C R δ} (hx : Lockstep like alike Q x y)
    (hf : ∀ a b, Q a b → Lockstep like alike P (f a) (g b)) :
    Lockstep like alike P (x >>= f) (y >>= g) := by
  induction hx with
  | ret h => exact hf _ _ h
  | call hcall _ ih => exact .call hcall ih

/-- Worlds that answer like calls alike, and stay similar, do not tell programs in lockstep
apart: induction on the programs. -/
theorem Lockstep.exec {step : (c : C) → W → R c → W → Prop} {S : W → W → Prop}
    {p : Prog C R α} {q : Prog C R β} (h : Lockstep like alike Q p q) {w₁ w₂ w₁' w₂' : W}
    {tr tr' : List (Event C R)} {a : α} {b : β} (h₁ : Exec step p w₁ tr a w₁')
    (h₂ : Exec step q w₂ tr' b w₂') (hS : S w₁ w₂)
    (hstep : ∀ ev ∈ tr, ∀ ev' ∈ tr', ∀ v₁ v₂ v₁' v₂', like ev.1 ev'.1 → S v₁ v₂ →
      step ev.1 v₁ ev.2 v₁' → step ev'.1 v₂ ev'.2 v₂' → alike ev ev' ∧ S v₁' v₂') :
    Q a b ∧ List.Forall₂ alike tr tr' ∧ S w₁' w₂' := by
  obtain ⟨hruns, hsteps⟩ := h₁
  obtain ⟨hruns', hsteps'⟩ := h₂
  induction h generalizing w₁ w₂ tr tr' with
  | ret hQ =>
    obtain ⟨rfl, rfl⟩ := runs_ret.mp hruns
    obtain ⟨rfl, rfl⟩ := runs_ret.mp hruns'
    obtain rfl := steps_nil.mp hsteps
    obtain rfl := steps_nil.mp hsteps'
    exact ⟨hQ, .nil, hS⟩
  | call hcall _ ih =>
    obtain ⟨r, t, rfl, hrest⟩ := runs_call.mp hruns
    obtain ⟨r', t', rfl, hrest'⟩ := runs_call.mp hruns'
    obtain ⟨v, hv, hsteps⟩ := steps_cons.mp hsteps
    obtain ⟨v', hv', hsteps'⟩ := steps_cons.mp hsteps'
    obtain ⟨halike, hS'⟩ := hstep _ (List.mem_cons_self ..) _ (List.mem_cons_self ..) _ _ _ _
      hcall hS hv hv'
    obtain ⟨hQ, hall, hend⟩ := ih r r' halike hS'
      (fun ev hev ev' hev' => hstep ev (List.mem_cons_of_mem _ hev) ev'
        (List.mem_cons_of_mem _ hev')) hrest hsteps hrest' hsteps'
    exact ⟨hQ, .cons halike hall, hend⟩

end Lockstep

/-! ## Programs that throw -/

/-- Both settle with the same error, or with related results. -/
inductive SameEnd (Q : α → β → Prop) : Except E α → Except E β → Prop
  | error (e : E) : SameEnd Q (.error e) (.error e)
  | ok {a : α} {b : β} (h : Q a b) : SameEnd Q (.ok a) (.ok b)

theorem SameEnd.eq {r r' : Except E α} (h : SameEnd Eq r r') : r = r' := by
  cases h with
  | error => rfl
  | ok h => rw [h]

/-- Two throwing programs in lockstep. -/
def InStep (like : C → C → Prop) (alike : Event C R → Event C R → Prop) (Q : α → β → Prop)
    (x : Throwing E C R α) (y : Throwing E C R β) : Prop :=
  Lockstep like alike (SameEnd Q) x.run y.run

namespace InStep

variable {Q : α → β → Prop} {P : γ → δ → Prop} {x : Throwing E C R α} {y : Throwing E C R β}

theorem pure {a : α} {b : β} (h : Q a b) :
    InStep like alike Q (pure a : Throwing E C R α) (pure b : Throwing E C R β) := .ret (.ok h)

theorem throw (e : E) :
    InStep like alike Q (throw e : Throwing E C R α) (throw e : Throwing E C R β) :=
  .ret (.error e)

/-- Like calls whose alike answers are related. -/
theorem observe {c c' : C} {P : R c → R c' → Prop} (hcall : like c c')
    (h : ∀ r r', alike ⟨c, r⟩ ⟨c', r'⟩ → P r r') :
    InStep like alike P (Throwing.observe c : Throwing E C R (R c))
      (Throwing.observe c' : Throwing E C R (R c')) :=
  .call hcall fun r r' halike => .ret (.ok (h r r' halike))

theorem bind {f : α → Throwing E C R γ} {g : β → Throwing E C R δ}
    (hx : InStep like alike Q x y) (hf : ∀ a b, Q a b → InStep like alike P (f a) (g b)) :
    InStep like alike P (x >>= f) (y >>= g) := by
  refine Lockstep.bind hx fun r r' hend => ?_
  cases hend with
  | error e => exact .ret (.error e)
  | ok h => exact hf _ _ h

theorem tryCatch {handler : E → Throwing E C R α} {handler' : E → Throwing E C R β}
    (hx : InStep like alike Q x y) (hhandler : ∀ e, InStep like alike Q (handler e) (handler' e)) :
    InStep like alike Q (tryCatch x handler) (tryCatch y handler') := by
  refine Lockstep.bind hx fun r r' hend => ?_
  cases hend with
  | error e => exact hhandler e
  | ok h => exact .ret (.ok h)

end InStep

/-! ## Programs with variables -/

/-- Both settle alike and leave the same variables. -/
abbrev SameLeft (Q : α → β → Prop) (p : Except E α × σ) (q : Except E β × σ) : Prop :=
  SameEnd Q p.1 q.1 ∧ p.2 = q.2

/-- Two programs with variables in lockstep, from the same variables to the same. -/
def InStepFrom (like : C → C → Prop) (alike : Event C R → Event C R → Prop) (Q : α → β → Prop)
    (x : Scoped E σ C R α) (y : Scoped E σ C R β) : Prop :=
  ∀ l, Lockstep like alike (SameLeft Q) (x.run.run l) (y.run.run l)

namespace InStepFrom

variable {Q : α → β → Prop} {P : γ → δ → Prop} {x : Scoped E σ C R α} {y : Scoped E σ C R β}

theorem pure {a : α} {b : β} (h : Q a b) :
    InStepFrom like alike Q (pure a : Scoped E σ C R α) (pure b : Scoped E σ C R β) :=
  fun _ => .ret ⟨.ok h, rfl⟩

theorem throw (e : E) :
    InStepFrom like alike Q (throw e : Scoped E σ C R α) (throw e : Scoped E σ C R β) :=
  fun _ => .ret ⟨.error e, rfl⟩

theorem get : InStepFrom like alike Eq (get : Scoped E σ C R σ)
    (get : Scoped E σ C R σ) := fun _ => .ret ⟨.ok rfl, rfl⟩

theorem modify (set : σ → σ) : InStepFrom like alike Eq
    (modify set : Scoped E σ C R Unit) (modify set : Scoped E σ C R Unit) :=
  fun _ => .ret ⟨.ok rfl, rfl⟩

theorem await {z : Throwing E C R α} {z' : Throwing E C R β} (h : InStep like alike Q z z') :
    InStepFrom like alike Q (Scoped.await z : Scoped E σ C R α)
      (Scoped.await z' : Scoped E σ C R β) :=
  fun _ => Lockstep.bind h fun _ _ hend => .ret ⟨hend, rfl⟩

theorem bind {f : α → Scoped E σ C R γ} {g : β → Scoped E σ C R δ}
    (hx : InStepFrom like alike Q x y) (hf : ∀ a b, Q a b → InStepFrom like alike P (f a) (g b)) :
    InStepFrom like alike P (x >>= f) (y >>= g) := by
  intro l
  refine Lockstep.bind (hx l) fun p q hleft => ?_
  obtain ⟨r, l₁⟩ := p
  obtain ⟨r', l₂⟩ := q
  obtain ⟨hend, rfl⟩ := hleft
  cases hend with
  | error e => exact .ret ⟨.error e, rfl⟩
  | ok h => exact hf _ _ h _

theorem tryCatch {handler : E → Scoped E σ C R α} {handler' : E → Scoped E σ C R β}
    (hx : InStepFrom like alike Q x y)
    (hhandler : ∀ e, InStepFrom like alike Q (handler e) (handler' e)) :
    InStepFrom like alike Q (tryCatch x handler) (tryCatch y handler') := by
  intro l
  refine Lockstep.bind (hx l) fun p q hleft => ?_
  obtain ⟨r, l₁⟩ := p
  obtain ⟨r', l₂⟩ := q
  obtain ⟨hend, rfl⟩ := hleft
  cases hend with
  | error e => exact hhandler e _
  | ok h => exact .ret ⟨.ok h, rfl⟩

/-- A body and its cleanup, which sees the variables that the body left. -/
theorem withFinally (hx : InStepFrom like alike Q x y) (l : σ)
    {cleanup cleanup' : σ → Throwing E C R Unit}
    (hcleanup : ∀ l, InStep like alike Eq (cleanup l) (cleanup' l)) :
    InStep like alike Q (x.withFinally l cleanup) (y.withFinally l cleanup') := by
  refine Lockstep.bind (hx l) fun p q hleft => ?_
  obtain ⟨r, l₁⟩ := p
  obtain ⟨r', l₂⟩ := q
  obtain ⟨hend, rfl⟩ := hleft
  refine Lockstep.bind (hcleanup l₁) fun s s' hclean => ?_
  cases hclean with
  | error e => exact .ret (.error e)
  | ok => exact .ret hend

end InStepFrom

end Effects
