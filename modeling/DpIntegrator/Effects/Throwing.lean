import DpIntegrator.Effects.Program

/-!
# Programs that throw

A throwing program settles with a result or an error, as an asynchronous
function does. A throwing program with locals also carries mutable variables
that outlive a throw, so that a handler reads what its body had assigned.
The lemmas below take the runs of such programs apart.
-/

namespace Effects

variable {C : Type} {R : C → Type} {E σ α β γ : Type}

/-- Programs over the calls `C` that may throw an `E`. -/
abbrev Throwing (E C : Type) (R : C → Type) : Type → Type := ExceptT E (Prog C R)

/-- Throwing programs with mutable variables `σ`, which a throw does not undo. -/
abbrev Scoped (E σ C : Type) (R : C → Type) : Type → Type := ExceptT E (StateT σ (Prog C R))

/-- `x` issues the calls of `tr` and settles with `res`. -/
def Settles (x : Throwing E C R α) (tr : List (Event C R)) (res : Except E α) : Prop :=
  Runs x.run tr res

/-- From the variables `l`, `x` issues the calls of `tr`, settles with `res`,
and leaves the variables `l'`. -/
def SettlesFrom (x : Scoped E σ C R α) (l : σ) (tr : List (Event C R)) (res : Except E α)
    (l' : σ) : Prop :=
  Runs (x.run.run l) tr (res, l')

/-- A call that cannot fail, inside a throwing program. -/
def Throwing.observe (c : C) : Throwing E C R (R c) := ExceptT.lift (Prog.perform c)

/-- Await a throwing program inside one with variables. -/
def Scoped.await (x : Throwing E C R α) : Scoped E σ C R α :=
  ExceptT.mk fun l => x.run >>= fun res => Prog.ret (res, l)

/-- Run a body from the variables `l`, then `cleanup` with the variables it left, whether
it threw or not. An error of `cleanup` takes the place of the body's result. -/
def Scoped.withFinally (x : Scoped E σ C R α) (l : σ) (cleanup : σ → Throwing E C R Unit) :
    Throwing E C R α :=
  ExceptT.mk (x.run.run l >>= fun p =>
    (cleanup p.2).run >>= fun
      | .ok _ => Prog.ret p.1
      | .error e => Prog.ret (.error e))

section Throwing

variable {x : Throwing E C R α} {f : α → Throwing E C R β} {tr : List (Event C R)}

@[simp] theorem settles_pure {a : α} {res : Except E α} :
    Settles (pure a : Throwing E C R α) tr res ↔ tr = [] ∧ res = .ok a := runs_ret

@[simp] theorem settles_throw {e : E} {res : Except E α} :
    Settles (throw e : Throwing E C R α) tr res ↔ tr = [] ∧ res = .error e := runs_ret

@[simp] theorem settles_observe {c : C} {res : Except E (R c)} :
    Settles (Throwing.observe c : Throwing E C R (R c)) tr res ↔
      ∃ r, tr = [⟨c, r⟩] ∧ res = .ok r := by
  change Runs (Prog.call c fun r => Prog.ret (Except.ok r)) tr res ↔ _
  simp only [runs_call, runs_ret]
  constructor
  · rintro ⟨r, tr', rfl, rfl, rfl⟩
    exact ⟨r, rfl, rfl⟩
  · rintro ⟨r, rfl, rfl⟩
    exact ⟨r, [], rfl, rfl, rfl⟩

/-- A sequence settles with the first part's error, or with the rest's result. -/
theorem settles_bind {res : Except E β} :
    Settles (x >>= f) tr res ↔ (∃ e, res = .error e ∧ Settles x tr (.error e)) ∨
      ∃ a t₁ t₂, tr = t₁ ++ t₂ ∧ Settles x t₁ (.ok a) ∧ Settles (f a) t₂ res := by
  change Runs (x.run >>= fun r => (ExceptT.bindCont f r : Prog C R (Except E β))) tr res ↔ _
  rw [runs_bind]
  constructor
  · rintro ⟨_ | a, t₁, t₂, rfl, h₁, h₂⟩
    · obtain ⟨rfl, rfl⟩ := runs_ret.mp h₂
      exact .inl ⟨_, rfl, by rw [List.append_nil]; exact h₁⟩
    · exact .inr ⟨a, t₁, t₂, rfl, h₁, h₂⟩
  · rintro (⟨e, rfl, h⟩ | ⟨a, t₁, t₂, rfl, h₁, h₂⟩)
    · exact ⟨.error e, tr, [], by simp, h, .ret _⟩
    · exact ⟨.ok a, t₁, t₂, rfl, h₁, h₂⟩

/-- A sequence that settles with a result went through both parts. -/
theorem settles_bind_ok {b : β} :
    Settles (x >>= f) tr (.ok b) ↔
      ∃ a t₁ t₂, tr = t₁ ++ t₂ ∧ Settles x t₁ (.ok a) ∧ Settles (f a) t₂ (.ok b) := by
  simp [settles_bind]

/-- A caught program settles as its body does, or as the handler of its error. -/
theorem settles_tryCatch {handler : E → Throwing E C R α} {res : Except E α} :
    Settles (tryCatch x handler) tr res ↔ (∃ a, res = .ok a ∧ Settles x tr (.ok a)) ∨
      ∃ e t₁ t₂, tr = t₁ ++ t₂ ∧ Settles x t₁ (.error e) ∧ Settles (handler e) t₂ res := by
  change Runs (x.run >>= fun r => (match r with
    | .ok a => Prog.ret (.ok a)
    | .error e => (handler e).run : Prog C R (Except E α))) tr res ↔ _
  rw [runs_bind]
  constructor
  · rintro ⟨e | a, t₁, t₂, rfl, h₁, h₂⟩
    · exact .inr ⟨e, t₁, t₂, rfl, h₁, h₂⟩
    · obtain ⟨rfl, rfl⟩ := runs_ret.mp h₂
      exact .inl ⟨a, rfl, by rw [List.append_nil]; exact h₁⟩
  · rintro (⟨a, rfl, h⟩ | ⟨e, t₁, t₂, rfl, h₁, h₂⟩)
    · exact ⟨.ok a, tr, [], by simp, h, .ret _⟩
    · exact ⟨.error e, t₁, t₂, rfl, h₁, h₂⟩

/-- Every call that `x` issues, with its response, is of a kind. -/
def Issues (kind : Event C R → Prop) (x : Throwing E C R α) : Prop :=
  ∀ tr res, Settles x tr res → ∀ ev ∈ tr, kind ev

namespace Issues

variable {kind : Event C R → Prop}

theorem pure (a : α) : Issues kind (pure a : Throwing E C R α) := by
  intro tr res h ev hev
  obtain ⟨rfl, _⟩ := settles_pure.mp h
  cases hev

theorem throw (e : E) : Issues kind (throw e : Throwing E C R α) := by
  intro tr res h ev hev
  obtain ⟨rfl, _⟩ := settles_throw.mp h
  cases hev

theorem observe {c : C} (h : ∀ r, kind ⟨c, r⟩) :
    Issues kind (Throwing.observe c : Throwing E C R (R c)) := by
  intro tr res hs ev hev
  obtain ⟨r, rfl, _⟩ := settles_observe.mp hs
  obtain rfl := List.mem_singleton.mp hev
  exact h r

theorem bind (hx : Issues kind x) (hf : ∀ a, Issues kind (f a)) : Issues kind (x >>= f) := by
  intro tr res h ev hev
  obtain ⟨e, rfl, h₁⟩ | ⟨a, t₁, t₂, rfl, h₁, h₂⟩ := settles_bind.mp h
  · exact hx _ _ h₁ ev hev
  · obtain hev | hev := List.mem_append.mp hev
    · exact hx _ _ h₁ ev hev
    · exact hf a _ _ h₂ ev hev

theorem tryCatch {handler : E → Throwing E C R α} (hx : Issues kind x)
    (hhandler : ∀ e, Issues kind (handler e)) : Issues kind (tryCatch x handler) := by
  intro tr res h ev hev
  obtain ⟨a, rfl, h₁⟩ | ⟨e, t₁, t₂, rfl, h₁, h₂⟩ := settles_tryCatch.mp h
  · exact hx _ _ h₁ ev hev
  · obtain hev | hev := List.mem_append.mp hev
    · exact hx _ _ h₁ ev hev
    · exact hhandler e _ _ h₂ ev hev

end Issues

end Throwing

section Scoped

variable {x : Scoped E σ C R α} {f : α → Scoped E σ C R β} {l l' : σ} {tr : List (Event C R)}

@[simp] theorem settlesFrom_pure {a : α} {res : Except E α} :
    SettlesFrom (pure a : Scoped E σ C R α) l tr res l' ↔ tr = [] ∧ res = .ok a ∧ l' = l := by
  change Runs (Prog.ret (Except.ok a, l)) tr (res, l') ↔ _
  simp

@[simp] theorem settlesFrom_throw {e : E} {res : Except E α} :
    SettlesFrom (throw e : Scoped E σ C R α) l tr res l' ↔
      tr = [] ∧ res = .error e ∧ l' = l := by
  change Runs (Prog.ret (Except.error e, l)) tr (res, l') ↔ _
  simp

@[simp] theorem settlesFrom_modify {g : σ → σ} {res : Except E Unit} :
    SettlesFrom (modify g : Scoped E σ C R Unit) l tr res l' ↔
      tr = [] ∧ res = .ok () ∧ l' = g l := by
  change Runs (Prog.ret (Except.ok (), g l)) tr (res, l') ↔ _
  simp

@[simp] theorem settlesFrom_get {res : Except E σ} :
    SettlesFrom (get : Scoped E σ C R σ) l tr res l' ↔ tr = [] ∧ res = .ok l ∧ l' = l := by
  change Runs (Prog.ret (Except.ok l, l)) tr (res, l') ↔ _
  simp

@[simp] theorem settlesFrom_await {y : Throwing E C R α} {res : Except E α} :
    SettlesFrom (Scoped.await y : Scoped E σ C R α) l tr res l' ↔ Settles y tr res ∧ l' = l := by
  change Runs (y.run >>= fun r => Prog.ret (r, l)) tr (res, l') ↔ _
  rw [runs_bind]
  constructor
  · rintro ⟨a, t₁, t₂, rfl, h₁, h₂⟩
    obtain ⟨rfl, h⟩ := runs_ret.mp h₂
    obtain ⟨rfl, rfl⟩ := Prod.mk.inj h
    exact ⟨by rw [List.append_nil]; exact h₁, rfl⟩
  · rintro ⟨h, rfl⟩
    exact ⟨res, tr, [], by simp, h, .ret _⟩

/-- A sequence with variables: the rest starts from the variables the first part left. -/
theorem settlesFrom_bind {res : Except E β} :
    SettlesFrom (x >>= f) l tr res l' ↔
      (∃ e, res = .error e ∧ SettlesFrom x l tr (.error e) l') ∨
      ∃ a l₁ t₁ t₂, tr = t₁ ++ t₂ ∧ SettlesFrom x l t₁ (.ok a) l₁ ∧
        SettlesFrom (f a) l₁ t₂ res l' := by
  change Runs (x.run.run l >>= fun p =>
    ((ExceptT.bindCont f p.1 : StateT σ (Prog C R) (Except E β)).run p.2)) tr (res, l') ↔ _
  rw [runs_bind]
  constructor
  · rintro ⟨⟨e | a, l₁⟩, t₁, t₂, rfl, h₁, h₂⟩
    · obtain ⟨rfl, h⟩ := runs_ret.mp h₂
      obtain ⟨rfl, rfl⟩ := Prod.mk.inj h
      exact .inl ⟨e, rfl, by rw [List.append_nil]; exact h₁⟩
    · exact .inr ⟨a, l₁, t₁, t₂, rfl, h₁, h₂⟩
  · rintro (⟨e, rfl, h⟩ | ⟨a, l₁, t₁, t₂, rfl, h₁, h₂⟩)
    · exact ⟨(.error e, l'), tr, [], by simp, h, .ret _⟩
    · exact ⟨(.ok a, l₁), t₁, t₂, rfl, h₁, h₂⟩

/-- A handler with variables starts from what the body had assigned when it threw. -/
theorem settlesFrom_tryCatch {handler : E → Scoped E σ C R α} {res : Except E α} :
    SettlesFrom (tryCatch x handler) l tr res l' ↔
      (∃ a, res = .ok a ∧ SettlesFrom x l tr (.ok a) l') ∨
      ∃ e l₁ t₁ t₂, tr = t₁ ++ t₂ ∧ SettlesFrom x l t₁ (.error e) l₁ ∧
        SettlesFrom (handler e) l₁ t₂ res l' := by
  change Runs (x.run.run l >>= fun p => ((match p.1 with
    | .ok a => pure (.ok a)
    | .error e => (handler e).run : StateT σ (Prog C R) (Except E α)).run p.2)) tr (res, l') ↔ _
  rw [runs_bind]
  constructor
  · rintro ⟨⟨e | a, l₁⟩, t₁, t₂, rfl, h₁, h₂⟩
    · exact .inr ⟨e, l₁, t₁, t₂, rfl, h₁, h₂⟩
    · obtain ⟨rfl, h⟩ := runs_ret.mp h₂
      obtain ⟨rfl, rfl⟩ := Prod.mk.inj h
      exact .inl ⟨a, rfl, by rw [List.append_nil]; exact h₁⟩
  · rintro (⟨a, rfl, h⟩ | ⟨e, l₁, t₁, t₂, rfl, h₁, h₂⟩)
    · exact ⟨(.ok a, l'), tr, [], by simp, h, .ret _⟩
    · exact ⟨(.error e, l₁), t₁, t₂, rfl, h₁, h₂⟩

/-- A body with a cleanup that does not throw settles as the body does. -/
theorem settles_withFinally {cleanup : σ → Throwing E C R Unit}
    (hcleanup : ∀ l tr e, ¬Settles (cleanup l) tr (.error e)) {res : Except E α} :
    Settles (x.withFinally l cleanup) tr res ↔ ∃ l' t₁ t₂, tr = t₁ ++ t₂ ∧
      SettlesFrom x l t₁ res l' ∧ Settles (cleanup l') t₂ (.ok ()) := by
  change Runs (x.run.run l >>= fun p => (cleanup p.2).run >>= fun
    | .ok _ => Prog.ret p.1
    | .error e => Prog.ret (.error e)) tr res ↔ _
  rw [runs_bind]
  constructor
  · rintro ⟨⟨r, l'⟩, t₁, t₂, rfl, h₁, h₂⟩
    obtain ⟨e | u, s₁, s₂, rfl, hc, hret⟩ := runs_bind.mp h₂
    · exact absurd hc (hcleanup _ _ _)
    · obtain ⟨rfl, rfl⟩ := runs_ret.mp hret
      exact ⟨l', t₁, s₁, by simp, h₁, hc⟩
  · rintro ⟨l', t₁, t₂, rfl, h₁, h₂⟩
    refine ⟨(res, l'), t₁, t₂, rfl, h₁, runs_bind.mpr ⟨.ok (), t₂, [], by simp, h₂, .ret _⟩⟩

/-- `x` issues calls of a kind only, and leaves `f` of its variables as it is. -/
def Confined (kind : Event C R → Prop) (f : σ → γ) (x : Scoped E σ C R α) : Prop :=
  ∀ l tr res l', SettlesFrom x l tr res l' → (∀ ev ∈ tr, kind ev) ∧ f l' = f l

namespace Confined

variable {kind : Event C R → Prop} {g : σ → γ}

theorem pure (a : α) : Confined kind g (pure a : Scoped E σ C R α) := by
  intro l tr res l' h
  obtain ⟨rfl, _, rfl⟩ := settlesFrom_pure.mp h
  exact ⟨by simp, rfl⟩

theorem throw (e : E) : Confined kind g (throw e : Scoped E σ C R α) := by
  intro l tr res l' h
  obtain ⟨rfl, _, rfl⟩ := settlesFrom_throw.mp h
  exact ⟨by simp, rfl⟩

theorem get : Confined kind g (get : Scoped E σ C R σ) := by
  intro l tr res l' h
  obtain ⟨rfl, _, rfl⟩ := settlesFrom_get.mp h
  exact ⟨by simp, rfl⟩

theorem modify {set : σ → σ} (hset : ∀ l, g (set l) = g l) :
    Confined kind g (modify set : Scoped E σ C R Unit) := by
  intro l tr res l' h
  obtain ⟨rfl, _, rfl⟩ := settlesFrom_modify.mp h
  exact ⟨by simp, hset l⟩

theorem await {y : Throwing E C R α} (hy : Issues kind y) :
    Confined kind g (Scoped.await y : Scoped E σ C R α) := by
  intro l tr res l' h
  obtain ⟨hsettles, rfl⟩ := settlesFrom_await.mp h
  exact ⟨hy tr res hsettles, rfl⟩

theorem bind (hx : Confined kind g x) (hf : ∀ a, Confined kind g (f a)) :
    Confined kind g (x >>= f) := by
  intro l tr res l' h
  obtain ⟨e, rfl, h₁⟩ | ⟨a, l₁, t₁, t₂, rfl, h₁, h₂⟩ := settlesFrom_bind.mp h
  · exact hx l tr (.error e) l' h₁
  · obtain ⟨hkind₁, hl₁⟩ := hx l t₁ (.ok a) l₁ h₁
    obtain ⟨hkind₂, hl₂⟩ := hf a l₁ t₂ res l' h₂
    exact ⟨List.forall_mem_append.mpr ⟨hkind₁, hkind₂⟩, hl₂.trans hl₁⟩

theorem tryCatch {handler : E → Scoped E σ C R α} (hx : Confined kind g x)
    (hhandler : ∀ e, Confined kind g (handler e)) : Confined kind g (tryCatch x handler) := by
  intro l tr res l' h
  obtain ⟨a, rfl, h₁⟩ | ⟨e, l₁, t₁, t₂, rfl, h₁, h₂⟩ := settlesFrom_tryCatch.mp h
  · exact hx l tr (.ok a) l' h₁
  · obtain ⟨hkind₁, hl₁⟩ := hx l t₁ (.error e) l₁ h₁
    obtain ⟨hkind₂, hl₂⟩ := hhandler e l₁ t₂ res l' h₂
    exact ⟨List.forall_mem_append.mpr ⟨hkind₁, hkind₂⟩, hl₂.trans hl₁⟩

/-- A body and its cleanup issue calls of the kind that both issue. -/
theorem withFinally (hx : Confined kind g x) {cleanup : σ → Throwing E C R Unit}
    (hcleanup : ∀ l, Issues kind (cleanup l)) : Issues kind (x.withFinally l cleanup) := by
  intro tr res h ev hev
  change Runs (x.run.run l >>= fun p => (cleanup p.2).run >>= fun
    | .ok _ => Prog.ret p.1
    | .error e => Prog.ret (.error e)) tr res at h
  obtain ⟨⟨r, l'⟩, t₁, t₂, rfl, h₁, h₂⟩ := runs_bind.mp h
  obtain ⟨r', t₃, t₄, rfl, h₃, h₄⟩ := runs_bind.mp h₂
  have hnone : t₄ = [] := by
    cases r' with
    | ok u | error e => exact (runs_ret.mp h₄).1
  rw [hnone, List.append_nil] at hev
  obtain hev | hev := List.mem_append.mp hev
  · exact (hx l t₁ r l' h₁).1 ev hev
  · exact hcleanup l' t₃ r' h₃ ev hev

end Confined

end Scoped

end Effects
