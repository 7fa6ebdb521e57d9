import Mathlib.Data.List.Basic
import Mathlib.Logic.Nonempty
import Mathlib.Tactic.Common

/-!
# Programs that issue calls

A program either returns or issues one call and continues with its response.
The calls are uninterpreted: `C` is the type of calls and `R c` the type of the
responses to `c`. A run is the list of calls a program issues, each with the
response it received. Nothing here depends on what answers the calls.
-/

namespace Effects

/-- A finite program over the calls `C`, whose call `c` is answered in `R c`. -/
inductive Prog (C : Type) (R : C → Type) (α : Type) : Type
  | ret (a : α) : Prog C R α
  | call (c : C) (k : R c → Prog C R α) : Prog C R α

/-- A call together with the response it received. -/
abbrev Event (C : Type) (R : C → Type) : Type := (c : C) × R c

variable {C : Type} {R : C → Type} {α β γ : Type}

namespace Prog

/-- Run `p` and continue with its result. -/
def bind : Prog C R α → (α → Prog C R β) → Prog C R β
  | .ret a, f => f a
  | .call c k, f => .call c fun r => (k r).bind f

instance : Monad (Prog C R) where
  pure := .ret
  bind := bind

@[simp] theorem ret_bind (a : α) (f : α → Prog C R β) : Prog.ret a >>= f = f a := rfl

@[simp] theorem call_bind (c : C) (k : R c → Prog C R α) (f : α → Prog C R β) :
    Prog.call c k >>= f = Prog.call c fun r => k r >>= f := rfl

@[simp] theorem pure_eq_ret (a : α) : (pure a : Prog C R α) = .ret a := rfl

/-- The program that issues one call and returns its response. -/
def perform (c : C) : Prog C R (R c) := .call c .ret

/-- Answer every call by `oracle` and return the calls issued with the result. -/
def eval (oracle : (c : C) → R c) : Prog C R α → List (Event C R) × α
  | .ret a => ([], a)
  | .call c k => ((⟨c, oracle c⟩ :: ((k (oracle c)).eval oracle).1), ((k (oracle c)).eval oracle).2)

end Prog

/-- Whether a program has returned. -/
def Prog.isRet : Prog C R α → Bool
  | .ret _ => true
  | .call .. => false

theorem Prog.eq_ret_of_isRet {p : Prog C R α} (h : p.isRet = true) : ∃ a, p = .ret a := by
  cases p with
  | ret a => exact ⟨a, rfl⟩
  | call c k => cases h

theorem Prog.bind_ret (x : Prog C R α) : x >>= Prog.ret = x := by
  induction x with
  | ret a => rfl
  | call c k ih => exact congrArg (Prog.call c) (funext ih)

theorem Prog.bind_bind (x : Prog C R α) (f : α → Prog C R β) (g : β → Prog C R γ) :
    x >>= f >>= g = x >>= fun a => f a >>= g := by
  induction x with
  | ret a => rfl
  | call c k ih => exact congrArg (Prog.call c) (funext ih)

instance : LawfulMonad (Prog C R) :=
  .mk' _ (fun x => x.bind_ret) (fun _ _ => rfl) (fun x f g => x.bind_bind f g)

/-- `Runs p tr a`: `p` issues the calls of `tr` in order, receives the responses
recorded there, and returns `a`. -/
inductive Runs : Prog C R α → List (Event C R) → α → Prop
  | ret (a : α) : Runs (.ret a) [] a
  | call {c : C} {k : R c → Prog C R α} {r : R c} {tr : List (Event C R)} {a : α}
      (h : Runs (k r) tr a) : Runs (.call c k) (⟨c, r⟩ :: tr) a

/-- `Reaches p tr p'`: after the calls and responses of `tr`, `p'` is left of `p`. -/
inductive Reaches : Prog C R α → List (Event C R) → Prog C R α → Prop
  | refl (p : Prog C R α) : Reaches p [] p
  | call {c : C} {k : R c → Prog C R α} {r : R c} {tr : List (Event C R)} {p : Prog C R α}
      (h : Reaches (k r) tr p) : Reaches (.call c k) (⟨c, r⟩ :: tr) p

theorem Reaches.runs {p : Prog C R α} {tr : List (Event C R)} {a : α}
    (h : Reaches p tr (.ret a)) : Runs p tr a := by
  generalize hp' : (.ret a : Prog C R α) = p' at h
  induction h with
  | refl p =>
    subst hp'
    exact .ret a
  | call _ ih => exact .call (ih hp')

/-- The calls of `tr` are the first calls of some run of `p`, finished or not. -/
def Partial (p : Prog C R α) (tr : List (Event C R)) : Prop := ∃ p', Reaches p tr p'

@[simp] theorem runs_ret {a b : α} {tr : List (Event C R)} :
    Runs (Prog.ret a : Prog C R α) tr b ↔ tr = [] ∧ b = a := by
  constructor
  · rintro ⟨⟩
    exact ⟨rfl, rfl⟩
  · rintro ⟨rfl, rfl⟩
    exact .ret b

theorem runs_call {c : C} {k : R c → Prog C R α} {tr : List (Event C R)} {a : α} :
    Runs (Prog.call c k) tr a ↔ ∃ r tr', tr = ⟨c, r⟩ :: tr' ∧ Runs (k r) tr' a := by
  constructor
  · rintro ⟨⟩
    exact ⟨_, _, rfl, by assumption⟩
  · rintro ⟨r, tr', rfl, h⟩
    exact .call h

/-- A run of a sequence is a run of its first part followed by a run of the rest. -/
theorem runs_bind {p : Prog C R α} {f : α → Prog C R β} {tr : List (Event C R)} {b : β} :
    Runs (p >>= f) tr b ↔ ∃ a t₁ t₂, tr = t₁ ++ t₂ ∧ Runs p t₁ a ∧ Runs (f a) t₂ b := by
  induction p generalizing tr with
  | ret a =>
    constructor
    · intro h
      exact ⟨a, [], tr, rfl, .ret a, h⟩
    · rintro ⟨a', t₁, t₂, rfl, h₁, h₂⟩
      obtain ⟨rfl, rfl⟩ := runs_ret.mp h₁
      exact h₂
  | call c k ih =>
    rw [Prog.call_bind, runs_call]
    constructor
    · rintro ⟨r, tr', rfl, h⟩
      obtain ⟨a, t₁, t₂, rfl, h₁, h₂⟩ := (ih r).mp h
      exact ⟨a, ⟨c, r⟩ :: t₁, t₂, rfl, .call h₁, h₂⟩
    · rintro ⟨a, t₁, t₂, rfl, h₁, h₂⟩
      obtain ⟨r, t₁', rfl, h₁'⟩ := runs_call.mp h₁
      exact ⟨r, t₁' ++ t₂, rfl, (ih r).mpr ⟨a, t₁', t₂, rfl, h₁', h₂⟩⟩

@[simp] theorem runs_perform {c : C} {tr : List (Event C R)} {r : R c} :
    Runs (Prog.perform c) tr r ↔ tr = [⟨c, r⟩] := by
  simp only [Prog.perform, runs_call, runs_ret]
  constructor
  · rintro ⟨r', tr', rfl, rfl, rfl⟩
    rfl
  · rintro rfl
    exact ⟨r, [], rfl, rfl, rfl⟩

/-- The responses determine the result. -/
theorem Runs.unique {p : Prog C R α} {tr : List (Event C R)} {a b : α}
    (ha : Runs p tr a) (hb : Runs p tr b) : a = b := by
  induction ha with
  | ret a => exact (runs_ret.mp hb).2.symm
  | call _ ih =>
    obtain ⟨r, tr', heq, h⟩ := runs_call.mp hb
    obtain ⟨heq', rfl⟩ := List.cons.inj heq
    obtain rfl := eq_of_heq (Sigma.mk.inj heq').2
    exact ih h

/-- The responses determine where a run ends, whatever follows. -/
theorem Runs.eq_of_append {p : Prog C R α} {t t' s s' : List (Event C R)} {a a' : α}
    (h : Runs p t a) (h' : Runs p t' a') (heq : t ++ s = t' ++ s') : t = t' ∧ a = a' := by
  induction h generalizing t' with
  | ret a =>
    obtain ⟨rfl, rfl⟩ := runs_ret.mp h'
    exact ⟨rfl, rfl⟩
  | call _ ih =>
    obtain ⟨r, t'', rfl, h''⟩ := runs_call.mp h'
    obtain ⟨heq', hrest⟩ := List.cons.inj heq
    obtain rfl := eq_of_heq (Sigma.mk.inj heq').2
    obtain ⟨rfl, rfl⟩ := ih h'' hrest
    exact ⟨rfl, rfl⟩

/-- Answering by an oracle is a run. -/
theorem Prog.runs_eval (oracle : (c : C) → R c) (p : Prog C R α) :
    Runs p (p.eval oracle).1 (p.eval oracle).2 := by
  induction p with
  | ret a => exact .ret a
  | call c k ih => exact .call (ih (oracle c))

/-- The responses to the calls that an oracle answers are its answers. -/
theorem Prog.eq_oracle_of_mem_eval {oracle : (c : C) → R c} {p : Prog C R α} {ev : Event C R}
    (h : ev ∈ (p.eval oracle).1) : ev.2 = oracle ev.1 := by
  induction p with
  | ret a => cases h
  | call c k ih =>
    rcases List.mem_cons.mp h with rfl | h
    · rfl
    · exact ih (oracle c) h

/-- A run all of whose responses are the oracle's is the oracle's run. -/
theorem Runs.eq_eval {oracle : (c : C) → R c} {p : Prog C R α} {tr : List (Event C R)} {a : α}
    (h : Runs p tr a) (horacle : ∀ ev ∈ tr, ev.2 = oracle ev.1) : p.eval oracle = (tr, a) := by
  induction h with
  | ret a => rfl
  | @call c k r tr a _ ih =>
    have hr : r = oracle c := horacle ⟨c, r⟩ (List.mem_cons_self ..)
    subst hr
    have htail := ih fun ev hev => horacle ev (List.mem_cons_of_mem _ hev)
    simp only [Prog.eval, htail]

/-- A run reaches every point of its list of calls. -/
theorem Runs.partial_of_append {p : Prog C R α} {t₁ t₂ : List (Event C R)} {a : α}
    (h : Runs p (t₁ ++ t₂) a) : Partial p t₁ := by
  induction t₁ generalizing p with
  | nil => exact ⟨p, .refl p⟩
  | cons ev t₁ ih =>
    cases h with
    | call h =>
      obtain ⟨p', hp'⟩ := ih h
      exact ⟨p', .call hp'⟩

/-- Every unfinished run can be finished with the answers of an oracle. -/
theorem Partial.exists_runs_eval {p : Prog C R α} {tr : List (Event C R)} (h : Partial p tr)
    (oracle : (c : C) → R c) :
    ∃ t₂ a, Runs p (tr ++ t₂) a ∧ ∀ ev ∈ t₂, ev.2 = oracle ev.1 := by
  obtain ⟨p', hp'⟩ := h
  induction hp' with
  | refl p => exact ⟨_, _, p.runs_eval oracle, fun _ => Prog.eq_oracle_of_mem_eval⟩
  | call _ ih =>
    obtain ⟨t₂, a, h, horacle⟩ := ih
    exact ⟨t₂, a, .call h, horacle⟩

/-- Where every call has some response, every unfinished run can be finished. -/
theorem Partial.exists_runs [∀ c, Nonempty (R c)] {p : Prog C R α} {tr : List (Event C R)}
    (h : Partial p tr) : ∃ t₂ a, Runs p (tr ++ t₂) a := by
  obtain ⟨t₂, a, h, _⟩ := h.exists_runs_eval fun _ => Classical.arbitrary _
  exact ⟨t₂, a, h⟩

end Effects
