import DpIntegrator.Effects.World
import Mathlib.Algebra.BigOperators.Group.Finset.Piecewise
import Mathlib.Algebra.Order.BigOperators.Group.Finset

/-!
# Interleaved programs

Several threads issue calls against one world. A log records each answered call
with the thread that issued it. A log is an interleaving when the world answered
its calls one after another and every thread's own calls are calls of that thread.
-/

namespace Effects

variable {C : Type} {R : C → Type} {W ι : Type} [DecidableEq ι]

/-- The calls of thread `i` in a log, in order. -/
def callsOf (i : ι) (log : List (ι × Event C R)) : List (Event C R) :=
  log.filterMap fun entry => if entry.1 = i then some entry.2 else none

/-- The world answers the calls of `log` in order, and the calls of every thread `i`
are the first calls of a run of it. -/
structure Interleaves (step : (c : C) → W → R c → W → Prop)
    (thread : ι → List (Event C R) → Prop) (w : W) (log : List (ι × Event C R)) (w' : W) :
    Prop where
  /-- Every answer is the world's, one call after another. -/
  steps : Steps step w (log.map Prod.snd) w'
  /-- Every thread issues the calls of its own program. -/
  local_ : ∀ i, thread i (callsOf i log)

@[simp] theorem callsOf_nil (i : ι) : callsOf i ([] : List (ι × Event C R)) = [] := rfl

@[simp] theorem callsOf_cons_self (i : ι) (ev : Event C R) (log : List (ι × Event C R)) :
    callsOf i ((i, ev) :: log) = ev :: callsOf i log := by
  simp [callsOf]

theorem callsOf_cons_of_ne {i j : ι} (h : j ≠ i) (ev : Event C R)
    (log : List (ι × Event C R)) : callsOf i ((j, ev) :: log) = callsOf i log := by
  simp [callsOf, h]

@[simp] theorem callsOf_append (i : ι) (log log' : List (ι × Event C R)) :
    callsOf i (log ++ log') = callsOf i log ++ callsOf i log' := by
  simp [callsOf]

@[simp] theorem callsOf_map_self (i : ι) (tr : List (Event C R)) :
    callsOf i (tr.map (Prod.mk i)) = tr := by
  induction tr with
  | nil => rfl
  | cons ev tr ih => simp [ih]

theorem callsOf_map_of_ne {i j : ι} (h : j ≠ i) (tr : List (Event C R)) :
    callsOf i (tr.map (Prod.mk j)) = [] := by
  induction tr with
  | nil => rfl
  | cons ev tr ih => simp [callsOf_cons_of_ne h, ih]

/-- A call in a log is a call of its thread. -/
theorem mem_callsOf {i : ι} {ev : Event C R} {log : List (ι × Event C R)}
    (h : (i, ev) ∈ log) : ev ∈ callsOf i log :=
  List.mem_filterMap.mpr ⟨(i, ev), h, by simp⟩

theorem mem_of_mem_callsOf {i : ι} {ev : Event C R} {log : List (ι × Event C R)}
    (h : ev ∈ callsOf i log) : (i, ev) ∈ log := by
  obtain ⟨⟨j, ev'⟩, hmem, heq⟩ := List.mem_filterMap.mp h
  by_cases hj : j = i
  · subst hj
    simp only [if_pos, Option.some.injEq] at heq
    exact heq ▸ hmem
  · simp [hj] at heq

/-- The calls of a log are the calls of its threads: counts add up over the threads. -/
theorem countP_eq_sum_callsOf (p : Event C R → Prop) [DecidablePred p]
    (log : List (ι × Event C R)) {threads : Finset ι} (h : ∀ entry ∈ log, entry.1 ∈ threads) :
    (log.map Prod.snd).countP p = ∑ i ∈ threads, (callsOf i log).countP p := by
  induction log with
  | nil => simp
  | cons entry log ih =>
    obtain ⟨j, ev⟩ := entry
    have hj : j ∈ threads := h (j, ev) (List.mem_cons_self ..)
    have hcount : ∀ i, (callsOf i ((j, ev) :: log)).countP p =
        (callsOf i log).countP p + if i = j then (if p ev then 1 else 0) else 0 := by
      intro i
      by_cases hij : i = j
      · subst hij
        simp [List.countP_cons]
      · simp [callsOf_cons_of_ne (Ne.symm hij), hij]
    rw [List.map_cons, List.countP_cons,
      ih fun entry hentry => h entry (List.mem_cons_of_mem _ hentry),
      Finset.sum_congr rfl fun i _ => hcount i, Finset.sum_add_distrib,
      Finset.sum_ite_eq' threads j, if_pos hj]
    simp

/-- A bound on counts that every thread keeps holds of the whole log. -/
theorem countP_le_of_callsOf {p q : Event C R → Prop} [DecidablePred p] [DecidablePred q]
    {log : List (ι × Event C R)}
    (h : ∀ i, (callsOf i log).countP p ≤ (callsOf i log).countP q) :
    (log.map Prod.snd).countP p ≤ (log.map Prod.snd).countP q := by
  have hmem : ∀ entry ∈ log, entry.1 ∈ (log.map Prod.fst).toFinset := by
    intro entry hentry
    exact List.mem_toFinset.mpr (List.mem_map.mpr ⟨entry, hentry, rfl⟩)
  rw [countP_eq_sum_callsOf p log hmem, countP_eq_sum_callsOf q log hmem]
  exact Finset.sum_le_sum fun i _ => h i

/-- Let threads take turns against a world that answers by a function: a turn of a thread
is its next call. Turns of threads that have returned are skipped. -/
def interleave {α : Type} (serve : (c : C) → W → R c × W) :
    List ι → (ι → Prog C R α) → W → List (ι × Event C R) × W
  | [], _, w => ([], w)
  | i :: turns, threads, w =>
    match threads i with
    | .ret _ => interleave serve turns threads w
    | .call c k =>
      let (r, w₁) := serve c w
      let (log, w') := interleave serve turns (Function.update threads i (k r)) w₁
      ((i, ⟨c, r⟩) :: log, w')

/-- What is left of the threads after the turns that `interleave` lets them take. -/
def remaining {α : Type} (serve : (c : C) → W → R c × W) :
    List ι → (ι → Prog C R α) → W → ι → Prog C R α
  | [], threads, _ => threads
  | i :: turns, threads, w =>
    match threads i with
    | .ret _ => remaining serve turns threads w
    | .call c k =>
      let (r, w₁) := serve c w
      remaining serve turns (Function.update threads i (k r)) w₁

section Turns

variable {α : Type} {step : (c : C) → W → R c → W → Prop} {serve : (c : C) → W → R c × W}
  {turns : List ι} {threads : ι → Prog C R α} {w : W}

/-- The calls of a thread in its turns lead to what is left of it. -/
theorem reaches_remaining (i : ι) : Reaches (threads i)
    (callsOf i (interleave serve turns threads w).1) (remaining serve turns threads w i) := by
  induction turns generalizing threads w with
  | nil => exact .refl _
  | cons j turns ih =>
    cases hthread : threads j with
    | ret a =>
      simp only [interleave, remaining, hthread]
      exact ih
    | call c k =>
      have hi := @ih (Function.update threads j (k (serve c w).1)) (serve c w).2
      simp only [interleave, remaining, hthread]
      by_cases hij : j = i
      · subst hij
        rw [Function.update_self] at hi
        rw [hthread, callsOf_cons_self]
        exact .call hi
      · rw [Function.update_of_ne (Ne.symm hij)] at hi
        rw [callsOf_cons_of_ne hij]
        exact hi

/-- Every response in the turns is the function's, from some world. -/
theorem mem_interleave {i : ι} {ev : Event C R}
    (h : (i, ev) ∈ (interleave serve turns threads w).1) : ∃ v, ev.2 = (serve ev.1 v).1 := by
  induction turns generalizing threads w with
  | nil => cases h
  | cons j turns ih =>
    unfold interleave at h
    split at h
    · exact ih h
    · obtain heq | h := List.mem_cons.mp h
      · cases heq
        exact ⟨w, rfl⟩
      · exact ih h

/-- Taking turns is an interleaving. -/
theorem interleaves_interleave (hserve : ∀ c w, step c w (serve c w).1 (serve c w).2)
    (turns : List ι) (threads : ι → Prog C R α) (w : W) :
    Interleaves step (fun i => Partial (threads i)) w (interleave serve turns threads w).1
      (interleave serve turns threads w).2 := by
  refine ⟨?_, fun i => ⟨_, reaches_remaining i⟩⟩
  induction turns generalizing threads w with
  | nil => exact .nil w
  | cons i turns ih =>
    unfold interleave
    split
    · exact ih threads w
    · exact .cons (hserve _ w) (ih _ _)

end Turns

end Effects
