import Mathlib.Data.List.Basic
import Mathlib.Logic.Function.Basic

/-!
# Promises and their reactions

A promise keeps the callers that await it, in the order in which they came. When it is settled they
join the queue of jobs, from which one job at a time is taken. So the callers of one promise go on
in the order in which they awaited it, whatever else happens in between.
-/

namespace Effects

/-- Promises, named by `ι`, with results in `ρ`, and the callers of `κ` that await them. -/
structure Promises (ι κ ρ : Type) where
  result : ι → Option ρ
  reactions : ι → List κ
  jobs : List (κ × ι)
  /-- A job is of a settled promise. -/
  result_isSome : ∀ job ∈ jobs, (result job.2).isSome
  /-- A settled promise has no reactions left. -/
  reactions_eq_nil : ∀ p, (result p).isSome → reactions p = []

namespace Promises

variable {ι κ ρ : Type} [DecidableEq ι]

/-- No promise is settled or awaited. -/
def empty : Promises ι κ ρ where
  result _ := none
  reactions _ := []
  jobs := []
  result_isSome := by simp
  reactions_eq_nil := by simp

/-- A caller awaits a promise. -/
def await (ps : Promises ι κ ρ) (caller : κ) (p : ι) : Promises ι κ ρ :=
  if h : (ps.result p).isSome then
    { ps with
      jobs := ps.jobs ++ [(caller, p)]
      result_isSome := by
        intro job hjob
        rcases List.mem_append.mp hjob with hjob | hjob
        · exact ps.result_isSome job hjob
        · rwa [List.mem_singleton.mp hjob] }
  else
    { ps with
      reactions := Function.update ps.reactions p (ps.reactions p ++ [caller])
      reactions_eq_nil := by
        intro q hq
        have hne : q ≠ p := by
          rintro rfl
          exact h hq
        rw [Function.update_of_ne hne]
        exact ps.reactions_eq_nil q hq }

/-- A promise is settled. -/
def settle (ps : Promises ι κ ρ) (p : ι) (r : ρ) : Promises ι κ ρ where
  result := Function.update ps.result p (some r)
  reactions := Function.update ps.reactions p []
  jobs := ps.jobs ++ (ps.reactions p).map fun caller => (caller, p)
  result_isSome := by
    intro job hjob
    by_cases heq : job.2 = p
    · rw [heq, Function.update_self]
      rfl
    · rw [Function.update_of_ne heq]
      rcases List.mem_append.mp hjob with hjob | hjob
      · exact ps.result_isSome job hjob
      · obtain ⟨caller, _, rfl⟩ := List.mem_map.mp hjob
        exact absurd rfl heq
  reactions_eq_nil := by
    intro q hq
    by_cases heq : q = p
    · rw [heq, Function.update_self]
    · rw [Function.update_of_ne heq] at hq ⊢
      exact ps.reactions_eq_nil q hq

/-- The first job is taken. -/
def next (ps : Promises ι κ ρ) : Option ((κ × ι) × Promises ι κ ρ) :=
  match h : ps.jobs with
  | [] => none
  | job :: rest =>
    some (job,
      { ps with
        jobs := rest
        result_isSome := fun job' hjob' =>
          ps.result_isSome job' (by rw [h]; exact List.mem_cons_of_mem job hjob') })

/-- The callers that await a promise and have not gone on, in their order. -/
def pending (ps : Promises ι κ ρ) (p : ι) : List κ :=
  (ps.jobs.filter fun job => job.2 = p).map Prod.fst ++ ps.reactions p

variable {ps ps' : Promises ι κ ρ} {p q : ι} {caller : κ} {r : ρ} {job : κ × ι}

/-! ## What each operation changes -/

@[simp] theorem result_await : (ps.await caller p).result = ps.result := by
  unfold await
  split <;> rfl

@[simp] theorem result_settle : (ps.settle p r).result = Function.update ps.result p (some r) := rfl

omit [DecidableEq ι] in
theorem next_eq_some (h : ps.next = some (job, ps')) :
    ps.jobs = job :: ps'.jobs ∧ ps'.result = ps.result ∧ ps'.reactions = ps.reactions := by
  unfold next at h
  split at h
  · cases h
  · next job' rest hjobs =>
    cases h
    exact ⟨hjobs, rfl, rfl⟩

omit [DecidableEq ι] in
theorem next_eq_none (h : ps.next = none) : ps.jobs = [] := by
  unfold next at h
  split at h
  · assumption
  · cases h

@[simp] theorem pending_empty : (empty : Promises ι κ ρ).pending p = [] := rfl

/-- No job is of a promise that is not settled. -/
theorem filter_jobs_eq_nil (h : ps.result p = none) :
    (ps.jobs.filter fun job => job.2 = p) = [] := by
  rw [List.filter_eq_nil_iff]
  intro job hjob heq
  have hsome := ps.result_isSome job hjob
  rw [of_decide_eq_true heq, h] at hsome
  cases hsome

theorem pending_await_self : (ps.await caller p).pending p = ps.pending p ++ [caller] := by
  unfold await pending
  split
  · next h =>
    rw [ps.reactions_eq_nil p h, List.append_nil, List.append_nil, List.filter_append,
      List.map_append]
    simp
  · simp only [Function.update_self, List.append_assoc]

theorem pending_await_of_ne (h : q ≠ p) : (ps.await caller p).pending q = ps.pending q := by
  unfold await pending
  split
  · rw [List.filter_append]
    simp [h.symm]
  · simp only [Function.update_of_ne h]

/-- Settling a promise that was not settled moves its callers, and keeps their order. -/
theorem pending_settle (h : ps.result p = none) : (ps.settle p r).pending q = ps.pending q := by
  unfold settle pending
  simp only [List.filter_append]
  by_cases heq : q = p
  · subst heq
    simp only [Function.update_self, filter_jobs_eq_nil h]
    rw [List.filter_eq_self.mpr (by simp)]
    simp [Function.comp_def]
  · simp only [Function.update_of_ne heq]
    simp [Ne.symm heq]

/-- The caller that goes on is the first of its promise. -/
theorem pending_next_self (h : ps.next = some (job, ps')) :
    ps.pending job.2 = job.1 :: ps'.pending job.2 := by
  obtain ⟨hjobs, _, hreactions⟩ := next_eq_some h
  unfold pending
  rw [hjobs, hreactions, List.filter_cons_of_pos (by simp)]
  rfl

theorem pending_next_of_ne (h : ps.next = some (job, ps')) (hne : q ≠ job.2) :
    ps'.pending q = ps.pending q := by
  obtain ⟨hjobs, _, hreactions⟩ := next_eq_some h
  unfold pending
  rw [hjobs, hreactions, List.filter_cons_of_neg (by simpa using hne.symm)]

omit [DecidableEq ι] in
/-- The promise of a job that is taken is settled. -/
theorem result_of_next (h : ps.next = some (job, ps')) : (ps.result job.2).isSome := by
  obtain ⟨hjobs, _, _⟩ := next_eq_some h
  exact ps.result_isSome job (by rw [hjobs]; exact List.mem_cons_self)

/-! ## The place of a job in the queue -/

/-- A caller of a settled promise has a job. -/
theorem exists_job (hcaller : caller ∈ ps.pending p) (h : (ps.result p).isSome) :
    ∃ k : ℕ, ps.jobs[k]? = some (caller, p) := by
  unfold pending at hcaller
  rw [ps.reactions_eq_nil p h, List.append_nil] at hcaller
  obtain ⟨⟨caller', p'⟩, hjob, rfl⟩ := List.mem_map.mp hcaller
  obtain ⟨hmem, heq⟩ := List.mem_filter.mp hjob
  rw [← of_decide_eq_true heq]
  exact List.mem_iff_getElem?.mp hmem

theorem job_await {k : ℕ} (h : ps.jobs[k]? = some job) :
    (ps.await caller p).jobs[k]? = some job := by
  unfold await
  split
  · exact (List.getElem?_append_left (List.getElem?_eq_some_iff.mp h).1).trans h
  · exact h

theorem job_settle {k : ℕ} (h : ps.jobs[k]? = some job) : (ps.settle p r).jobs[k]? = some job :=
  (List.getElem?_append_left (List.getElem?_eq_some_iff.mp h).1).trans h

end Promises

end Effects
