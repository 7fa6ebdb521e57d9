import Mathlib.Data.Int.Order.Basic
import Mathlib.Data.List.Chain

/-!
# Runs that look back

Something runs now and then, and each run looks at the days before it, as many as its lookback
says. No day is missed if the runs are no farther apart than that.
-/

namespace Periodic

/-- A run looks at the `lookback` days before its own. -/
def Looks (lookback run day : ℤ) : Prop := 1 ≤ run - day ∧ run - day ≤ lookback

/-- Every day between the first run and a later one is looked at if and only if no two consecutive
runs are farther apart than the lookback. -/
theorem looks_all_iff {lookback first : ℤ} {runs : List ℤ} (hlookback : 0 ≤ lookback)
    (hsorted : (first :: runs).Pairwise (· ≤ ·)) :
    (∀ day, first ≤ day → (∃ run ∈ runs, day < run) → ∃ run ∈ runs, Looks lookback run day) ↔
      (first :: runs).IsChain fun a b => b - a ≤ lookback := by
  induction runs generalizing first with
  | nil => simp
  | cons next rest ih =>
    obtain ⟨hfirst, hrest⟩ := List.pairwise_cons.mp hsorted
    have hnext : first ≤ next := hfirst next List.mem_cons_self
    have hlater : ∀ run ∈ next :: rest, next ≤ run := by
      intro run hrun
      rcases List.mem_cons.mp hrun with rfl | hrun
      · exact le_refl _
      · exact (List.pairwise_cons.mp hrest).1 run hrun
    rw [List.isChain_cons_cons, ← ih hrest]
    constructor
    · intro hall
      constructor
      · by_cases hsame : next = first
        · omega
        · obtain ⟨run, hrun, _, hle⟩ := hall first (le_refl _) ⟨next, List.mem_cons_self, by omega⟩
          have hge := hlater run hrun
          omega
      · rintro day hday ⟨run, hrun, hlt⟩
        obtain ⟨run', hrun', hlooks⟩ :=
          hall day (by omega) ⟨run, List.mem_cons_of_mem _ hrun, hlt⟩
        refine ⟨run', (List.mem_cons.mp hrun').resolve_left ?_, hlooks⟩
        rintro rfl
        have hbefore := hlooks.1
        omega
    · rintro ⟨hgap, hall⟩ day hday ⟨run, hrun, hlt⟩
      by_cases hbefore : day < next
      · refine ⟨next, List.mem_cons_self, ?_, ?_⟩ <;> omega
      · have hrun : run ∈ rest := by
          refine (List.mem_cons.mp hrun).resolve_left ?_
          rintro rfl
          omega
        obtain ⟨run', hrun', hlooks⟩ := hall day (by omega) ⟨run, hrun, hlt⟩
        exact ⟨run', List.mem_cons_of_mem _ hrun', hlooks⟩

end Periodic
