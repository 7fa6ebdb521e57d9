import DpIntegrator.Mapping.Evaluator

/-!
# What mappings write

A mapping writes below the first step of its target path and leaves every other property
of the output alone. So does a list of mappings.
-/

namespace DpIntegrator

open Effects

/-- The property of the output below which a path writes. -/
def topKey (path : String) : String := (Js.split path '.').headD ""

/-- The properties of the output that a mapping may write. -/
def Mapping.targets : Mapping → List String
  | .direct _ target | .constant _ target | .lookup _ _ target _ | .derive _ _ target =>
    [topKey target]
  | .conditional _ _ then_ none => then_.targets
  | .conditional _ _ then_ (some else_) => then_.targets ++ else_.targets
  | .malformed _ => []

variable {S : Type} [ToJs S] {source : S} {ctx : EvaluatorContext S} {out out' : Js.Fields}
  {tr : List Ev} {key : String}

/-- Writing at a path leaves the other properties as they are. -/
theorem get?_setPath {path : String} {value : Js.Value} (h : setPath out path value = .ok out')
    (hkey : key ≠ topKey path) : out'.get? key = out.get? key := by
  unfold setPath at h
  by_cases hpath : path = ""
  · simp [hpath] at h
  rw [if_neg hpath] at h
  have hne : Js.split path '.' ≠ [] := by simp [Js.split, Js.splitChars_ne_nil]
  obtain ⟨part, rest, hparts⟩ := List.exists_cons_of_ne_nil hne
  have hpart : topKey path = part := by simp [topKey, hparts]
  rw [hpart] at hkey
  rw [hparts] at h
  cases rest with
  | nil =>
    simp only [setParts, Js.Value.setProp, Except.ok.injEq] at h
    rw [← h, Js.Fields.get?_set_of_ne hkey]
  | cons next rest =>
    simp only [setParts, Js.Value.setProp, Except.ok.injEq] at h
    rw [← h, Js.Fields.get?_set_of_ne hkey]

/-- Writing at a path keeps the names of the properties distinct. -/
theorem distinct_setPath {path : String} {value : Js.Value}
    (h : setPath out path value = .ok out') (hout : out.Distinct) : out'.Distinct := by
  unfold setPath at h
  by_cases hpath : path = ""
  · simp [hpath] at h
  rw [if_neg hpath] at h
  have hne : Js.split path '.' ≠ [] := by simp [Js.split, Js.splitChars_ne_nil]
  obtain ⟨part, rest, hparts⟩ := List.exists_cons_of_ne_nil hne
  rw [hparts] at h
  cases rest with
  | nil =>
    simp only [setParts, Js.Value.setProp, Except.ok.injEq] at h
    exact h ▸ hout.set part value
  | cons next rest =>
    simp only [setParts, Js.Value.setProp, Except.ok.injEq] at h
    exact h ▸ hout.set part _

/-- A mapping leaves the output alone, or writes once, below one of its targets. -/
def Wrote (targets : List String) (out out' : Js.Fields) : Prop :=
  out' = out ∨ ∃ path value, topKey path ∈ targets ∧ setPath out path value = .ok out'

theorem applyLookup_wrote {table fromKey target : String} {required : Bool}
    (h : Settles (applyLookup source table fromKey target required ctx out) tr (.ok (.ok out'))) :
    Wrote [topKey target] out out' := by
  have hset {value : Js.Value} {t : List Ev}
      (h : Settles (do return MappingResult.ok (← Async.ofExcept (setPath out target value)) :
        Async (MappingResult Js.Fields)) t (.ok (.ok out'))) : Wrote [topKey target] out out' := by
    obtain ⟨written, t₁, t₂, rfl, hwrite, hret⟩ := settles_bind_ok.mp h
    obtain ⟨rfl, hout⟩ := settles_pure.mp hret
    cases hout
    exact .inr ⟨target, value, List.mem_singleton.mpr rfl, (settles_ofExcept.mp hwrite).2.symm⟩
  unfold applyLookup at h
  dsimp only at h
  split at h
  · split at h
    · cases (settles_pure.mp h).2
    · exact hset h
  · obtain ⟨found, t₁, t₂, rfl, _, hrest⟩ := settles_bind_ok.mp h
    cases found with
    | none =>
      dsimp only at hrest
      split at hrest
      · cases (settles_pure.mp hrest).2
      · exact hset hrest
    | some resolved => exact hset hrest

/-- Induction on the mapping: a conditional writes what the branch that it takes writes. -/
theorem applyMapping_wrote : ∀ (m : Mapping) {tr : List Ev} {out out' : Js.Fields},
    Settles (applyMapping source ctx m out) tr (.ok (.ok out')) → Wrote m.targets out out'
  | .direct path target, _, _, _, h => by
    obtain ⟨_, hrun⟩ := settles_ofExcept.mp h
    obtain ⟨written, hwrite, hout⟩ := bind_eq_ok.mp hrun.symm
    cases hout
    exact .inr ⟨target, _, List.mem_singleton.mpr rfl, hwrite⟩
  | .constant value target, _, _, _, h => by
    obtain ⟨_, hrun⟩ := settles_ofExcept.mp h
    obtain ⟨written, hwrite, hout⟩ := bind_eq_ok.mp hrun.symm
    cases hout
    exact .inr ⟨target, value, List.mem_singleton.mpr rfl, hwrite⟩
  | .lookup .., _, _, _, h => applyLookup_wrote h
  | .derive fn args target, _, _, _, h => by
    obtain ⟨_, hrun⟩ := settles_ofExcept.mp h
    unfold applyDerive at hrun
    split at hrun
    · cases hrun
    · obtain ⟨value, _, hrest⟩ := bind_eq_ok.mp hrun.symm
      obtain ⟨written, hwrite, hout⟩ := bind_eq_ok.mp hrest
      cases hout
      exact .inr ⟨target, value, List.mem_singleton.mpr rfl, hwrite⟩
  | .conditional _ _ then_ none, _, _, _, h => by
    rw [applyMapping] at h
    split at h
    · exact applyMapping_wrote then_ h
    · obtain ⟨_, hout⟩ := settles_pure.mp h
      cases hout
      exact .inl rfl
  | .conditional _ _ then_ (some else_), _, _, _, h => by
    rw [applyMapping] at h
    split at h
    · refine (applyMapping_wrote then_ h).imp_right ?_
      rintro ⟨path, value, hpath, hset⟩
      exact ⟨path, value, List.mem_append_left _ hpath, hset⟩
    · refine (applyMapping_wrote else_ h).imp_right ?_
      rintro ⟨path, value, hpath, hset⟩
      exact ⟨path, value, List.mem_append_right _ hpath, hset⟩
  | .malformed _, _, _, _, h => by cases (settles_throw.mp h).2

theorem Wrote.get?_eq {targets : List String} (h : Wrote targets out out')
    (hkey : key ∉ targets) : out'.get? key = out.get? key := by
  rcases h with rfl | ⟨path, value, hpath, hset⟩
  · rfl
  · exact get?_setPath hset fun heq => hkey (heq ▸ hpath)

theorem Wrote.distinct {targets : List String} (h : Wrote targets out out')
    (hout : out.Distinct) : out'.Distinct := by
  rcases h with rfl | ⟨path, value, _, hset⟩
  · exact hout
  · exact distinct_setPath hset hout

/-- What every write below a target keeps, the mappings keep. Induction on the mappings. -/
theorem evaluateFrom_keeps {P : Js.Fields → Prop} {mappings : List Mapping}
    (hkeeps : ∀ m ∈ mappings, ∀ out out', Wrote m.targets out out' → P out → P out')
    (h : Settles (evaluateFrom source ctx mappings out) tr (.ok (.ok out'))) (hout : P out) :
    P out' := by
  induction mappings generalizing out tr with
  | nil =>
    obtain ⟨_, hres⟩ := settles_pure.mp h
    cases hres
    exact hout
  | cons m rest ih =>
    obtain ⟨r, t₁, t₂, rfl, happly, hrest⟩ := settles_bind_ok.mp h
    cases r with
    | parked reason => cases (settles_pure.mp hrest).2
    | ok written =>
      have hwritten := hkeeps m (List.mem_cons_self ..) _ _ (applyMapping_wrote m happly) hout
      exact ih (fun m' hm' => hkeeps m' (List.mem_cons_of_mem _ hm')) hrest hwritten

/-- A property that no mapping writes is absent from the result. -/
theorem get?_evaluate {mappings : List Mapping}
    (h : Settles (evaluate source mappings ctx) tr (.ok (.ok out)))
    (hkey : ∀ m ∈ mappings, key ∉ m.targets) : out.get? key = none :=
  evaluateFrom_keeps (P := fun out => out.get? key = none)
    (fun m hm _ _ hwrote hout => (hwrote.get?_eq (hkey m hm)).trans hout) h rfl

/-- The properties of the result have distinct names. -/
theorem distinct_evaluate {mappings : List Mapping}
    (h : Settles (evaluate source mappings ctx) tr (.ok (.ok out))) : out.Distinct :=
  evaluateFrom_keeps (fun _ _ _ _ hwrote => hwrote.distinct) h List.nodup_nil

end DpIntegrator
