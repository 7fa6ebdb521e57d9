import Mathlib.Data.List.Forall2

/-!
# The first error

A list that is read entry by entry, or folded into a state, in `Except`: it succeeds if every
step does, and otherwise ends with the error of the first step that fails.
-/

namespace Effects

variable {E α β σ : Type} {f : α → Except E β} {g : σ → α → Except E σ} {l : List α} {e : E}

/-- A sequence that fails does so in its first part, or in what follows it. -/
theorem bind_eq_error {x : Except E α} {k : α → Except E β} :
    x >>= k = .error e ↔ x = .error e ∨ ∃ a, x = .ok a ∧ k a = .error e := by
  cases x with
  | error e' =>
    constructor
    · rintro ⟨⟩
      exact .inl rfl
    · rintro (⟨⟨⟩⟩ | ⟨a, h, _⟩)
      · rfl
      · cases h
  | ok a =>
    refine ⟨fun h => .inr ⟨a, rfl, h⟩, ?_⟩
    rintro (h | ⟨b, hb, h⟩)
    · cases h
    · cases hb
      exact h

theorem mapM_eq_ok_iff {out : List β} :
    l.mapM f = .ok out ↔ List.Forall₂ (fun a b => f a = .ok b) l out := by
  induction l generalizing out with
  | nil =>
    rw [List.mapM_nil, List.forall₂_nil_left_iff]
    exact ⟨fun h => (Except.ok.inj h).symm, fun h => h ▸ rfl⟩
  | cons a l ih =>
    rw [List.mapM_cons, List.forall₂_cons_left_iff]
    constructor
    · intro h
      cases ha : f a with
      | error e =>
        rw [ha] at h
        cases h
      | ok b =>
        rw [ha] at h
        cases hl : l.mapM f with
        | error e =>
          rw [hl] at h
          cases h
        | ok bs =>
          rw [hl] at h
          exact ⟨b, bs, rfl, ih.mp hl, (Except.ok.inj h).symm⟩
    · rintro ⟨b, bs, ha, hl, rfl⟩
      rw [ha, ih.mpr hl]
      rfl

/-- The error of a list is that of its first bad entry. Induction on the list. -/
theorem mapM_eq_error_iff : l.mapM f = .error e ↔ ∃ front a rest, l = front ++ a :: rest ∧
    (∀ b ∈ front, ∃ c, f b = .ok c) ∧ f a = .error e := by
  induction l with
  | nil => simp [pure, Except.pure]
  | cons head l ih =>
    rw [List.mapM_cons]
    cases hhead : f head with
    | error e' =>
      constructor
      · rintro ⟨⟩
        exact ⟨[], head, l, rfl, by simp, hhead⟩
      · rintro ⟨front, a, rest, heq, hfront, ha⟩
        cases front with
        | nil =>
          obtain ⟨rfl, rfl⟩ := List.cons.inj heq
          rw [ha] at hhead
          cases hhead
          rfl
        | cons b front =>
          obtain ⟨rfl, _⟩ := List.cons.inj heq
          obtain ⟨c, hc⟩ := hfront head (List.mem_cons_self ..)
          rw [hc] at hhead
          cases hhead
    | ok b =>
      have hbind : (do let bs ← l.mapM f; pure (b :: bs) : Except E (List β)) = .error e ↔
          l.mapM f = .error e := by
        cases l.mapM f with
        | error e' => exact Iff.rfl
        | ok bs => exact ⟨by rintro ⟨⟩, by rintro ⟨⟩⟩
      refine hbind.trans (ih.trans ⟨?_, ?_⟩)
      · rintro ⟨front, a, rest, rfl, hfront, ha⟩
        exact ⟨head :: front, a, rest, rfl, List.forall_mem_cons.mpr ⟨⟨b, hhead⟩, hfront⟩, ha⟩
      · rintro ⟨front, a, rest, heq, hfront, ha⟩
        cases front with
        | nil =>
          obtain ⟨rfl, rfl⟩ := List.cons.inj heq
          rw [ha] at hhead
          cases hhead
        | cons c front =>
          obtain ⟨_, rfl⟩ := List.cons.inj heq
          exact ⟨front, a, rest, rfl, fun b hb => hfront b (List.mem_cons_of_mem _ hb), ha⟩

/-- Where an invariant tells which entries a fold takes, the fold succeeds on the lists all of
whose entries are taken in their turn. Induction on the list. -/
theorem exists_foldlM_eq_ok {Inv : List α → σ → Prop} {Takes : List α → α → Prop}
    (hstep : ∀ done s a, Inv done s → ((∃ s', g s a = .ok s') ↔ Takes done a))
    (hinv : ∀ done s a s', Inv done s → g s a = .ok s' → Inv (done ++ [a]) s') (done : List α)
    (s : σ) (hs : Inv done s) : (∃ s', l.foldlM g s = .ok s') ↔
      ∀ front a rest, l = front ++ a :: rest → Takes (done ++ front) a := by
  induction l generalizing done s with
  | nil => exact ⟨fun _ front a rest heq => by simp at heq, fun _ => ⟨s, rfl⟩⟩
  | cons head l ih =>
    rw [List.foldlM_cons]
    cases hhead : g s head with
    | error e =>
      constructor
      · rintro ⟨s', ⟨⟩⟩
      · intro h
        obtain ⟨s', hs'⟩ := (hstep done s head hs).mpr (by simpa using h [] head l rfl)
        rw [hs'] at hhead
        cases hhead
    | ok s₁ =>
      refine (ih (done ++ [head]) s₁ (hinv done s head s₁ hs hhead)).trans ⟨?_, ?_⟩
      · intro h front a rest heq
        cases front with
        | nil =>
          obtain ⟨rfl, rfl⟩ := List.cons.inj heq
          rw [List.append_nil]
          exact (hstep done s head hs).mp ⟨s₁, hhead⟩
        | cons b front =>
          obtain ⟨rfl, rfl⟩ := List.cons.inj heq
          simpa using h front a rest rfl
      · intro h front a rest heq
        have htaken := h (head :: front) a rest (by rw [heq]; rfl)
        simpa using htaken

theorem inv_of_foldlM_eq_ok {Inv : List α → σ → Prop}
    (hinv : ∀ done s a s', Inv done s → g s a = .ok s' → Inv (done ++ [a]) s') {done : List α}
    {s s' : σ} (hs : Inv done s) (h : l.foldlM g s = .ok s') : Inv (done ++ l) s' := by
  induction l generalizing done s with
  | nil =>
    cases h
    simpa using hs
  | cons a l ih =>
    rw [List.foldlM_cons] at h
    cases ha : g s a with
    | error e =>
      rw [ha] at h
      cases h
    | ok s₁ =>
      rw [ha] at h
      have hend := ih (hinv done s a s₁ hs ha) h
      simpa using hend

end Effects
