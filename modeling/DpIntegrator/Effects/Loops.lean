import DpIntegrator.Effects.Throwing
import DpIntegrator.Effects.World

/-!
# Loops whose body may throw

A loop runs its body for one element after another. Nothing catches what the body throws, so
the loop stops at the first element whose body does. Where the calls belong to the elements,
this decides which elements are spared when others fail.
-/

namespace Effects

variable {C : Type} {R : C → Type} {E α β κ W : Type} {xs : List α} {tr : List (Event C R)}

/-- How a loop over `xs` settles, when its body settles at `x` as `ends x` says. -/
inductive Loops (ends : α → List (Event C R) → Except E β → Prop) :
    List α → List (Event C R) → Except E (List β) → Prop
  | done : Loops ends [] [] (.ok [])
  | thrown {x : α} {xs : List α} {t : List (Event C R)} {e : E} (h : ends x t (.error e)) :
      Loops ends (x :: xs) t (.error e)
  | next {x : α} {xs : List α} {t tr : List (Event C R)} {b : β} {res : Except E (List β)}
      (h : ends x t (.ok b)) (hrest : Loops ends xs tr res) :
      Loops ends (x :: xs) (t ++ tr) (res.map (b :: ·))

variable {ends ends' : α → List (Event C R) → Except E β → Prop} {res : Except E (List β)}

theorem loops_of_settles {body : α → Throwing E C R β} (h : Settles (xs.mapM body) tr res) :
    Loops (fun x => Settles (body x)) xs tr res := by
  induction xs generalizing tr res with
  | nil =>
    rw [List.mapM_nil] at h
    obtain ⟨rfl, rfl⟩ := settles_pure.mp h
    exact .done
  | cons x xs ih =>
    rw [List.mapM_cons] at h
    obtain ⟨e, rfl, hx⟩ | ⟨b, t₁, t₂, rfl, hx, hrest⟩ := settles_bind.mp h
    · exact .thrown hx
    · obtain ⟨e, rfl, hxs⟩ | ⟨bs, t₃, t₄, rfl, hxs, hpure⟩ := settles_bind.mp hrest
      · exact .next (x := x) hx (ih hxs)
      · obtain ⟨rfl, rfl⟩ := settles_pure.mp hpure
        rw [List.append_nil]
        exact .next (x := x) hx (ih hxs)

/-- What holds of the iterations of a loop, whose calls are among those of the loop. -/
theorem Loops.mono (h : Loops ends xs tr res)
    (hmono : ∀ x ∈ xs, ∀ t r, t ⊆ tr → ends x t r → ends' x t r) : Loops ends' xs tr res := by
  induction h with
  | done => exact .done
  | thrown h => exact .thrown (hmono _ (List.mem_cons_self ..) _ _ (List.Subset.refl _) h)
  | next h _ ih =>
    refine .next (hmono _ (List.mem_cons_self ..) _ _ (List.subset_append_left ..) h) (ih ?_)
    intro x hx t r ht
    exact hmono x (List.mem_cons_of_mem _ hx) t r (List.subset_append_of_subset_right _ ht)

/-- A call of a loop is a call of one of its iterations. -/
theorem Loops.exists_mem (h : Loops ends xs tr res) {ev : Event C R} (hev : ev ∈ tr) :
    ∃ x ∈ xs, ∃ t r, ends x t r ∧ ev ∈ t := by
  induction h with
  | done => cases hev
  | thrown h => exact ⟨_, List.mem_cons_self .., _, _, h, hev⟩
  | next h _ ih =>
    obtain hev | hev := List.mem_append.mp hev
    · exact ⟨_, List.mem_cons_self .., _, _, h, hev⟩
    · obtain ⟨x, hx, t, r, hends, hev⟩ := ih hev
      exact ⟨x, List.mem_cons_of_mem _ hx, t, r, hends, hev⟩

/-- A loop that is not empty runs its body for the first element. -/
theorem Loops.exists_first {x : α} (h : Loops ends (x :: xs) tr res) :
    ∃ t r, ends x t r ∧ t ⊆ tr ∧ ((∃ bs, res = .ok bs) → ∃ b, r = .ok b) := by
  cases h with
  | thrown h => exact ⟨_, _, h, List.Subset.refl _, by simp⟩
  | next h => exact ⟨_, _, h, List.subset_append_left .., fun _ => ⟨_, rfl⟩⟩

/-- A loop that ends with a result ran its body for every element. -/
theorem Loops.exists_of_ok {bs : List β} (h : Loops ends xs tr (.ok bs)) {x : α} (hx : x ∈ xs) :
    ∃ t b, ends x t (.ok b) := by
  generalize hres : (Except.ok bs : Except E (List β)) = res at h
  induction h generalizing bs with
  | done => cases hx
  | thrown => cases hres
  | @next y xs t tr b res h _ ih =>
    obtain rfl | hx := List.mem_cons.mp hx
    · exact ⟨t, b, h⟩
    · cases res with
      | error e => cases hres
      | ok bs' => exact ih hx rfl

/-- A loop that ends with results ran its body for every element, whose result is one of them. -/
theorem Loops.exists_result {bs : List β} (h : Loops ends xs tr (.ok bs)) {x : α} (hx : x ∈ xs) :
    ∃ t b, ends x t (.ok b) ∧ b ∈ bs ∧ t ⊆ tr := by
  generalize hres : (Except.ok bs : Except E (List β)) = res at h
  induction h generalizing bs with
  | done => cases hx
  | thrown => cases hres
  | @next y xs t tr b res h _ ih =>
    cases res with
    | error e => cases hres
    | ok bs' =>
      obtain rfl : bs = b :: bs' := Except.ok.inj hres
      obtain rfl | hx := List.mem_cons.mp hx
      · exact ⟨t, b, h, List.mem_cons_self, List.subset_append_left ..⟩
      · obtain ⟨t', b', hends, hmem, hsub⟩ := ih hx rfl
        exact ⟨t', b', hends, List.mem_cons_of_mem _ hmem,
          List.subset_append_of_subset_right _ hsub⟩

/-- Every result of a loop is the result of one of its iterations. -/
theorem Loops.exists_of_result {bs : List β} (h : Loops ends xs tr (.ok bs)) {b : β} (hb : b ∈ bs) :
    ∃ x ∈ xs, ∃ t, ends x t (.ok b) ∧ t ⊆ tr := by
  generalize hres : (Except.ok bs : Except E (List β)) = res at h
  induction h generalizing bs with
  | done =>
    obtain rfl := Except.ok.inj hres
    cases hb
  | thrown => cases hres
  | @next y xs t tr c res h _ ih =>
    cases res with
    | error e => cases hres
    | ok bs' =>
      obtain rfl : bs = c :: bs' := Except.ok.inj hres
      obtain rfl | hb := List.mem_cons.mp hb
      · exact ⟨y, List.mem_cons_self, t, h, List.subset_append_left ..⟩
      · obtain ⟨x, hx, t', hends, hsub⟩ := ih hb rfl
        exact ⟨x, List.mem_cons_of_mem _ hx, t', hends,
          List.subset_append_of_subset_right _ hsub⟩

/-- Every iteration of a loop was answered by a world that is for its element as the first
world was: the iterations before it leave alone what it depends on. -/
theorem Loops.steps {step : (c : C) → W → R c → W → Prop} {w w' : W} {I : α → W → Prop}
    {apart : α → α → Prop} (h : Loops ends xs tr res) (hsteps : Steps step w tr w')
    (hapart : xs.Pairwise apart) (hI : ∀ x ∈ xs, I x w)
    (hframe : ∀ x y t r v v', apart x y → ends x t r → Steps step v t v' → I y v → I y v') :
    Loops (fun x t r => ends x t r ∧ ∃ v v', I x v ∧ Steps step v t v') xs tr res := by
  induction h generalizing w with
  | done => exact .done
  | thrown h => exact .thrown ⟨h, w, w', hI _ (List.mem_cons_self ..), hsteps⟩
  | @next x xs t tr b res h _ ih =>
    obtain ⟨w₁, hfirst, hrest⟩ := steps_append.mp hsteps
    obtain ⟨hx, hxs⟩ := List.pairwise_cons.mp hapart
    refine .next ⟨h, w, w₁, hI _ (List.mem_cons_self ..), hfirst⟩ (ih hrest hxs fun y hy => ?_)
    exact hframe x y t _ w w₁ (hx y hy) h hfirst (hI y (List.mem_cons_of_mem _ hy))

/-- What every call of the body is, every call of the loop is. -/
theorem Issues.mapM {kind : Event C R → Prop} {body : α → Throwing E C R β}
    (h : ∀ x ∈ xs, Issues kind (body x)) : Issues kind (xs.mapM body) := by
  intro tr res hs ev hev
  obtain ⟨x, hx, t, r, hbody, hev⟩ := (loops_of_settles hs).exists_mem hev
  exact h x hx t r hbody ev hev

/-! ## Errors that escape -/

/-- The program throws exactly when one of its calls failed. -/
def Escapes (failed : Event C R → Prop) (x : Throwing E C R α) : Prop :=
  ∀ tr res, Settles x tr res → ((∃ e, res = .error e) ↔ ∃ ev ∈ tr, failed ev)

namespace Escapes

variable {failed : Event C R → Prop}

theorem pure (a : α) : Escapes failed (pure a : Throwing E C R α) := by
  intro tr res h
  obtain ⟨rfl, rfl⟩ := settles_pure.mp h
  simp

theorem observe {c : C} (h : ∀ r, ¬failed ⟨c, r⟩) :
    Escapes failed (Throwing.observe c : Throwing E C R (R c)) := by
  intro tr res hs
  obtain ⟨r, rfl, rfl⟩ := settles_observe.mp hs
  simp [h r]

theorem bind {x : Throwing E C R α} {f : α → Throwing E C R β} (hx : Escapes failed x)
    (hf : ∀ a, Escapes failed (f a)) : Escapes failed (x >>= f) := by
  intro tr res h
  obtain ⟨e, rfl, h₁⟩ | ⟨a, t₁, t₂, rfl, h₁, h₂⟩ := settles_bind.mp h
  · have hfirst := hx _ _ h₁
    exact ⟨fun _ => hfirst.mp ⟨e, rfl⟩, fun _ => ⟨e, rfl⟩⟩
  · have hfirst : ¬∃ ev ∈ t₁, failed ev := by
      rw [← hx _ _ h₁]
      simp
    rw [hf a _ _ h₂]
    constructor
    · intro hlater
      obtain ⟨ev, hev, hfailed⟩ := hlater
      exact ⟨ev, List.mem_append_right _ hev, hfailed⟩
    · intro hall
      obtain ⟨ev, hev, hfailed⟩ := hall
      obtain hev | hev := List.mem_append.mp hev
      · exact absurd ⟨ev, hev, hfailed⟩ hfirst
      · exact ⟨ev, hev, hfailed⟩

theorem mapM {body : α → Throwing E C R β} (h : ∀ x, Escapes failed (body x)) :
    Escapes failed (xs.mapM body) := by
  induction xs with
  | nil =>
    rw [List.mapM_nil]
    exact .pure _
  | cons x xs ih =>
    rw [List.mapM_cons]
    exact (h x).bind fun b => ih.bind fun bs => .pure _

end Escapes

/-! ## Who is spared -/

section Owners

variable {owner : Event C R → Option κ} {failed : Event C R → Prop} {write : Event C R → Bool}
  {failing : κ → Prop} {id : α → κ} {Ws : α → List (Event C R)}

/-- An iteration makes calls of its own element, or of none; it makes one at least; and it
throws exactly when a call failed. -/
structure Iteration (owner : Event C R → Option κ) (failed : Event C R → Prop) (k : κ)
    (t : List (Event C R)) (res : Except E β) : Prop where
  own : ∀ ev ∈ t, ∀ k', owner ev = some k' → k' = k
  starts : ∃ ev ∈ t, owner ev = some k
  escapes : (∃ e, res = .error e) ↔ ∃ ev ∈ t, failed ev

/-- The calls of a loop belong to its elements. -/
theorem Loops.owned (h : Loops ends xs tr res)
    (hends : ∀ x t r, ends x t r → Iteration owner failed (id x) t r) {ev : Event C R} {k : κ}
    (hev : ev ∈ tr) (howner : owner ev = some k) : ∃ x ∈ xs, k = id x := by
  obtain ⟨x, hx, t, r, h, hev⟩ := h.exists_mem hev
  exact ⟨x, hx, (hends x t r h).own ev hev k howner⟩

/-- A loop that throws has a failing call. -/
theorem Loops.exists_failed {e : E} (h : Loops ends xs tr (.error e))
    (hends : ∀ x t r, ends x t r → Iteration owner failed (id x) t r) : ∃ ev ∈ tr, failed ev := by
  generalize hres : (Except.error e : Except E (List β)) = res at h
  induction h with
  | done => cases hres
  | @thrown x xs t e' h => exact (hends x t _ h).escapes.mp ⟨e', rfl⟩
  | @next x xs t tr b res _ _ ih =>
    cases res with
    | ok bs => cases hres
    | error e' =>
      obtain rfl : e = e' := Except.error.inj hres
      obtain ⟨ev, hev, hfailed⟩ := ih rfl
      exact ⟨ev, List.mem_append_right _ hev, hfailed⟩

variable [DecidableEq κ]

/-- The writes of an element, in order. -/
def writesOf (owner : Event C R → Option κ) (write : Event C R → Bool) (k : κ)
    (tr : List (Event C R)) : List (Event C R) :=
  tr.filter fun ev => owner ev = some k && write ev

theorem writesOf_append (k : κ) (t₁ t₂ : List (Event C R)) :
    writesOf owner write k (t₁ ++ t₂) = writesOf owner write k t₁ ++ writesOf owner write k t₂ :=
  List.filter_append ..

theorem writesOf_eq_nil {k : κ} (h : ∀ ev ∈ tr, owner ev ≠ some k) :
    writesOf owner write k tr = [] := by
  refine List.filter_eq_nil_iff.mpr fun ev hev => ?_
  simp [h ev hev]

/-- In a loop whose failing calls belong to failing elements, and which reaches no failing
element without a failing call, the other elements write what they would write if and only if
no failing element stands before one of them. Induction on the loop: it stops at the first
failing element. -/
theorem Loops.spares_iff (h : Loops ends xs tr res)
    (hends : ∀ x t r, ends x t r → Iteration owner failed (id x) t r)
    (hwrites : ∀ x t b, ends x t (.ok b) → writesOf owner write (id x) t = Ws x)
    (hsome : ∀ x ∈ xs, Ws x ≠ []) (hdistinct : xs.Pairwise fun x y => id x ≠ id y)
    (honly : ∀ ev ∈ tr, failed ev → ∃ k, owner ev = some k ∧ failing k)
    (hreached : ∀ k, failing k → (∃ ev ∈ tr, owner ev = some k) →
      ∃ ev ∈ tr, owner ev = some k ∧ failed ev) :
    (∀ x ∈ xs, ¬failing (id x) → writesOf owner write (id x) tr = Ws x) ↔
      xs.Pairwise fun x y => failing (id x) → failing (id y) := by
  induction h with
  | done => simp
  | @thrown x xs t e h =>
    have hit := hends x t _ h
    obtain ⟨hx, _⟩ := List.pairwise_cons.mp hdistinct
    have hfailing : failing (id x) := by
      obtain ⟨ev, hev, hfailed⟩ := hit.escapes.mp ⟨e, rfl⟩
      obtain ⟨k, howner, hk⟩ := honly ev hev hfailed
      rwa [hit.own ev hev k howner] at hk
    have hnone : ∀ y ∈ xs, writesOf owner write (id y) t = [] := by
      intro y hy
      refine writesOf_eq_nil fun ev hev howner => ?_
      exact hx y hy (hit.own ev hev _ howner).symm
    rw [List.pairwise_cons]
    constructor
    · intro hspared
      have hall : ∀ y ∈ xs, failing (id y) := by
        intro y hy
        by_contra hy'
        have hkept := hspared y (List.mem_cons_of_mem _ hy) hy'
        rw [hnone y hy] at hkept
        exact hsome y (List.mem_cons_of_mem _ hy) hkept.symm
      refine ⟨fun y hy _ => hall y hy, ?_⟩
      exact List.pairwise_of_forall_mem_list fun _ _ y hy _ => hall y hy
    · intro hlast y hy hy'
      obtain rfl | hy := List.mem_cons.mp hy
      · exact absurd hfailing hy'
      · exact absurd (hlast.1 y hy hfailing) hy'
  | @next x xs t tr b res h hrest ih =>
    have hit := hends x t _ h
    obtain ⟨hx, hxs⟩ := List.pairwise_cons.mp hdistinct
    have hnone : ¬∃ ev ∈ t, failed ev := by
      rw [← hit.escapes]
      simp
    have hlater : ∀ ev ∈ tr, owner ev ≠ some (id x) := by
      intro ev hev howner
      obtain ⟨y, hy, heq⟩ := hrest.owned hends hev howner
      exact hx y hy heq
    have hspared : ¬failing (id x) := by
      intro hfailing
      obtain ⟨ev, hev, howner⟩ := hit.starts
      obtain ⟨ev', hev', howner', hfailed⟩ :=
        hreached _ hfailing ⟨ev, List.mem_append_left _ hev, howner⟩
      obtain hev' | hev' := List.mem_append.mp hev'
      · exact hnone ⟨ev', hev', hfailed⟩
      · exact hlater ev' hev' howner'
    have hfirst : writesOf owner write (id x) (t ++ tr) = Ws x := by
      rw [writesOf_append, hwrites x t b h, writesOf_eq_nil hlater, List.append_nil]
    have hothers : ∀ y ∈ xs, writesOf owner write (id y) (t ++ tr) = writesOf owner write (id y) tr := by
      intro y hy
      rw [writesOf_append, writesOf_eq_nil, List.nil_append]
      intro ev hev howner
      exact hx y hy (hit.own ev hev _ howner).symm
    have hmain := ih (fun y hy => hsome y (List.mem_cons_of_mem _ hy)) hxs
      (fun ev hev => honly ev (List.mem_append_right _ hev)) fun k hk hev => by
        obtain ⟨ev, hev, howner⟩ := hev
        obtain ⟨ev', hev', howner', hfailed⟩ :=
          hreached k hk ⟨ev, List.mem_append_right _ hev, howner⟩
        obtain hev' | hev' := List.mem_append.mp hev'
        · exact absurd ⟨ev', hev', hfailed⟩ hnone
        · exact ⟨ev', hev', howner', hfailed⟩
    rw [List.pairwise_cons, ← hmain]
    constructor
    · intro hall
      refine ⟨fun y _ hfailing => absurd hfailing hspared, fun y hy hy' => ?_⟩
      rw [← hothers y hy]
      exact hall y (List.mem_cons_of_mem _ hy) hy'
    · intro hall y hy hy'
      obtain rfl | hy := List.mem_cons.mp hy
      · exact hfirst
      · rw [hothers y hy]
        exact hall.2 y hy hy'

end Owners

end Effects
