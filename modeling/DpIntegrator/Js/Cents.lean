import DpIntegrator.Js.Number
import Mathlib.Data.List.Induction

/-!
# Whole cents

Numbers that are a whole number of hundredths. Sums and differences of them are again
whole hundredths, and rounding to hundredths leaves them alone. A sum is finite if and only
if its terms are.
-/

namespace Js

namespace Number

/-- The number of `c` hundredths. -/
def ofCents (c : ℤ) : Number := .fin (c / 100)

/-- The hundredths of a number that is a whole number of them. -/
def cents? : Number → Option ℤ
  | .fin q => if (q * 100).den = 1 then some (q * 100).num else none
  | _ => none

theorem cents?_eq_some {n : Number} {c : ℤ} : n.cents? = some c ↔ n = ofCents c := by
  constructor
  · intro h
    cases n with
    | fin q =>
      simp only [cents?, Option.ite_none_right_eq_some, Option.some.injEq] at h
      obtain ⟨hden, rfl⟩ := h
      have hq : ((q * 100).num : ℚ) = q * 100 := Rat.den_eq_one_iff _ |>.mp hden
      rw [ofCents, hq, mul_div_cancel_right₀ _ (by norm_num)]
    | inf s => cases h
    | nan => cases h
  · rintro rfl
    have hc : (c / 100 : ℚ) * 100 = c := div_mul_cancel₀ _ (by norm_num)
    simp [ofCents, cents?, hc]

@[simp] theorem cents?_ofCents (c : ℤ) : (ofCents c).cents? = some c := cents?_eq_some.mpr rfl

theorem ofCents_inj {a b : ℤ} : ofCents a = ofCents b ↔ a = b := by
  constructor
  · intro h
    have h' := cents?_ofCents a
    rw [h, cents?_ofCents] at h'
    exact (Option.some.inj h').symm
  · rintro rfl
    rfl

/-- Printing a number with two decimals keeps it if and only if it is a whole number of cents. -/
theorem parseFloat_toFixed2_eq_iff {q : ℚ} :
    parseFloat (fin q).toFixed2 = .fin q ↔ ∃ c : ℤ, q = c / 100 := by
  obtain ⟨c, hparsed, hnear⟩ := parseFloat_toFixed2 q
  rw [hparsed]
  constructor
  · intro heq
    exact ⟨c, (fin.inj heq).symm⟩
  · rintro ⟨c', rfl⟩
    have hclose : |(c - c' : ℚ)| < 1 := by
      rw [← sub_div, abs_div, abs_of_pos (by norm_num : (0 : ℚ) < 100)] at hnear
      linarith
    have hint : |c - c'| < 1 := by exact_mod_cast hclose
    have hzero := Int.abs_lt_one_iff.mp hint
    have hsame : c = c' := by omega
    rw [hsame]

@[simp] theorem ofCents_zero : ofCents 0 = 0 := by
  change Number.fin ((0 : ℤ) / 100) = .fin (0 : ℕ)
  norm_num

@[simp] theorem ofCents_add (a b : ℤ) : ofCents a + ofCents b = ofCents (a + b) := by
  rw [ofCents, ofCents, ofCents, fin_add_fin, Int.cast_add, add_div]

@[simp] theorem ofCents_sub (a b : ℤ) : ofCents a - ofCents b = ofCents (a - b) := by
  rw [ofCents, ofCents, ofCents, fin_sub_fin, Int.cast_sub, sub_div]

@[simp] theorem neg_ofCents (a : ℤ) : -ofCents a = ofCents (-a) := by
  rw [ofCents, ofCents, neg_fin, Int.cast_neg, neg_div]

@[simp] theorem abs_ofCents (a : ℤ) : (ofCents a).abs = ofCents |a| := by
  rw [ofCents, ofCents, abs, abs_div, Int.cast_abs]
  norm_num

theorem ofCents_lt_ofCents {a b : ℤ} : (ofCents a).lt (ofCents b) = decide (a < b) := by
  have h : ((a : ℚ) / 100 < b / 100) ↔ a < b := by
    rw [div_lt_div_iff_of_pos_right (by norm_num), Int.cast_lt]
  simp [ofCents, lt, h]

theorem ofCents_eq_zero {a : ℤ} : ofCents a = 0 ↔ a = 0 := by
  rw [← ofCents_zero, ofCents_inj]

@[simp] theorem isNaN_ofCents (a : ℤ) : (ofCents a).isNaN = false := rfl
@[simp] theorem isFinite_ofCents (a : ℤ) : (ofCents a).isFinite = true := rfl

/-- Rounding to hundredths gives whole hundredths. -/
theorem round_fin (q : ℚ) : (Number.fin q * 100).round / 100 = ofCents ⌊q * 100 + 1 / 2⌋ := by
  have hmul : Number.fin q * 100 = .fin (q * 100) := by
    change Number.fin (q * (100 : ℕ)) = _
    norm_num
  rw [hmul, round]
  change Number.div (.fin _) (.fin (100 : ℕ)) = _
  simp [div, ofCents]

/-- Rounding a number to hundredths leaves whole hundredths alone. -/
theorem round_ofCents (a : ℤ) : (ofCents a * 100).round / 100 = ofCents a := by
  have hhalf : ⌊(1 / 2 : ℚ)⌋ = 0 := by norm_num
  have hwhole : (a / 100 : ℚ) * 100 = a := div_mul_cancel₀ _ (by norm_num)
  rw [ofCents, round_fin, hwhole, Int.floor_intCast_add, hhalf, add_zero, ofCents]

/-! ## Sums -/

protected theorem add_assoc (a b c : Number) : a + b + c = a + (b + c) := by
  change add (add a b) c = add a (add b c)
  rcases a with a | (_ | _) | _ <;> rcases b with b | (_ | _) | _ <;>
    rcases c with c | (_ | _) | _ <;> simp [add, add_assoc]

protected theorem add_zero (a : Number) : a + 0 = a := by
  change add a (.fin (0 : ℕ)) = a
  cases a <;> simp [add]

theorem isFinite_add (a b : Number) : (a + b).isFinite = (a.isFinite && b.isFinite) := by
  change (add a b).isFinite = _
  rcases a with a | (_ | _) | _ <;> rcases b with b | (_ | _) | _ <;> rfl

theorem isFinite_sub (a b : Number) : (a - b).isFinite = (a.isFinite && b.isFinite) := by
  have hneg : (-b).isFinite = b.isFinite := by cases b <;> rfl
  change (a + -b).isFinite = _
  rw [isFinite_add, hneg]

/-- The sum of some numbers, from the left. -/
def total (ns : List Number) : Number := ns.foldl (· + ·) 0

theorem foldl_add (ns : List Number) (a : Number) : ns.foldl (· + ·) a = a + total ns := by
  unfold total
  induction ns using List.reverseRecOn with
  | nil => exact (Number.add_zero a).symm
  | append_singleton ns n ih => simp only [List.foldl_concat, ih, Number.add_assoc]

theorem total_append (ns ns' : List Number) : total (ns ++ ns') = total ns + total ns' := by
  unfold total
  rw [List.foldl_append, foldl_add]
  rfl

/-- A sum is finite if and only if all its terms are. -/
theorem isFinite_total (ns : List Number) :
    (total ns).isFinite = true ↔ ∀ n ∈ ns, n.isFinite = true := by
  induction ns using List.reverseRecOn with
  | nil => exact ⟨fun _ _ hn => absurd hn List.not_mem_nil, fun _ => rfl⟩
  | append_singleton ns n ih =>
    have hconcat : total (ns ++ [n]) = total ns + n := List.foldl_concat ..
    rw [hconcat, isFinite_add, Bool.and_eq_true, ih]
    simp only [List.mem_append, List.mem_singleton]
    constructor
    · rintro ⟨hns, hn⟩ m (hm | rfl)
      · exact hns m hm
      · exact hn
    · exact fun h => ⟨fun m hm => h m (.inl hm), h n (.inr rfl)⟩

/-- Rounding to hundredths leaves the number alone. -/
def InCents (n : Number) : Prop := n.isFinite = true → ∃ c, n = ofCents c

theorem inCents_round (n : Number) : InCents ((n * 100).round / 100) := by
  intro hfinite
  cases n with
  | fin q => exact ⟨_, round_fin q⟩
  | inf s => cases s <;> cases hfinite
  | nan => cases hfinite

theorem InCents.round_eq {n : Number} (h : n.InCents) : (n * 100).round / 100 = n := by
  cases n with
  | fin q =>
    obtain ⟨c, hc⟩ := h rfl
    rw [hc, round_ofCents]
  | inf s => cases s <;> rfl
  | nan => rfl

theorem InCents.add {a b : Number} (ha : a.InCents) (hb : b.InCents) : (a + b).InCents := by
  intro hfinite
  rw [isFinite_add, Bool.and_eq_true] at hfinite
  obtain ⟨c, rfl⟩ := ha hfinite.1
  obtain ⟨d, rfl⟩ := hb hfinite.2
  exact ⟨c + d, ofCents_add c d⟩

theorem InCents.sub {a b : Number} (ha : a.InCents) (hb : b.InCents) : (a - b).InCents := by
  intro hfinite
  rw [isFinite_sub, Bool.and_eq_true] at hfinite
  obtain ⟨c, rfl⟩ := ha hfinite.1
  obtain ⟨d, rfl⟩ := hb hfinite.2
  exact ⟨c - d, ofCents_sub c d⟩

theorem InCents.total {ns : List Number} (h : ∀ n ∈ ns, n.InCents) : (total ns).InCents := by
  induction ns using List.reverseRecOn with
  | nil => exact fun _ => ⟨0, ofCents_zero.symm⟩
  | append_singleton ns n ih =>
    have hconcat : Number.total (ns ++ [n]) = Number.total ns + n := List.foldl_concat ..
    rw [hconcat]
    exact (ih fun m hm => h m (List.mem_append_left _ hm)).add (h n (by simp))

end Number

/-- Whole cents survive being printed with two decimals. -/
theorem toNumber_toFixed2_ofCents (c : ℤ) : toNumber (Number.ofCents c).toFixed2 = .ofCents c :=
  toNumber_toFixed2 c

end Js
