import DpIntegrator.Core.Keys
import Mathlib.Data.Nat.Digits.Defs

/-!
# Holder ids

A holder id is made of a label, the time and a sequence number, joined by underscores; the
time and the number are written in base 36. The number comes last and its text has no
underscore, so ids made at different numbers differ, whatever their labels and times.
-/

namespace Js

/-- A digit of `x.toString(36)`. -/
def digit36 (d : ℕ) : Char := if d < 10 then Char.ofNat (48 + d) else Char.ofNat (87 + d)

/-- The digits of a natural number in base 36, the lowest first. -/
def digits36 (n : ℕ) : List ℕ := if n = 0 then [0] else Nat.digits 36 n

/-- `n.toString(36)` of a natural number. -/
def natToBase36 (n : ℕ) : String := String.ofList ((digits36 n).reverse.map digit36)

/-- `x.toString(36)` of an integer. -/
def intToBase36 (x : ℤ) : String :=
  if x < 0 then "-" ++ natToBase36 x.natAbs else natToBase36 x.natAbs

/-- The value of a digit in base 36. -/
def value36 (c : Char) : ℕ := if c.toNat < 58 then c.toNat - 48 else c.toNat - 87

/-- The number that a text in base 36 stands for. -/
def readBase36 (s : String) : ℕ := Nat.ofDigits 36 (s.toList.reverse.map value36)

theorem value36_digit36 : ∀ d < 36, value36 (digit36 d) = d := by decide

theorem digit36_ne_underscore : ∀ d < 36, digit36 d ≠ '_' := by decide

theorem lt_of_mem_digits36 {n d : ℕ} (h : d ∈ digits36 n) : d < 36 := by
  unfold digits36 at h
  split at h
  · rw [List.mem_singleton.mp h]
    omega
  · exact Nat.digits_lt_base (by omega) h

theorem ofDigits_digits36 (n : ℕ) : Nat.ofDigits 36 (digits36 n) = n := by
  unfold digits36
  split
  · next hzero =>
    rw [hzero]
    rfl
  · exact Nat.ofDigits_digits 36 n

/-- Reading what was written gives the number back. -/
theorem readBase36_natToBase36 (n : ℕ) : readBase36 (natToBase36 n) = n := by
  have hvalues : (digits36 n).map (value36 ∘ digit36) = digits36 n := by
    rw [List.map_congr_left (g := id), List.map_id]
    intro d hd
    exact value36_digit36 d (lt_of_mem_digits36 hd)
  unfold readBase36 natToBase36
  rw [String.toList_ofList, ← List.map_reverse, List.reverse_reverse, List.map_map, hvalues,
    ofDigits_digits36]

theorem natToBase36_inj {m n : ℕ} (h : natToBase36 m = natToBase36 n) : m = n := by
  rw [← readBase36_natToBase36 m, h, readBase36_natToBase36]

theorem underscore_notMem_natToBase36 (n : ℕ) : '_' ∉ (natToBase36 n).toList := by
  unfold natToBase36
  rw [String.toList_ofList]
  intro hmem
  obtain ⟨d, hd, heq⟩ := List.mem_map.mp hmem
  exact digit36_ne_underscore d (lt_of_mem_digits36 (List.mem_reverse.mp hd)) heq

end Js

namespace DpIntegrator

/-- `newHolderId`: the id made from the label `label` at the time `now`, when `holderSeq` ids
were made before it, and the number of ids made since. -/
def newHolderId (label : String) (now : ℤ) (holderSeq : ℕ) : String × ℕ :=
  (label ++ "_" ++ Js.intToBase36 now ++ "_" ++ Js.natToBase36 (holderSeq + 1), holderSeq + 1)

/-- Ids made at different sequence numbers differ. -/
theorem newHolderId_inj {label label' : String} {now now' : ℤ} {m n : ℕ}
    (h : (newHolderId label now m).1 = (newHolderId label' now' n).1) : m = n := by
  have hchars := congrArg String.toList h
  have hunderscore : "_".toList = ['_'] := rfl
  simp only [newHolderId, String.toList_append, hunderscore] at hchars
  have hlast := Js.append_singleton_append_inj (Js.underscore_notMem_natToBase36 _)
    (Js.underscore_notMem_natToBase36 _) hchars
  have hnumbers := Js.natToBase36_inj (String.toList_inj.mp hlast)
  omega

end DpIntegrator
