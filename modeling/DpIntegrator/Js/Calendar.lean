import DpIntegrator.Js.Date
import Mathlib.Data.Int.Order.Basic
import Mathlib.Tactic.IntervalCases

/-!
# The calendar

The date of a day is a date of the Gregorian calendar, it gives the day back, and its text is read
as the midnight at which the day begins.
-/

namespace Js

/-! ## Days and dates -/

/-- The year of an era and the day of that year, from the day of the era. -/
theorem yearOfEra_spec {doe yoe : ℤ} (h0 : 0 ≤ doe) (h1 : doe < 146097)
    (hyoe : yoe = (doe - doe / 1460 + doe / 36524 - doe / 146096) / 365) :
    0 ≤ yoe ∧ yoe < 400 ∧ 0 ≤ doe - (365 * yoe + yoe / 4 - yoe / 100) ∧
      doe - (365 * yoe + yoe / 4 - yoe / 100) ≤ 365 ∧
      (doe - (365 * yoe + yoe / 4 - yoe / 100) = 365 →
        (yoe + 1) % 4 = 0 ∧ ((yoe + 1) % 100 ≠ 0 ∨ (yoe + 1) % 400 = 0)) := by
  by_cases hlast : doe = 146096
  · subst hlast
    norm_num at hyoe
    subst hyoe
    decide
  have he : doe / 146096 = 0 := by omega
  obtain ⟨c, hc⟩ : ∃ c, c = doe / 36524 := ⟨_, rfl⟩
  obtain ⟨a, ha⟩ : ∃ d, d = doe / 1460 := ⟨_, rfl⟩
  obtain ⟨q, hq⟩ : ∃ q, q = yoe / 4 := ⟨_, rfl⟩
  obtain ⟨s, hs⟩ : ∃ s, s = yoe % 4 := ⟨_, rfl⟩
  rw [he, ← hc, ← ha] at hyoe
  have hc0 : 0 ≤ c := by omega
  have hc3 : c ≤ 3 := by omega
  have hs0 : 0 ≤ s := by omega
  have hs3 : s ≤ 3 := by omega
  have hyq : yoe = 4 * q + s := by omega
  have hcentury : yoe / 100 = c := by
    interval_cases c <;> omega
  rw [← hq, hcentury]
  interval_cases c <;> interval_cases s <;> refine ⟨by omega, by omega, by omega, by omega, by omega⟩


/-- The months of a year that begins in March, with the first day of each. -/
theorem monthOfYear_spec {doy m : ℤ} (h0 : 0 ≤ doy) (h1 : doy ≤ 365) (hm : m = (5 * doy + 2) / 153) :
    0 ≤ m ∧ m ≤ 11 ∧ 0 ≤ doy - (153 * m + 2) / 5 ∧ doy - (153 * m + 2) / 5 ≤ 30 ∧
      (m = 1 ∨ m = 3 ∨ m = 6 ∨ m = 8 → doy - (153 * m + 2) / 5 ≤ 29) := by
  have hm0 : 0 ≤ m := by omega
  have hm11 : m ≤ 11 := by omega
  interval_cases m <;> omega

/-- The month of the calendar, from the month of a year that begins in March. -/
theorem month_spec {m : ℤ} (h0 : 0 ≤ m) (h1 : m ≤ 11) {month : ℕ}
    (hmonth : month = (if m < 10 then m + 3 else m - 9).toNat) :
    1 ≤ month ∧ month ≤ 12 ∧ ((month : ℤ) + 9) % 12 = m ∧ (month ≤ 2 ↔ 10 ≤ m) ∧
      ((if m < 10 then m + 3 else m - 9) ≤ 2 ↔ 10 ≤ m) ∧ (month = 2 ↔ m = 11) ∧
      (month = 4 ∨ month = 6 ∨ month = 9 ∨ month = 11 ↔ m = 1 ∨ m = 3 ∨ m = 6 ∨ m = 8) := by
  split at hmonth <;> rename_i h <;> simp only [h, if_true, if_false] <;> omega

/-- The day of a month lies in it: only in a leap year is there a 366th day. -/
theorem le_daysInMonth {year doy m : ℤ} {month : ℕ} (hdoy : doy ≤ 365)
    (hleap : doy = 365 → (year + 1) % 4 = 0 ∧ ((year + 1) % 100 ≠ 0 ∨ (year + 1) % 400 = 0))
    (hd30 : doy - (153 * m + 2) / 5 ≤ 30)
    (hshort : m = 1 ∨ m = 3 ∨ m = 6 ∨ m = 8 → doy - (153 * m + 2) / 5 ≤ 29)
    (hearly : month ≤ 2 ↔ 10 ≤ m) (htwo : month = 2 ↔ m = 11)
    (hthirty : month = 4 ∨ month = 6 ∨ month = 9 ∨ month = 11 ↔ m = 1 ∨ m = 3 ∨ m = 6 ∨ m = 8) :
    (doy - (153 * m + 2) / 5 + 1).toNat ≤
      daysInMonth (if month ≤ 2 then year + 1 else year) month := by
  unfold daysInMonth
  by_cases h11 : m = 11
  · rw [if_pos (htwo.mpr h11), if_pos (hearly.mpr (by omega))]
    subst h11
    by_cases hlast : doy = 365
    · rw [if_pos (hleap hlast)]
      omega
    · have hle : (doy - (153 * 11 + 2) / 5 + 1).toNat ≤ 28 := by omega
      split <;> omega
  · rw [if_neg fun h => h11 (htwo.mp h)]
    split
    · rename_i h
      have hle := hshort (hthirty.mp h)
      omega
    · omega

/-- The date of a day is a date of the calendar, and that day is the one of the date. -/
theorem civilOfDays_spec (days : ℤ) : ∃ year month day, civilOfDays days = (year, month, day) ∧
    1 ≤ month ∧ month ≤ 12 ∧ 1 ≤ day ∧ day ≤ daysInMonth year month ∧
    daysOfCivil year month day = days := by
  obtain ⟨z, hz⟩ : ∃ z, z = days + 719468 := ⟨_, rfl⟩
  obtain ⟨doe, hdoe⟩ : ∃ doe, doe = z % 146097 := ⟨_, rfl⟩
  have hdoe0 : 0 ≤ doe ∧ doe < 146097 := by omega
  obtain ⟨yoe, hyoe⟩ : ∃ yoe, yoe = (doe - doe / 1460 + doe / 36524 - doe / 146096) / 365 := ⟨_, rfl⟩
  obtain ⟨hyoe0, hyoe1, hdoy0, hdoy1, hleap⟩ := yearOfEra_spec hdoe0.1 hdoe0.2 hyoe
  obtain ⟨doy, hdoy⟩ : ∃ doy, doy = doe - (365 * yoe + yoe / 4 - yoe / 100) := ⟨_, rfl⟩
  rw [← hdoy] at hdoy0 hdoy1 hleap
  obtain ⟨m, hm⟩ : ∃ m, m = (5 * doy + 2) / 153 := ⟨_, rfl⟩
  obtain ⟨hm0, hm11, hd0, hd30, hshort⟩ := monthOfYear_spec hdoy0 hdoy1 hm
  obtain ⟨month, hmonth⟩ : ∃ month, month = (if m < 10 then m + 3 else m - 9).toNat := ⟨_, rfl⟩
  obtain ⟨hmonth0, hmonth1, hback, hearly, hearly', htwo, hthirty⟩ := month_spec hm0 hm11 hmonth
  obtain ⟨year, hyear⟩ : ∃ year, year = yoe + z / 146097 * 400 := ⟨_, rfl⟩
  have hera : year % 400 = yoe ∧ year / 400 = z / 146097 := by
    clear hyoe hdoe hleap hdoy hm hshort
    omega
  have hleap' : doy = 365 → (year + 1) % 4 = 0 ∧ ((year + 1) % 100 ≠ 0 ∨ (year + 1) % 400 = 0) := by
    intro h
    have hyoe := hleap h
    have hyear := hera.1
    clear hyoe hdoe hdoy hm hshort hera
    omega
  have hcivil : civilOfDays days =
      (if month ≤ 2 then year + 1 else year, month, (doy - (153 * m + 2) / 5 + 1).toNat) := by
    unfold civilOfDays
    simp only [← hz, ← hdoe, ← hyoe, ← hdoy, ← hm, ← hyear, ← hmonth, hearly, hearly']
  refine ⟨_, _, _, hcivil, hmonth0, hmonth1, ?_,
    le_daysInMonth hdoy1 hleap' hd30 hshort hearly htwo hthirty, ?_⟩
  · clear hyoe hdoe hleap hdoy hm hshort
    omega
  · have hsame : (if month ≤ 2 then (if month ≤ 2 then year + 1 else year) - 1
        else if month ≤ 2 then year + 1 else year) = year := by
      by_cases h : month ≤ 2
      · rw [if_pos h, if_pos h, Int.add_sub_cancel]
      · rw [if_neg h, if_neg h]
    have hofyear : (153 * (((month : ℤ) + 9) % 12) + 2) / 5 +
        ((doy - (153 * m + 2) / 5 + 1).toNat : ℤ) - 1 = doy := by
      rw [hback, Int.toNat_of_nonneg (by omega)]
      omega
    unfold daysOfCivil
    simp only [hsame, hofyear, hera.1, hera.2]
    clear hyoe hleap hleap' hm hshort hera
    omega

/-! ## Days and texts -/

/-- A padded number is read back. -/
theorem readFixed_padded {width n : ℕ} (hwidth : 0 < width) (h : n < 10 ^ width) (rest : List Char) :
    readFixed width (List.leftpad width '0' (Nat.toDigits 10 n) ++ rest) = some (n, rest) := by
  have hlength : (Nat.toDigits 10 n).length ≤ width :=
    (Nat.length_toDigits_le_iff (by decide) hwidth).mpr h
  have hpadded : (List.leftpad width '0' (Nat.toDigits 10 n)).length = width := by
    rw [List.length_leftpad]
    omega
  have htake : (List.leftpad width '0' (Nat.toDigits 10 n) ++ rest).take width =
      List.leftpad width '0' (Nat.toDigits 10 n) := List.take_left' hpadded
  have hdrop : (List.leftpad width '0' (Nat.toDigits 10 n) ++ rest).drop width = rest :=
    List.drop_left' hpadded
  have hdigits : (List.leftpad width '0' (Nat.toDigits 10 n)).all Char.isDigit = true := by
    unfold List.leftpad
    rw [List.all_append, List.all_replicate, Bool.and_eq_true]
    refine ⟨by simp, List.all_eq_true.mpr fun c hc => ?_⟩
    exact Nat.isDigit_of_mem_toDigits (by decide) (by decide) hc
  unfold readFixed
  rw [htake, hdrop, if_pos ⟨hpadded, hdigits⟩, ofDigitChars_leftpad]

/-- The text of a midnight is read as the beginning of the day of its date. -/
theorem readIso_midnight {cs cs₁ cs₂ : List Char} {year month day : ℕ}
    (hyear : readFixed 4 cs = some (year, '-' :: cs₁))
    (hmonth : readFixed 2 cs₁ = some (month, '-' :: cs₂))
    (hday : readFixed 2 cs₂ = some (day, "T00:00:00Z".toList))
    (hvalid : 1 ≤ month ∧ month ≤ 12 ∧ 1 ≤ day ∧ day ≤ daysInMonth year month) :
    readIso cs = some (daysOfCivil year month day * 86400000) := by
  have hchar (cs : List Char) : readChar '-' ('-' :: cs) = some cs := rfl
  unfold readIso
  rw [hyear]
  dsimp only [Option.bind_eq_bind, Option.bind_some]
  rw [hchar]
  dsimp only [Option.bind_some]
  rw [hmonth]
  dsimp only [Option.bind_some]
  rw [hchar]
  dsimp only [Option.bind_some]
  rw [hday]
  dsimp only [Option.bind_some]
  unfold guard
  rw [if_pos hvalid]
  calc _ = some (daysOfCivil year month day * 86400000 + ((0 * 60 + 0 : ℕ) : ℤ) * 60000 +
          (0 : ℕ) - 0 * 60000) := rfl
    _ = _ := by simp

/-- The year of a day has four digits. -/
def FourDigitYear (day : ℤ) : Prop :=
  1000 ≤ (civilOfDays day).1 ∧ (civilOfDays day).1 < 10000

theorem toDigits_of_four_digits {n : ℕ} (h : 1000 ≤ n) :
    List.leftpad 4 '0' (Nat.toDigits 10 n) = Nat.toDigits 10 n := by
  have hlength : ¬(Nat.toDigits 10 n).length ≤ 3 := by
    rw [Nat.length_toDigits_le_iff (by decide) (by decide)]
    omega
  unfold List.leftpad
  rw [Nat.sub_eq_zero_of_le (by omega)]
  rfl

theorem daysInMonth_lt (year : ℤ) (month : ℕ) : daysInMonth year month < 10 ^ 2 := by
  unfold daysInMonth
  split
  · split <;> omega
  · split <;> omega

/-- The midnight of the date of a day is read as the beginning of the day. -/
theorem newDate_utcDay (host : String → Option ℤ) {day : ℤ} (h : FourDigitYear day) :
    newDate host (utcDay (day * 86400000) ++ "T00:00:00Z") = some (day * 86400000) := by
  obtain ⟨year, month, dayOfMonth, hcivil, hmonth, hmonth', hday, hday', hback⟩ :=
    civilOfDays_spec day
  have hyear : 1000 ≤ year ∧ year < 10000 := by
    unfold FourDigitYear at h
    rwa [hcivil] at h
  obtain ⟨n, rfl⟩ := Int.eq_ofNat_of_zero_le (by omega : 0 ≤ year)
  have hdigits : (toString (n : ℤ)).toList = List.leftpad 4 '0' (Nat.toDigits 10 n) := by
    rw [toDigits_of_four_digits (by omega)]
    exact Nat.toList_repr
  have hquotient : day * 86400000 / 86400000 = day := by omega
  have htext : (utcDay (day * 86400000) ++ "T00:00:00Z").toList =
      List.leftpad 4 '0' (Nat.toDigits 10 n) ++ '-' :: (List.leftpad 2 '0' (Nat.toDigits 10 month) ++
        '-' :: (List.leftpad 2 '0' (Nat.toDigits 10 dayOfMonth) ++ "T00:00:00Z".toList)) := by
    have hdash : "-".toList = ['-'] := rfl
    unfold utcDay padNumber
    rw [hquotient, hcivil]
    simp only [String.toList_append, String.toList_ofList, hdigits, hdash, List.append_assoc,
      List.cons_append, List.nil_append]
  have hmax := daysInMonth_lt n month
  have hread := readIso_midnight (readFixed_padded (by decide) (by omega) _)
    (readFixed_padded (by decide) (by omega) _) (readFixed_padded (by decide) (by omega) _)
    ⟨hmonth, hmonth', hday, hday'⟩
  unfold newDate
  rw [htext, hread, hback, Option.some_or]

end Js
