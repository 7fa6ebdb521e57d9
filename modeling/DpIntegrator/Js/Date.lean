import DpIntegrator.Js.Text

/-!
# Dates of JavaScript

A date is its time value, in milliseconds since 1970 in UTC. Texts in the ISO format
of the language, with a zone or without a time, are read here; what other texts mean
is left to the host.
-/

namespace Js

/-- The number of days from 1970-01-01 to a date of the Gregorian calendar. -/
def daysOfCivil (year : ℤ) (month day : ℕ) : ℤ :=
  let y := if month ≤ 2 then year - 1 else year
  let yearOfEra := y % 400
  let dayOfYear : ℤ := (153 * ((month + 9) % 12) + 2) / 5 + day - 1
  y / 400 * 146097 + (yearOfEra * 365 + yearOfEra / 4 - yearOfEra / 100 + dayOfYear) - 719468

/-- The year, month and day that lie a number of days after 1970-01-01. -/
def civilOfDays (days : ℤ) : ℤ × ℕ × ℕ :=
  let z := days + 719468
  let dayOfEra := z % 146097
  let yearOfEra := (dayOfEra - dayOfEra / 1460 + dayOfEra / 36524 - dayOfEra / 146096) / 365
  let dayOfYear := dayOfEra - (365 * yearOfEra + yearOfEra / 4 - yearOfEra / 100)
  let m := (5 * dayOfYear + 2) / 153
  let month := if m < 10 then m + 3 else m - 9
  let year := yearOfEra + z / 146097 * 400
  (if month ≤ 2 then year + 1 else year, month.toNat, (dayOfYear - (153 * m + 2) / 5 + 1).toNat)

/-- The days of a month. -/
def daysInMonth (year : ℤ) (month : ℕ) : ℕ :=
  if month = 2 then
    if year % 4 = 0 ∧ (year % 100 ≠ 0 ∨ year % 400 = 0) then 29 else 28
  else if month = 4 ∨ month = 6 ∨ month = 9 ∨ month = 11 then 30 else 31

/-- Read exactly `n` digits. -/
def readFixed (n : ℕ) (cs : List Char) : Option (ℕ × List Char) :=
  if (cs.take n).length = n ∧ (cs.take n).all Char.isDigit
  then some (Nat.ofDigitChars 10 (cs.take n) 0, cs.drop n) else none

/-- Read one given character. -/
def readChar (c : Char) : List Char → Option (List Char)
  | d :: cs => if d = c then some cs else none
  | [] => none

/-- The zone at the end of a time: its offset from UTC in minutes. -/
def readZone : List Char → Option ℤ
  | ['Z'] => some 0
  | sign :: cs => do
    guard (sign = '+' ∨ sign = '-')
    let (hours, cs) ← readFixed 2 cs
    let cs ← readChar ':' cs
    let (minutes, cs) ← readFixed 2 cs
    guard (cs = [] ∧ hours < 24 ∧ minutes < 60)
    some ((if sign = '-' then -1 else 1) * (hours * 60 + minutes : ℕ))
  | [] => none

/-- The seconds of a time in milliseconds, where it has any, and what follows. -/
def readSeconds (cs : List Char) : Option (ℕ × List Char) :=
  match cs with
  | ':' :: cs => do
    let (seconds, cs) ← readFixed 2 cs
    guard (seconds < 60)
    match cs with
    | '.' :: cs =>
      let digits := cs.takeWhile Char.isDigit
      guard (digits ≠ [])
      let millis := Nat.ofDigitChars 10 ((digits ++ ['0', '0']).take 3) 0
      some (seconds * 1000 + millis, cs.dropWhile Char.isDigit)
    | cs => some (seconds * 1000, cs)
  | cs => some (0, cs)

/-- The time value of a text in the ISO format that carries a zone or no time. -/
def readIso (cs : List Char) : Option ℤ := do
  let (year, cs) ← readFixed 4 cs
  let cs ← readChar '-' cs
  let (month, cs) ← readFixed 2 cs
  let cs ← readChar '-' cs
  let (day, cs) ← readFixed 2 cs
  guard (1 ≤ month ∧ month ≤ 12 ∧ 1 ≤ day ∧ day ≤ daysInMonth year month)
  let midnight := daysOfCivil year month day * 86400000
  match cs with
  | [] => some midnight
  | 'T' :: cs =>
    let (hours, cs) ← readFixed 2 cs
    let cs ← readChar ':' cs
    let (minutes, cs) ← readFixed 2 cs
    let (millis, cs) ← readSeconds cs
    let offset ← readZone cs
    guard (hours < 24 ∧ minutes < 60)
    some (midnight + (hours * 60 + minutes : ℕ) * 60000 + millis - offset * 60000)
  | _ => none

/-- `new Date(s)`, with the host's own reading of other texts; `none` is an invalid date. -/
def newDate (host : String → Option ℤ) (s : String) : Option ℤ :=
  (readIso s.toList).or (host s)

/-- The UTC calendar date `YYYY-MM-DD` of a time value, the year without padding. -/
def utcDay (t : ℤ) : String :=
  let (year, month, day) := civilOfDays (t / 86400000)
  toString year ++ "-" ++ padNumber 2 month ++ "-" ++ padNumber 2 day

/-- `date.toISOString()`. -/
def toISOString (t : ℤ) : String :=
  let (year, month, day) := civilOfDays (t / 86400000)
  let ms := (t % 86400000).toNat
  let yearText :=
    if 0 ≤ year ∧ year ≤ 9999 then padNumber 4 year.toNat
    else (if year < 0 then "-" else "+") ++ padNumber 6 year.natAbs
  yearText ++ "-" ++ padNumber 2 month ++ "-" ++ padNumber 2 day ++ "T" ++
    padNumber 2 (ms / 3600000) ++ ":" ++ padNumber 2 (ms / 60000 % 60) ++ ":" ++
    padNumber 2 (ms / 1000 % 60) ++ "." ++ padNumber 3 (ms % 1000) ++ "Z"

/-- A date and its text agree in both directions. -/
example : (newDate (fun _ => none) "2024-02-29T23:59:58.125+01:00").map toISOString =
    some "2024-02-29T22:59:58.125Z" := by decide +kernel

end Js
