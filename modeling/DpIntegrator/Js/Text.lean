import DpIntegrator.Js.Number
import Mathlib.Data.Bool.AllAny

/-!
# Text operations of JavaScript

Strings are read character by character. Patterns are matchers anchored at a
position that also see the character before it, so that word boundaries can be
tested; `search` tries a matcher at every position from the left.
-/

namespace Js

/-! ## Splitting and searching -/

/-- The parts of `cs` between occurrences of `sep`. -/
def splitChars (sep : Char) : List Char → List (List Char)
  | [] => [[]]
  | c :: cs =>
    if c = sep then [] :: splitChars sep cs
    else match splitChars sep cs with
      | [] => [[c]]
      | part :: rest => (c :: part) :: rest

/-- `s.split(sep)` for a separator of one character. -/
def split (s : String) (sep : Char) : List String := (splitChars sep s.toList).map String.ofList

theorem splitChars_ne_nil (sep : Char) (cs : List Char) : splitChars sep cs ≠ [] := by
  cases cs with
  | nil => simp [splitChars]
  | cons c cs =>
    rw [splitChars]
    split
    · simp
    · split <;> simp

/-- `needle` occurs in `cs`. -/
def occurs (needle : List Char) : List Char → Bool
  | [] => needle.isEmpty
  | c :: cs => needle.isPrefixOf (c :: cs) || occurs needle cs

/-- `s.includes(needle)`. -/
def includes (s needle : String) : Bool := occurs needle.toList s.toList

/-- The digits after the last `/`, as `/\/(\d+)$/` captures them. -/
def trailingNumber (s : String) : Option String :=
  match (splitChars '/' s.toList).reverse with
  | last :: _ :: _ => if last ≠ [] ∧ last.all Char.isDigit then some (String.ofList last) else none
  | _ => none

/-- `String(n).padStart(width, '0')`. -/
def padNumber (width n : ℕ) : String := String.ofList (List.leftpad width '0' (Nat.toDigits 10 n))

/-- A padded number keeps its value. -/
theorem ofDigitChars_leftpad (width n : ℕ) :
    Nat.ofDigitChars 10 (List.leftpad width '0' (Nat.toDigits 10 n)) 0 = n := by
  unfold List.leftpad
  rw [Nat.ofDigitChars_append, Nat.ofDigitChars_replicate_zero, Nat.mul_zero,
    Nat.ofDigitChars_ten_toDigits]

theorem padNumber_inj {width m n : ℕ} (h : padNumber width m = padNumber width n) : m = n := by
  have hdigits := congrArg String.toList h
  unfold padNumber at hdigits
  rw [String.toList_ofList, String.toList_ofList] at hdigits
  have hvalue := ofDigitChars_leftpad width m
  rwa [hdigits, ofDigitChars_leftpad, eq_comm] at hvalue

/-! ## Case -/

/-- The lower case of one character. Characters whose lower case has no ASCII letter
are left as they are. -/
def lowerChar (c : Char) : List Char :=
  if c.toNat = 0x212a then ['k']
  else if c.toNat = 0x130 then ['i', Char.ofNat 0x307]
  else [c.toLower]

/-- `s.toLowerCase()`. -/
def toLowerCase (s : String) : String := String.ofList (s.toList.flatMap lowerChar)

/-- The upper case of one character. Characters whose upper case has no ASCII letter
are left as they are. -/
def upperChar (c : Char) : List Char :=
  match c.toNat with
  | 0xdf => ['S', 'S']
  | 0x131 => ['I']
  | 0x149 => [Char.ofNat 0x2bc, 'N']
  | 0x17f => ['S']
  | 0x1f0 => ['J', Char.ofNat 0x30c]
  | 0x1e96 => ['H', Char.ofNat 0x331]
  | 0x1e97 => ['T', Char.ofNat 0x308]
  | 0x1e98 => ['W', Char.ofNat 0x30a]
  | 0x1e99 => ['Y', Char.ofNat 0x30a]
  | 0x1e9a => ['A', Char.ofNat 0x2be]
  | 0xfb00 => ['F', 'F']
  | 0xfb01 => ['F', 'I']
  | 0xfb02 => ['F', 'L']
  | 0xfb03 => ['F', 'F', 'I']
  | 0xfb04 => ['F', 'F', 'L']
  | 0xfb05 => ['S', 'T']
  | 0xfb06 => ['S', 'T']
  | _ => [c.toUpper]

/-- `s.toUpperCase()`. -/
def toUpperCase (s : String) : String := String.ofList (s.toList.flatMap upperChar)

/-! ## Code units -/

/-- The first `n` UTF-16 code units of `cs`. Half of a surrogate pair, which only a
cut between its two units leaves, is shown as the replacement character. -/
def takeUnits : ℕ → List Char → List Char
  | 0, _ => []
  | _, [] => []
  | n + 1, c :: cs =>
    if c.toNat < 0x10000 then c :: takeUnits n cs
    else match n with
      | 0 => [Char.ofNat 0xfffd]
      | m + 1 => c :: takeUnits m cs

/-- `s.slice(0, n)`. -/
def slice (s : String) (n : ℕ) : String := String.ofList (takeUnits n s.toList)

/-- The UTF-8 bytes of a character. -/
def utf8Bytes (c : Char) : List ℕ :=
  let n := c.toNat
  if n < 0x80 then [n]
  else if n < 0x800 then [0xc0 + n / 0x40, 0x80 + n % 0x40]
  else if n < 0x10000 then [0xe0 + n / 0x1000, 0x80 + n / 0x40 % 0x40, 0x80 + n % 0x40]
  else [0xf0 + n / 0x40000, 0x80 + n / 0x1000 % 0x40, 0x80 + n / 0x40 % 0x40, 0x80 + n % 0x40]

/-- `encodeURIComponent(s)`. -/
def encodeURIComponent (s : String) : String :=
  String.ofList (s.toList.flatMap fun c =>
    if c.isAlphanum || "-_.!~*'()".toList.contains c then [c]
    else (utf8Bytes c).flatMap fun b =>
      '%' :: (List.leftpad 2 '0' (Nat.toDigits 16 b)).map Char.toUpper)

/-! ## Patterns -/

/-- `\w`. -/
def isWord (c : Char) : Bool := c.isAlphanum || c == '_'

/-- A matcher at a position: the character before it, if any, and the text from it on. -/
abbrev Matcher (α : Type) := Option Char → List Char → Option α

/-- The first match of `m` from the left, in text that `prev` precedes. -/
def search {α : Type} (m : Matcher α) (prev : Option Char) (cs : List Char) : Option α :=
  match m prev cs with
  | some a => some a
  | none =>
    match cs with
    | [] => none
    | c :: cs => search m (some c) cs

/-- What follows `word` at the front of the text, ASCII letters compared without case;
`word` is given in lower case. -/
def afterWord (word : List Char) (cs : List Char) : Option (List Char) :=
  match word, cs with
  | [], cs => some cs
  | _, [] => none
  | w :: word, c :: cs => if c.toLower = w then afterWord word cs else none

/-- `\b` in front of a word character. -/
def atWordStart (prev : Option Char) : Bool := !(prev.any isWord)

/-- `\b` after a word character. -/
def atWordEnd (cs : List Char) : Bool := !(cs.head?.any isWord)

/-- `(\d{3})\b` at the front: the number. -/
def threeDigits : List Char → Option ℕ
  | a :: b :: c :: rest =>
    if a.isDigit && b.isDigit && c.isDigit && atWordEnd rest
    then some (Nat.ofDigitChars 10 [a, b, c] 0) else none
  | _ => none

section Search

variable {α : Type} {m : Matcher α} {prev : Option Char} {cs : List Char}

theorem search_nil : search m prev [] = m prev [] := by
  rw [search]
  cases m prev [] <;> rfl

/-- The first position that matches is found. -/
theorem search_of_some {a : α} (h : m prev cs = some a) : search m prev cs = some a := by
  rw [search.eq_def, h]

/-- A position without a match is passed over. -/
theorem search_cons_of_none {c : Char} (h : m prev (c :: cs) = none) :
    search m prev (c :: cs) = search m (some c) cs := by
  rw [search, h]

/-- Text in which no position matches is passed over. -/
theorem search_append_of_none {front rest : List Char} (hne : front ≠ [])
    (h : ∀ before c after, front = before ++ c :: after →
      m ((before.getLast?).or prev) (c :: after ++ rest) = none) :
    search m prev (front ++ rest) = search m front.getLast? rest := by
  induction front generalizing prev with
  | nil => exact absurd rfl hne
  | cons c front ih =>
    have hhead : m prev (c :: (front ++ rest)) = none := by
      simpa using h [] c front rfl
    rw [List.cons_append, search_cons_of_none hhead]
    cases front with
    | nil => simp
    | cons d front =>
      rw [ih (by simp)]
      · simp
      · intro before c' after heq
        have hc := h (c :: before) c' after (by rw [heq]; rfl)
        rw [← hc]
        congr 1
        cases before with
        | nil => rfl
        | cons b bs =>
          rw [List.getLast?_cons_cons]
          cases hlast : (b :: bs).getLast? with
          | none => simp at hlast
          | some _ => rfl

end Search

end Js
