import Mathlib.Data.Rat.Floor
import Mathlib.Tactic.Linarith
import Mathlib.Tactic.FieldSimp
import Mathlib.Tactic.Ring
import Mathlib.Tactic.IntervalCases
import Mathlib.Tactic.NormNum

/-!
# JavaScript numbers

Numbers are exact rationals together with the infinities and `NaN`. On amounts
of money that are whole cents the doubles of the language, rounded to cents after
each sum, agree with them. Parsing and printing follow `Number(s)`,
`Number.parseFloat(s)` and `x.toFixed(2)`; the exponent form that `toFixed` uses
from `10^21` on is printed in full.
-/

namespace Js

/-- A number: finite, infinite or not a number. -/
inductive Number
  | fin (q : ℚ)
  | inf (negative : Bool)
  | nan
  deriving DecidableEq, Repr

namespace Number

instance (n : ℕ) : OfNat Number n := ⟨.fin n⟩

/-- The sign bit of a finite number that is not zero. -/
def isNegative (q : ℚ) : Bool := decide (q < 0)

def neg : Number → Number
  | .fin q => .fin (-q)
  | .inf s => .inf (!s)
  | .nan => .nan

def add : Number → Number → Number
  | .fin a, .fin b => .fin (a + b)
  | .fin _, .inf s => .inf s
  | .inf s, .fin _ => .inf s
  | .inf s, .inf t => if s = t then .inf s else .nan
  | _, _ => .nan

def sub (a b : Number) : Number := a.add b.neg

def mul : Number → Number → Number
  | .fin a, .fin b => .fin (a * b)
  | .fin a, .inf s => if a = 0 then .nan else .inf (isNegative a ^^ s)
  | .inf s, .fin b => if b = 0 then .nan else .inf (s ^^ isNegative b)
  | .inf s, .inf t => .inf (s ^^ t)
  | _, _ => .nan

def div : Number → Number → Number
  | .fin a, .fin b => if b = 0 then (if a = 0 then .nan else .inf (isNegative a)) else .fin (a / b)
  | .fin _, .inf _ => .fin 0
  | .inf s, .fin b => .inf (s ^^ isNegative b)
  | _, _ => .nan

instance : Neg Number := ⟨neg⟩
instance : Add Number := ⟨add⟩
instance : Sub Number := ⟨sub⟩
instance : Mul Number := ⟨mul⟩
instance : Div Number := ⟨div⟩

@[simp] theorem neg_fin (a : ℚ) : -Number.fin a = .fin (-a) := rfl
@[simp] theorem fin_add_fin (a b : ℚ) : Number.fin a + .fin b = .fin (a + b) := rfl
@[simp] theorem fin_sub_fin (a b : ℚ) : Number.fin a - .fin b = .fin (a - b) := by
  change Number.fin (a + -b) = _
  rw [sub_eq_add_neg]

/-- `Math.abs`. -/
def abs : Number → Number
  | .fin q => .fin |q|
  | .inf _ => .inf false
  | .nan => .nan

/-- `a < b`, false when either side is `NaN`. -/
def lt : Number → Number → Bool
  | .fin a, .fin b => decide (a < b)
  | .fin _, .inf s => !s
  | .inf s, .fin _ => s
  | .inf s, .inf t => s && !t
  | _, _ => false

/-- `a >= b`, false when either side is `NaN`. -/
def ge (a b : Number) : Bool :=
  match a, b with
  | .nan, _ => false
  | _, .nan => false
  | a, b => !a.lt b

/-- `Math.round`: to the nearest integer, halves upward. -/
def round : Number → Number
  | .fin q => .fin ⌊q + 1 / 2⌋
  | x => x

/-- `Number.isFinite`. -/
def isFinite : Number → Bool
  | .fin _ => true
  | _ => false

/-- `Number.isNaN`. -/
def isNaN : Number → Bool
  | .nan => true
  | _ => false

end Number

/-! ## Reading numbers -/

/-- The white space and line terminators that `trim` and the number readers skip. -/
def isSpace (c : Char) : Bool :=
  let n := c.toNat
  (9 ≤ n && n ≤ 13) || n == 32 || n == 160 || n == 0x1680 || (0x2000 ≤ n && n ≤ 0x200a) ||
    n == 0x2028 || n == 0x2029 || n == 0x202f || n == 0x205f || n == 0x3000 || n == 0xfeff

/-- An exponent part, when one with at least one digit is present, and what follows. -/
def readExponent : List Char → ℤ × List Char
  | c :: cs =>
    if c = 'e' ∨ c = 'E' then
      let (sign, body) := match cs with
        | '-' :: r => (-1, r)
        | '+' :: r => (1, r)
        | r => (1, r)
      if body.takeWhile Char.isDigit = [] then (0, c :: cs)
      else (sign * Nat.ofDigitChars 10 (body.takeWhile Char.isDigit) 0, body.dropWhile Char.isDigit)
    else (0, c :: cs)
  | [] => (0, [])

/-- `m · 10^e`. -/
def scale (m : ℕ) (e : ℤ) : ℚ := if 0 ≤ e then m * 10 ^ e.toNat else m / 10 ^ (-e).toNat

/-- The longest run of digits with a decimal point and an exponent at the front, and
what follows; at least one digit is needed. -/
def readDigits (cs : List Char) : Option (Number × List Char) :=
  let int := cs.takeWhile Char.isDigit
  let (frac, rest) := match cs.dropWhile Char.isDigit with
    | '.' :: r => (r.takeWhile Char.isDigit, r.dropWhile Char.isDigit)
    | r => ([], r)
  if int ++ frac = [] then none
  else
    let (e, rest) := readExponent rest
    some (.fin (scale (Nat.ofDigitChars 10 (int ++ frac) 0) (e - frac.length)), rest)

/-- The longest unsigned decimal literal at the front, and what follows. -/
def readDecimal (cs : List Char) : Option (Number × List Char) :=
  if "Infinity".toList.isPrefixOf cs then some (.inf false, cs.drop 8) else readDigits cs

/-- The longest decimal literal at the front, with its sign, and what follows. -/
def readSigned : List Char → Option (Number × List Char)
  | '-' :: cs => (readDecimal cs).map fun p => (-p.1, p.2)
  | '+' :: cs => readDecimal cs
  | cs => readDecimal cs

/-- The value of a digit in a radix of at most sixteen. -/
def digitIn (radix : ℕ) (c : Char) : Option ℕ :=
  let v := if c.isDigit then some (c.toNat - 48)
    else if 'a' ≤ c ∧ c ≤ 'f' then some (c.toNat - 87)
    else if 'A' ≤ c ∧ c ≤ 'F' then some (c.toNat - 55)
    else none
  v.filter (· < radix)

/-- An integer written in a radix, all of whose characters are digits of it. -/
def readRadix (radix : ℕ) (cs : List Char) : Number :=
  match cs.mapM (digitIn radix) with
  | some (d :: ds) => .fin ((d :: ds).foldl (fun n d => radix * n + d) 0 : ℕ)
  | _ => .nan

/-- `s.trim()`, on the characters of `s`. -/
def trim (cs : List Char) : List Char :=
  ((cs.dropWhile isSpace).reverse.dropWhile isSpace).reverse

/-- The radix that a letter after a leading zero announces. -/
def radixLetter (c : Char) : Option ℕ :=
  if c = 'x' ∨ c = 'X' then some 16
  else if c = 'o' ∨ c = 'O' then some 8
  else if c = 'b' ∨ c = 'B' then some 2
  else none

/-- The radix and the digits of a literal with a radix prefix. -/
def readPrefix : List Char → Option (ℕ × List Char)
  | '0' :: c :: cs => (radixLetter c).map (·, cs)
  | _ => none

/-- `Number(s)`: the whole trimmed text is one numeric literal, or the result is `NaN`. -/
def toNumber (s : String) : Number :=
  let cs := trim s.toList
  if cs = [] then .fin 0
  else match readPrefix cs with
    | some (radix, digits) => readRadix radix digits
    | none =>
      match readSigned cs with
      | some (n, []) => n
      | _ => .nan

/-- `Number.parseFloat(s)`: the longest decimal literal after leading white space. -/
def parseFloat (s : String) : Number :=
  match readSigned (s.toList.dropWhile isSpace) with
  | some (n, _) => n
  | none => .nan

/-! ## Printing numbers -/

/-- The decimal text of `n / 100` with two decimals. -/
def printHundredths (n : ℕ) : List Char :=
  Nat.toDigits 10 (n / 100) ++ ['.', Nat.digitChar (n / 10 % 10), Nat.digitChar (n % 10)]

/-- `x.toFixed(2)`: two decimals, the hundredths rounded away from zero on a tie. -/
def Number.toFixed2 : Number → String
  | .fin q =>
    String.ofList ((if q < 0 then ['-'] else []) ++ printHundredths ⌊|q| * 100 + 1 / 2⌋.toNat)
  | .inf s => if s then "-Infinity" else "Infinity"
  | .nan => "NaN"

/-- Printed hundredths start with a digit. -/
theorem exists_printHundredths_eq (n : ℕ) :
    ∃ c cs, printHundredths n = c :: cs ∧ c.isDigit = true := by
  obtain ⟨c, cs, heq⟩ := List.exists_cons_of_ne_nil (Nat.toDigits_ne_nil (n := n / 100) (b := 10))
  refine ⟨c, cs ++ ['.', Nat.digitChar (n / 10 % 10), Nat.digitChar (n % 10)], ?_, ?_⟩
  · rw [printHundredths, heq, List.cons_append]
  · exact Nat.isDigit_of_mem_toDigits (by decide) (by decide) (heq ▸ List.mem_cons_self ..)

/-- Printed hundredths read back as the same amount, with nothing left over. -/
theorem readDigits_printHundredths (n : ℕ) :
    readDigits (printHundredths n) = some (.fin (n / 100), []) := by
  have htens := (Nat.isDigit_digitChar (n := n / 10 % 10)).trans (decide_eq_true (by omega))
  have hones := (Nat.isDigit_digitChar (n := n % 10)).trans (decide_eq_true (by omega))
  have hint : ∀ c ∈ Nat.toDigits 10 (n / 100), c.isDigit = true :=
    fun c hc => Nat.isDigit_of_mem_toDigits (by decide) (by decide) hc
  have hvalue : Nat.ofDigitChars 10 (Nat.toDigits 10 (n / 100) ++
      [Nat.digitChar (n / 10 % 10), Nat.digitChar (n % 10)]) 0 = n := by
    rw [Nat.ofDigitChars_append, Nat.ofDigitChars_ten_toDigits,
      Nat.ofDigitChars_cons_digitChar_of_lt_ten (by omega),
      Nat.ofDigitChars_cons_digitChar_of_lt_ten (by omega), Nat.ofDigitChars_nil]
    omega
  have htake : (printHundredths n).takeWhile Char.isDigit = Nat.toDigits 10 (n / 100) := by
    rw [printHundredths, List.takeWhile_append_of_pos hint]
    simp
  have hdrop : (printHundredths n).dropWhile Char.isDigit =
      ['.', Nat.digitChar (n / 10 % 10), Nat.digitChar (n % 10)] := by
    rw [printHundredths, List.dropWhile_append_of_pos hint]
    simp
  unfold readDigits
  simp [htake, hdrop, htens, hones, readExponent, hvalue, scale]
  norm_num

/-- Printed hundredths are one whole numeric literal. -/
theorem readDecimal_printHundredths (n : ℕ) :
    readDecimal (printHundredths n) = some (.fin (n / 100), []) := by
  obtain ⟨c, cs, heq, hc⟩ := exists_printHundredths_eq n
  have hne : ("Infinity".toList.isPrefixOf (printHundredths n)) = false := by
    have : 'I' ≠ c := by rintro rfl; simp at hc
    rw [heq]
    simp [List.isPrefixOf, this]
  rw [readDecimal, hne]
  exact readDigits_printHundredths n

/-- Every character of printed hundredths is a digit or the point. -/
theorem mem_printHundredths {n : ℕ} {c : Char} (hc : c ∈ printHundredths n) :
    c.isDigit = true ∨ c = '.' := by
  simp only [printHundredths, List.mem_append, List.mem_cons, List.not_mem_nil, or_false] at hc
  rcases hc with hc | rfl | rfl | rfl
  · exact .inl (Nat.isDigit_of_mem_toDigits (by decide) (by decide) hc)
  · exact .inr rfl
  · exact .inl (Nat.isDigit_digitChar.trans (decide_eq_true (by omega)))
  · exact .inl (Nat.isDigit_digitChar.trans (decide_eq_true (by omega)))

private theorem toNat_of_isDigit {c : Char} (hc : c.isDigit = true) :
    48 ≤ c.toNat ∧ c.toNat ≤ 57 := by
  simp only [Char.isDigit, ge_iff_le, Bool.and_eq_true, decide_eq_true_eq] at hc
  exact ⟨hc.1, hc.2⟩

/-- The characters of a fixed-point text: none is white space or announces a radix. -/
def PlainChar (c : Char) : Prop := isSpace c = false ∧ radixLetter c = none

theorem plainChar_of_isDigit {c : Char} (hc : c.isDigit = true) : PlainChar c := by
  have h := toNat_of_isDigit hc
  refine ⟨?_, ?_⟩
  · simp only [isSpace, Bool.or_eq_false_iff, Bool.and_eq_false_iff, decide_eq_false_iff_not,
      beq_eq_false_iff_ne]
    omega
  · unfold radixLetter
    repeat' split
    all_goals first | rfl | (rename_i hx; rcases hx with rfl | rfl <;> simp at hc)

theorem dropWhile_of_plain {cs : List Char} (h : ∀ c ∈ cs, PlainChar c) :
    cs.dropWhile isSpace = cs := by
  cases cs with
  | nil => rfl
  | cons c cs => simp [(h c (List.mem_cons_self ..)).1]

theorem trim_of_plain {cs : List Char} (h : ∀ c ∈ cs, PlainChar c) : trim cs = cs := by
  rw [trim, dropWhile_of_plain h,
    dropWhile_of_plain fun c hc => h c (List.mem_reverse.mp hc), List.reverse_reverse]

theorem readPrefix_of_plain {cs : List Char} (h : ∀ c ∈ cs, PlainChar c) :
    readPrefix cs = none := by
  unfold readPrefix
  split
  · rename_i c cs
    simp [(h c (by simp)).2]
  · rfl

/-- A sign and printed hundredths are one whole signed literal. -/
theorem readSigned_printHundredths (negative : Bool) (n : ℕ) :
    readSigned ((if negative then ['-'] else []) ++ printHundredths n) =
      some (.fin (if negative then -(n / 100) else n / 100), []) := by
  have hread := readDecimal_printHundredths n
  cases negative with
  | true => simp [readSigned, hread]
  | false =>
    obtain ⟨d, ds, heq, hd⟩ := exists_printHundredths_eq n
    have hsigned : readSigned (printHundredths n) = readDecimal (printHundredths n) := by
      rw [heq]
      unfold readSigned
      split
      · rename_i h; simp only [List.cons.injEq] at h; rw [h.1] at hd; simp at hd
      · rename_i h; simp only [List.cons.injEq] at h; rw [h.1] at hd; simp at hd
      · rfl
    simp [hsigned, hread]

theorem plainChar_of_mem_signed (negative : Bool) (n : ℕ) :
    ∀ c ∈ (if negative then ['-'] else []) ++ printHundredths n, PlainChar c := by
  intro c hc
  rcases List.mem_append.mp hc with h | h
  · have : c = '-' := by split at h <;> simp_all
    subst this
    exact ⟨by decide, by decide⟩
  · rcases mem_printHundredths h with hd | rfl
    · exact plainChar_of_isDigit hd
    · exact ⟨by decide, by decide⟩

/-- `Number.parseFloat(x.toFixed(2))` is a whole number of cents, at most half a cent from `x`. -/
theorem parseFloat_toFixed2 (q : ℚ) :
    ∃ c : ℤ, parseFloat (Number.fin q).toFixed2 = .fin (c / 100) ∧ |c / 100 - q| ≤ 1 / 200 := by
  set n := ⌊|q| * 100 + 1 / 2⌋.toNat with hn
  have hfloor : (0 : ℤ) ≤ ⌊|q| * 100 + 1 / 2⌋ := by
    apply Int.floor_nonneg.mpr
    positivity
  have hcast : (n : ℚ) = ⌊|q| * 100 + 1 / 2⌋ := by
    rw [hn, ← Int.cast_natCast, Int.toNat_of_nonneg hfloor]
  have hle := Int.floor_le (|q| * 100 + 1 / 2)
  have hlt := Int.lt_floor_add_one (|q| * 100 + 1 / 2)
  have hvalue : ((if q < 0 then -(n : ℤ) else (n : ℤ) : ℤ) : ℚ) / 100 =
      if q < 0 then -(n / 100 : ℚ) else n / 100 := by
    split <;> push_cast <;> ring
  refine ⟨if q < 0 then -n else n, ?_, ?_⟩ <;> rw [hvalue]
  · have hread := readSigned_printHundredths (decide (q < 0)) n
    have hspace := dropWhile_of_plain (plainChar_of_mem_signed (decide (q < 0)) n)
    simp only [decide_eq_true_eq] at hread hspace
    unfold parseFloat Number.toFixed2
    simp only [String.toList_ofList]
    rw [← hn, hspace, hread]
  · rw [abs_le]
    by_cases hneg : q < 0
    · rw [if_pos hneg]
      rw [abs_of_neg hneg] at hcast hle hlt
      constructor <;> linarith
    · rw [if_neg hneg]
      rw [abs_of_nonneg (not_lt.mp hneg)] at hcast hle hlt
      constructor <;> linarith

/-- A whole number of cents survives `Number(x.toFixed(2))`. -/
theorem toNumber_toFixed2 (c : ℤ) :
    toNumber (Number.fin (c / 100)).toFixed2 = .fin (c / 100) := by
  have hround : ⌊|(c / 100 : ℚ)| * 100 + 1 / 2⌋.toNat = c.natAbs := by
    have habs : |(c / 100 : ℚ)| * 100 = ((c.natAbs : ℤ) : ℚ) := by
      rw [abs_div, abs_of_pos (by norm_num : (0 : ℚ) < 100), div_mul_cancel₀ _ (by norm_num),
        ← Int.cast_abs, Int.abs_eq_natAbs]
    have hhalf : ⌊(1 / 2 : ℚ)⌋ = 0 := by norm_num
    rw [habs, Int.floor_intCast_add, hhalf, add_zero, Int.toNat_natCast]
  have hsign : ((c / 100 : ℚ) < 0) ↔ c < 0 := by
    rw [div_lt_iff₀ (by norm_num), zero_mul]
    exact Int.cast_lt_zero
  have hplain := plainChar_of_mem_signed (decide (c < 0)) c.natAbs
  have hread := readSigned_printHundredths (decide (c < 0)) c.natAbs
  have hne : printHundredths c.natAbs ≠ [] := by
    obtain ⟨d, ds, heq, _⟩ := exists_printHundredths_eq c.natAbs
    simp [heq]
  have hvalue : (if c < 0 then -((c.natAbs : ℚ) / 100) else (c.natAbs : ℚ) / 100) = c / 100 := by
    rw [← Int.cast_natCast, Int.natCast_natAbs]
    by_cases hneg : c < 0
    · rw [if_pos hneg, abs_of_neg hneg, Int.cast_neg, neg_div, neg_neg]
    · rw [if_neg hneg, abs_of_nonneg (by omega)]
  simp only [decide_eq_true_eq] at hplain hread
  unfold toNumber Number.toFixed2
  simp only [hround, hsign, String.toList_ofList, trim_of_plain hplain, readPrefix_of_plain hplain]
  rw [hvalue] at hread
  simp [hread, hne]

end Js
