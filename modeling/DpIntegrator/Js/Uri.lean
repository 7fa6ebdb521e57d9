import DpIntegrator.Js.Text

/-!
# Escapes in URIs

`encodeURIComponent` writes a character that may not stand in a URI as the escaped bytes of its
UTF-8 form; `decodeURIComponent` reads the escapes, and refuses texts whose escapes are cut off or
are not well-formed UTF-8. What is encoded is always decoded to the text that it was.
-/

namespace Js

/-! ## Encoding -/

/-- Characters that `encodeURIComponent` leaves alone. -/
def isUnreserved (c : Char) : Bool := c.isAlphanum || "-_.!~*'()".toList.contains c

/-- The escape of a byte. -/
def escapeByte (b : ℕ) : List Char :=
  '%' :: (List.leftpad 2 '0' (Nat.toDigits 16 b)).map Char.toUpper

/-- One character in `encodeURIComponent`. -/
def encodeUriChar (c : Char) : List Char :=
  if isUnreserved c then [c] else (utf8Bytes c).flatMap escapeByte

theorem toList_encodeURIComponent (s : String) :
    (encodeURIComponent s).toList = s.toList.flatMap encodeUriChar := by
  unfold encodeURIComponent
  rw [String.toList_ofList]
  rfl

/-! ## Decoding -/

/-- The value of a hexadecimal digit. -/
def hexValue (c : Char) : Option ℕ :=
  if c.isDigit then some (c.toNat - 0x30)
  else if 0x61 ≤ c.toNat ∧ c.toNat ≤ 0x66 then some (c.toNat - 0x57)
  else if 0x41 ≤ c.toNat ∧ c.toNat ≤ 0x46 then some (c.toNat - 0x37)
  else none

/-- A piece of a text with escapes: a character that stands for itself, or an escaped byte. -/
inductive UriPiece
  | char (c : Char)
  | byte (b : ℕ)

/-- The pieces of a text; `none` where two hexadecimal digits do not follow a `%`. -/
def uriPieces : List Char → Option (List UriPiece)
  | [] => some []
  | c :: cs =>
    if c = '%' then
      match cs with
      | high :: low :: rest => do
        let h ← hexValue high
        let l ← hexValue low
        return .byte (16 * h + l) :: (← uriPieces rest)
      | _ => none
    else do return .char c :: (← uriPieces cs)

/-- The bits of a continuation byte. -/
def UriPiece.tail : UriPiece → Option ℕ
  | byte b => if 0x80 ≤ b ∧ b < 0xc0 then some (b - 0x80) else none
  | char _ => none

/-- The character of a code point, unless a shorter form has it or it is none. -/
def codePoint (least n : ℕ) : Option Char :=
  if least ≤ n ∧ n.isValidChar then some (Char.ofNat n) else none

/-- Decode the escaped bytes of a text as UTF-8; `none` where they are not well-formed. -/
def decodePieces : List UriPiece → Option (List Char)
  | [] => some []
  | .char c :: pieces => do return c :: (← decodePieces pieces)
  | .byte b :: pieces =>
    if b < 0x80 then do return Char.ofNat b :: (← decodePieces pieces)
    else if b < 0xc0 then none
    else if b < 0xe0 then
      match pieces with
      | p :: rest => do
        let c ← codePoint 0x80 ((b - 0xc0) * 0x40 + (← p.tail))
        return c :: (← decodePieces rest)
      | _ => none
    else if b < 0xf0 then
      match pieces with
      | p :: q :: rest => do
        let c ← codePoint 0x800 (((b - 0xe0) * 0x40 + (← p.tail)) * 0x40 + (← q.tail))
        return c :: (← decodePieces rest)
      | _ => none
    else if b < 0xf8 then
      match pieces with
      | p :: q :: r :: rest => do
        let c ← codePoint 0x10000
          ((((b - 0xf0) * 0x40 + (← p.tail)) * 0x40 + (← q.tail)) * 0x40 + (← r.tail))
        return c :: (← decodePieces rest)
      | _ => none
    else none

/-- `decodeURIComponent(s)`; `none` where it throws a `URIError`. -/
def decodeURIComponent (s : String) : Option String := do
  let pieces ← uriPieces s.toList
  return String.ofList (← decodePieces pieces)

theorem uriPieces_cons {c : Char} (hc : c ≠ '%') (cs : List Char) :
    uriPieces (c :: cs) = (uriPieces cs).map (.char c :: ·) := by
  conv_lhs => unfold uriPieces
  rw [if_neg hc]
  cases uriPieces cs <;> rfl

theorem decodePieces_char (c : Char) (pieces : List UriPiece) :
    decodePieces (.char c :: pieces) = (decodePieces pieces).map (c :: ·) := by
  conv_lhs => unfold decodePieces
  cases decodePieces pieces <;> rfl

theorem decodePieces_byte {b : ℕ} (hb : b < 0x80) (pieces : List UriPiece) :
    decodePieces (.byte b :: pieces) = (decodePieces pieces).map (Char.ofNat b :: ·) := by
  conv_lhs => unfold decodePieces
  rw [if_pos hb]
  cases decodePieces pieces <;> rfl

/-! ## Decoding what was encoded -/

/-- The two digits of an escape: letters and digits, which have the byte as their value. -/
theorem escapeByte_eq {b : ℕ} (hb : b < 0x100) :
    ∃ high low, escapeByte b = ['%', high, low] ∧ high.isAlphanum ∧ low.isAlphanum ∧
      hexValue high = some (b / 16) ∧ hexValue low = some (b % 16) := by
  have hall : ∀ b < 0x100, (escapeByte b).length = 3 ∧
      (escapeByte b).tail.all Char.isAlphanum ∧
      (escapeByte b).tail.map hexValue = [some (b / 16), some (b % 16)] := by decide +kernel
  obtain ⟨hlength, halphanum, hvalues⟩ := hall b hb
  obtain ⟨digits, hdigits⟩ : ∃ digits, escapeByte b = '%' :: digits := ⟨_, rfl⟩
  rw [hdigits] at hlength halphanum hvalues ⊢
  match digits, hlength with
  | [high, low], _ =>
    simp only [List.tail_cons, List.all_cons, List.all_nil, Bool.and_true, Bool.and_eq_true,
      List.map_cons, List.map_nil, List.cons.injEq, and_true] at halphanum hvalues
    exact ⟨high, low, rfl, halphanum.1, halphanum.2, hvalues.1, hvalues.2⟩

theorem uriPieces_escapeByte {b : ℕ} (hb : b < 0x100) (cs : List Char) :
    uriPieces (escapeByte b ++ cs) = (uriPieces cs).map (.byte b :: ·) := by
  obtain ⟨high, low, heq, _, _, hhigh, hlow⟩ := escapeByte_eq hb
  have hvalue : 16 * (b / 16) + b % 16 = b := Nat.div_add_mod b 16
  rw [heq]
  change uriPieces ('%' :: high :: low :: cs) = _
  rw [uriPieces, if_pos rfl]
  simp only [hhigh, hlow, hvalue, Option.bind_eq_bind, Option.bind_some]
  cases uriPieces cs <;> rfl

theorem uriPieces_escapeBytes {bytes : List ℕ} (hbytes : ∀ b ∈ bytes, b < 0x100)
    (cs : List Char) :
    uriPieces (bytes.flatMap escapeByte ++ cs) =
      (uriPieces cs).map (bytes.map UriPiece.byte ++ ·) := by
  induction bytes with
  | nil => simp
  | cons b bytes ih =>
    rw [List.flatMap_cons, List.append_assoc, uriPieces_escapeByte (hbytes b List.mem_cons_self),
      ih fun b' hb' => hbytes b' (List.mem_cons_of_mem b hb'), Option.map_map]
    rfl

/-- A code point that is a character: not a surrogate, and below the last. -/
theorem toNat_cases (c : Char) : c.toNat < 0xd800 ∨ 0xdfff < c.toNat ∧ c.toNat < 0x110000 := c.valid

/-- The form of a character by its code point. -/
theorem utf8Bytes_cases (c : Char) :
    (c.toNat < 0x80 ∧ utf8Bytes c = [c.toNat]) ∨
    (0x80 ≤ c.toNat ∧ c.toNat < 0x800 ∧
      utf8Bytes c = [0xc0 + c.toNat / 0x40, 0x80 + c.toNat % 0x40]) ∨
    (0x800 ≤ c.toNat ∧ c.toNat < 0x10000 ∧
      utf8Bytes c = [0xe0 + c.toNat / 0x1000, 0x80 + c.toNat / 0x40 % 0x40,
        0x80 + c.toNat % 0x40]) ∨
    (0x10000 ≤ c.toNat ∧ c.toNat < 0x110000 ∧
      utf8Bytes c = [0xf0 + c.toNat / 0x40000, 0x80 + c.toNat / 0x1000 % 0x40,
        0x80 + c.toNat / 0x40 % 0x40, 0x80 + c.toNat % 0x40]) := by
  have hvalid := toNat_cases c
  unfold utf8Bytes
  by_cases hone : c.toNat < 0x80
  · exact .inl ⟨hone, by simp only [if_pos hone]⟩
  · by_cases htwo : c.toNat < 0x800
    · exact .inr (.inl ⟨by omega, htwo, by simp only [if_neg hone, if_pos htwo]⟩)
    · by_cases hthree : c.toNat < 0x10000
      · exact .inr (.inr (.inl ⟨by omega, hthree,
          by simp only [if_neg hone, if_neg htwo, if_pos hthree]⟩))
      · exact .inr (.inr (.inr ⟨by omega, by omega,
          by simp only [if_neg hone, if_neg htwo, if_neg hthree]⟩))

theorem utf8Bytes_lt (c : Char) : ∀ b ∈ utf8Bytes c, b < 0x100 := by
  intro b hb
  rcases utf8Bytes_cases c with ⟨_, heq⟩ | ⟨_, _, heq⟩ | ⟨_, _, heq⟩ | ⟨_, _, heq⟩
  all_goals
    rw [heq] at hb
    simp only [List.mem_cons, List.not_mem_nil, or_false] at hb
    omega

theorem codePoint_toNat {c : Char} {least n : ℕ} (hn : n = c.toNat) (hleast : least ≤ c.toNat) :
    codePoint least n = some c := by
  unfold codePoint
  rw [hn, if_pos ⟨hleast, c.valid⟩, Char.ofNat_toNat]

theorem tail_byte {x : ℕ} (hx : x < 0x40) : (UriPiece.byte (0x80 + x)).tail = some x := by
  simp only [UriPiece.tail]
  rw [if_pos (by omega), Nat.add_sub_cancel_left]

/-- The bytes of a character are decoded to the character. -/
theorem decodePieces_utf8Bytes (c : Char) (pieces : List UriPiece) :
    decodePieces ((utf8Bytes c).map .byte ++ pieces) = (decodePieces pieces).map (c :: ·) := by
  have hreturn (o : Option (List Char)) : (o.bind fun cs => some (c :: cs)) = o.map (c :: ·) := by
    cases o <;> rfl
  have htail (n : ℕ) : (UriPiece.byte (0x80 + n % 0x40)).tail = some (n % 0x40) :=
    tail_byte (Nat.mod_lt n (by omega))
  rcases utf8Bytes_cases c with ⟨hone, heq⟩ | ⟨hlow, hhigh, heq⟩ | ⟨hlow, hhigh, heq⟩ |
    ⟨hlow, hhigh, heq⟩
  · rw [heq]
    change decodePieces (.byte c.toNat :: pieces) = _
    rw [decodePieces_byte hone, Char.ofNat_toNat]
  · rw [heq, List.map_cons, List.map_cons, List.map_nil, List.cons_append, List.cons_append,
      List.nil_append]
    rw [decodePieces, if_neg (by omega), if_neg (by omega), if_pos (by omega)]
    simp only [htail, Option.bind_eq_bind, Option.bind_some]
    rw [codePoint_toNat (c := c) (by omega) (by omega)]
    exact hreturn _
  · rw [heq, List.map_cons, List.map_cons, List.map_cons, List.map_nil, List.cons_append,
      List.cons_append, List.cons_append, List.nil_append]
    rw [decodePieces, if_neg (by omega), if_neg (by omega), if_neg (by omega), if_pos (by omega)]
    simp only [htail, Option.bind_eq_bind, Option.bind_some]
    rw [codePoint_toNat (c := c) (by omega) (by omega)]
    exact hreturn _
  · rw [heq, List.map_cons, List.map_cons, List.map_cons, List.map_cons, List.map_nil,
      List.cons_append, List.cons_append, List.cons_append, List.cons_append, List.nil_append]
    rw [decodePieces, if_neg (by omega), if_neg (by omega), if_neg (by omega), if_neg (by omega),
      if_pos (by omega)]
    simp only [htail, Option.bind_eq_bind, Option.bind_some]
    rw [codePoint_toNat (c := c) (by omega) (by omega)]
    exact hreturn _

/-- An encoded character, in front of any text, is decoded to the character. -/
theorem decode_encodeUriChar (c : Char) (cs : List Char) :
    (uriPieces (encodeUriChar c ++ cs)).bind decodePieces =
      ((uriPieces cs).bind decodePieces).map (c :: ·) := by
  unfold encodeUriChar
  by_cases hunreserved : isUnreserved c
  · have hpercent : c ≠ '%' := by
      rintro rfl
      revert hunreserved
      decide
    rw [if_pos hunreserved]
    change (uriPieces (c :: cs)).bind decodePieces = _
    rw [uriPieces_cons hpercent]
    cases uriPieces cs with
    | none => rfl
    | some pieces => exact decodePieces_char c pieces
  · rw [if_neg hunreserved, uriPieces_escapeBytes (utf8Bytes_lt c)]
    cases uriPieces cs with
    | none => rfl
    | some pieces => exact decodePieces_utf8Bytes c pieces

/-- What was encoded is decoded to the text that it was. -/
theorem decodeURIComponent_encodeURIComponent (s : String) :
    decodeURIComponent (encodeURIComponent s) = some s := by
  have hdecode : ∀ cs : List Char,
      (uriPieces (cs.flatMap encodeUriChar)).bind decodePieces = some cs := by
    intro cs
    induction cs with
    | nil => rfl
    | cons c cs ih => rw [List.flatMap_cons, decode_encodeUriChar, ih, Option.map_some]
  have hpieces := hdecode s.toList
  rw [← toList_encodeURIComponent] at hpieces
  unfold decodeURIComponent
  obtain ⟨pieces, hsome, hchars⟩ := Option.bind_eq_some_iff.mp hpieces
  rw [hsome]
  change (decodePieces pieces).bind _ = _
  rw [hchars]
  change some (String.ofList s.toList) = some s
  rw [String.ofList_toList]

/-- The characters of an encoded text. -/
theorem mem_encodeURIComponent {s : String} {c : Char} (h : c ∈ (encodeURIComponent s).toList) :
    isUnreserved c ∨ c = '%' := by
  rw [toList_encodeURIComponent] at h
  obtain ⟨c', _, hc⟩ := List.mem_flatMap.mp h
  unfold encodeUriChar at hc
  split at hc
  · next hunreserved =>
    obtain rfl := List.mem_singleton.mp hc
    exact .inl hunreserved
  · obtain ⟨b, hb, hmem⟩ := List.mem_flatMap.mp hc
    obtain ⟨high, low, heq, hhigh, hlow, _⟩ := escapeByte_eq (utf8Bytes_lt c' b hb)
    rw [heq] at hmem
    simp only [List.mem_cons, List.not_mem_nil, or_false] at hmem
    unfold isUnreserved
    rcases hmem with rfl | rfl | rfl
    · exact .inr rfl
    · exact .inl (by rw [hhigh, Bool.true_or])
    · exact .inl (by rw [hlow, Bool.true_or])

theorem encodeURIComponent_ne_empty {s : String} (h : s ≠ "") : encodeURIComponent s ≠ "" := by
  intro hempty
  have hdecode := decodeURIComponent_encodeURIComponent s
  rw [hempty] at hdecode
  exact h (Option.some.inj hdecode).symm

end Js
