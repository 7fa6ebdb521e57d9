import DpIntegrator.Js.Url

/-!
# Escaped slashes

A segment of a path may hold slashes that are escaped. Decoded, it falls into pieces between them,
and so does its text: the pieces of the decoded text are the decoded pieces of the text. A piece is
decoded to a dot segment only where it is one of the spellings of a dot segment.
-/

namespace Js

/-- The pieces of a text between its escaped slashes. -/
def cutAtEscapedSlashes : List Char → List (List Char)
  | [] => [[]]
  | c :: cs =>
    match cs with
    | high :: low :: rest =>
      if c = '%' ∧ high = '2' ∧ (low = 'F' ∨ low = 'f') then [] :: cutAtEscapedSlashes rest
      else (cutAtEscapedSlashes (high :: low :: rest)).modifyHead (c :: ·)
    | cs => (cutAtEscapedSlashes cs).modifyHead (c :: ·)

/-! ## Reading the pieces of a text -/

/-- How a piece is written: a character as itself, a byte by the digits of its escape. -/
inductive UriPiece.WrittenAs : UriPiece → List Char → Prop
  | char {c : Char} (hpercent : c ≠ '%') : WrittenAs (.char c) [c]
  | byte {high low : Char} {h l : ℕ} (hhigh : hexValue high = some h) (hlow : hexValue low = some l) :
    WrittenAs (.byte (16 * h + l)) ['%', high, low]

theorem uriPieces_escape {high low : Char} {h l : ℕ} (hhigh : hexValue high = some h)
    (hlow : hexValue low = some l) (cs : List Char) :
    uriPieces ('%' :: high :: low :: cs) = (uriPieces cs).map (.byte (16 * h + l) :: ·) := by
  rw [uriPieces, if_pos rfl]
  simp only [hhigh, hlow, Option.bind_eq_bind, Option.bind_some]
  cases uriPieces cs <;> rfl

theorem UriPiece.WrittenAs.uriPieces_append {p : UriPiece} {text : List Char}
    (h : p.WrittenAs text) (cs : List Char) : uriPieces (text ++ cs) = (uriPieces cs).map (p :: ·) := by
  cases h with
  | char hpercent => exact uriPieces_cons hpercent cs
  | byte hhigh hlow => exact uriPieces_escape hhigh hlow cs

/-- A text that has pieces starts with the first of them. -/
theorem exists_writtenAs {cs : List Char} {p : UriPiece} {ps : List UriPiece}
    (h : uriPieces cs = some (p :: ps)) :
    ∃ text rest, cs = text ++ rest ∧ p.WrittenAs text ∧ uriPieces rest = some ps := by
  cases cs with
  | nil => cases h
  | cons c cs =>
    by_cases hpercent : c = '%'
    · subst hpercent
      unfold uriPieces at h
      rw [if_pos rfl] at h
      rcases cs with _ | ⟨high, _ | ⟨low, rest⟩⟩
      · cases h
      · cases h
      obtain ⟨x, hhigh, h⟩ := Option.bind_eq_some_iff.mp h
      obtain ⟨y, hlow, h⟩ := Option.bind_eq_some_iff.mp h
      obtain ⟨ps', hrest, h⟩ := Option.bind_eq_some_iff.mp h
      cases h
      exact ⟨['%', high, low], rest, rfl, .byte hhigh hlow, hrest⟩
    · rw [uriPieces_cons hpercent] at h
      obtain ⟨ps', hrest, h⟩ := Option.map_eq_some_iff.mp h
      cases h
      exact ⟨[c], cs, rfl, .char hpercent, hrest⟩

theorem eq_nil_of_uriPieces {cs : List Char} (h : uriPieces cs = some []) : cs = [] := by
  cases cs with
  | nil => rfl
  | cons c cs =>
    by_cases hpercent : c = '%'
    · subst hpercent
      unfold uriPieces at h
      rw [if_pos rfl] at h
      rcases cs with _ | ⟨high, _ | ⟨low, rest⟩⟩
      · cases h
      · cases h
      obtain ⟨x, _, h⟩ := Option.bind_eq_some_iff.mp h
      obtain ⟨y, _, h⟩ := Option.bind_eq_some_iff.mp h
      obtain ⟨ps', _, h⟩ := Option.bind_eq_some_iff.mp h
      cases h
    · rw [uriPieces_cons hpercent] at h
      obtain ⟨ps', _, h⟩ := Option.map_eq_some_iff.mp h
      cases h

/-! ## Reading the characters of the pieces -/

/-- The pieces of one decoded character: itself, its escape where it has one byte, and bytes beyond
ASCII where it has several. -/
structure IsUnit (unit : List UriPiece) (c : Char) : Prop where
  decodes : ∀ ps, decodePieces (unit ++ ps) = (decodePieces ps).map (c :: ·)
  shape : unit = [.char c] ∨ c.toNat < 0x80 ∧ unit = [.byte c.toNat] ∨
    0x80 ≤ c.toNat ∧ ∀ p ∈ unit, ∃ b, p = .byte b ∧ 0x80 ≤ b

theorem UriPiece.tail_eq_some {p : UriPiece} {x : ℕ} (h : p.tail = some x) :
    ∃ b, p = .byte b ∧ 0x80 ≤ b := by
  cases p with
  | char c => cases h
  | byte b =>
    by_cases hrange : 0x80 ≤ b ∧ b < 0xc0
    · exact ⟨b, rfl, hrange.1⟩
    · simp only [UriPiece.tail] at h
      rw [if_neg hrange] at h
      cases h

theorem toNat_ofNat {n : ℕ} (h : n.isValidChar) : (Char.ofNat n).toNat = n := by
  unfold Char.ofNat
  rw [dif_pos h]
  rfl

theorem codePoint_eq_some {least n : ℕ} {c : Char} (h : codePoint least n = some c) :
    least ≤ c.toNat := by
  unfold codePoint at h
  split at h
  · next hn =>
    obtain rfl := Option.some.inj h
    rw [toNat_ofNat hn.2]
    exact hn.1
  · cases h

/-- Pieces that are decoded start with those of the first character. -/
theorem exists_unit {p : UriPiece} {ps : List UriPiece} {ds : List Char}
    (h : decodePieces (p :: ps) = some ds) :
    ∃ unit rest c ds', p :: ps = unit ++ rest ∧ ds = c :: ds' ∧ IsUnit unit c ∧
      decodePieces rest = some ds' := by
  have hreturn (c : Char) (o : Option (List Char)) :
      (o.bind fun cs => some (c :: cs)) = o.map (c :: ·) := by
    cases o <;> rfl
  cases p with
  | char c =>
    rw [decodePieces_char] at h
    obtain ⟨ds', hrest, rfl⟩ := Option.map_eq_some_iff.mp h
    exact ⟨[.char c], ps, c, ds', rfl, rfl, ⟨decodePieces_char c, .inl rfl⟩, hrest⟩
  | byte b =>
    by_cases hone : b < 0x80
    · rw [decodePieces_byte hone] at h
      obtain ⟨ds', hrest, rfl⟩ := Option.map_eq_some_iff.mp h
      have hb : (Char.ofNat b).toNat = b := toNat_ofNat (.inl (by omega))
      refine ⟨[.byte b], ps, Char.ofNat b, ds', rfl, rfl,
        ⟨decodePieces_byte hone, .inr (.inl ?_)⟩, hrest⟩
      rw [hb]
      exact ⟨hone, rfl⟩
    have hfirst : ∃ b', UriPiece.byte b = .byte b' ∧ 0x80 ≤ b' := ⟨b, rfl, by omega⟩
    have hbytes {tail : List UriPiece} (htail : ∀ q ∈ tail, ∃ x, q.tail = some x) :
        ∀ q ∈ .byte b :: tail, ∃ b', q = .byte b' ∧ 0x80 ≤ b' := by
      intro q hq
      rcases List.mem_cons.mp hq with rfl | hq
      · exact hfirst
      · obtain ⟨x, hx⟩ := htail q hq
        exact UriPiece.tail_eq_some hx
    unfold decodePieces at h
    rw [if_neg hone] at h
    by_cases hnone : b < 0xc0
    · rw [if_pos hnone] at h
      cases h
    rw [if_neg hnone] at h
    by_cases htwo : b < 0xe0
    · rw [if_pos htwo] at h
      rcases ps with _ | ⟨p, rest⟩
      · cases h
      obtain ⟨x, hp, h⟩ := Option.bind_eq_some_iff.mp h
      obtain ⟨c, hc, h⟩ := Option.bind_eq_some_iff.mp h
      obtain ⟨ds', hrest, h⟩ := Option.bind_eq_some_iff.mp h
      refine ⟨[.byte b, p], rest, c, ds', rfl, (Option.some.inj h).symm, ⟨fun ps => ?_, ?_⟩,
        hrest⟩
      · rw [List.cons_append, List.cons_append, List.nil_append, decodePieces, if_neg hone,
          if_neg hnone, if_pos htwo]
        simp only [hp, hc, Option.bind_eq_bind, Option.bind_some]
        exact hreturn c _
      · exact .inr (.inr ⟨codePoint_eq_some hc, hbytes (by simp [hp])⟩)
    rw [if_neg htwo] at h
    by_cases hthree : b < 0xf0
    · rw [if_pos hthree] at h
      rcases ps with _ | ⟨p, _ | ⟨q, rest⟩⟩
      · cases h
      · cases h
      obtain ⟨x, hp, h⟩ := Option.bind_eq_some_iff.mp h
      obtain ⟨y, hq, h⟩ := Option.bind_eq_some_iff.mp h
      obtain ⟨c, hc, h⟩ := Option.bind_eq_some_iff.mp h
      obtain ⟨ds', hrest, h⟩ := Option.bind_eq_some_iff.mp h
      refine ⟨[.byte b, p, q], rest, c, ds', rfl, (Option.some.inj h).symm, ⟨fun ps => ?_, ?_⟩,
        hrest⟩
      · rw [List.cons_append, List.cons_append, List.cons_append, List.nil_append, decodePieces,
          if_neg hone, if_neg hnone, if_neg htwo, if_pos hthree]
        simp only [hp, hq, hc, Option.bind_eq_bind, Option.bind_some]
        exact hreturn c _
      · have hleast := codePoint_eq_some hc
        exact .inr (.inr ⟨by omega, hbytes (by simp [hp, hq])⟩)
    rw [if_neg hthree] at h
    by_cases hfour : b < 0xf8
    · rw [if_pos hfour] at h
      rcases ps with _ | ⟨p, _ | ⟨q, _ | ⟨r, rest⟩⟩⟩
      · cases h
      · cases h
      · cases h
      obtain ⟨x, hp, h⟩ := Option.bind_eq_some_iff.mp h
      obtain ⟨y, hq, h⟩ := Option.bind_eq_some_iff.mp h
      obtain ⟨z, hr, h⟩ := Option.bind_eq_some_iff.mp h
      obtain ⟨c, hc, h⟩ := Option.bind_eq_some_iff.mp h
      obtain ⟨ds', hrest, h⟩ := Option.bind_eq_some_iff.mp h
      refine ⟨[.byte b, p, q, r], rest, c, ds', rfl, (Option.some.inj h).symm,
        ⟨fun ps => ?_, ?_⟩, hrest⟩
      · rw [List.cons_append, List.cons_append, List.cons_append, List.cons_append,
          List.nil_append, decodePieces, if_neg hone, if_neg hnone, if_neg htwo, if_neg hthree,
          if_pos hfour]
        simp only [hp, hq, hr, hc, Option.bind_eq_bind, Option.bind_some]
        exact hreturn c _
      · have hleast := codePoint_eq_some hc
        exact .inr (.inr ⟨by omega, hbytes (by simp [hp, hq, hr])⟩)
    rw [if_neg hfour] at h
    cases h

/-- Only no pieces are decoded to no characters. -/
theorem eq_nil_of_decodePieces {ps : List UriPiece} (h : decodePieces ps = some []) : ps = [] := by
  cases ps with
  | nil => rfl
  | cons p ps =>
    obtain ⟨_, _, _, _, _, hnil, _⟩ := exists_unit h
    cases hnil

/-! ## Cutting -/

/-- A piece that is a slash: itself or its escape. -/
def UriPiece.isSlash : UriPiece → Bool
  | .char c => c = '/'
  | .byte b => b = 0x2f

/-- Two cuts whose parts correspond still do when their first parts grow. -/
theorem map_modifyHead {α β : Type} {f : α → Option β} {g : α → α} {g' : β → β} {l : List α}
    {l' : List β} (h : l.map f = l'.map some) (hg : ∀ a b, f a = some b → f (g a) = some (g' b)) :
    (l.modifyHead g).map f = (l'.modifyHead g').map some := by
  cases l with
  | nil =>
    rw [List.map_nil] at h
    rw [List.map_eq_nil_iff.mp h.symm]
    rfl
  | cons a l =>
    cases l' with
    | nil => cases h
    | cons b l' =>
      obtain ⟨hhead, htail⟩ := List.cons.inj h
      rw [List.modifyHead_cons, List.modifyHead_cons, List.map_cons, List.map_cons, htail,
        hg a b hhead]

theorem splitChars_cons (sep c : Char) (cs : List Char) :
    splitChars sep (c :: cs) =
      if c = sep then [] :: splitChars sep cs else (splitChars sep cs).modifyHead (c :: ·) := by
  rw [splitChars]
  split
  · rfl
  · cases hsplit : splitChars sep cs with
    | nil => exact absurd hsplit (splitChars_ne_nil sep cs)
    | cons part rest => rfl

/-- No part of a text has the separator in it. -/
theorem notMem_of_mem_splitChars {sep : Char} {cs part : List Char} (h : part ∈ splitChars sep cs) :
    sep ∉ part := by
  induction cs generalizing part with
  | nil =>
    rw [List.mem_singleton.mp h]
    exact List.not_mem_nil
  | cons c cs ih =>
    rw [splitChars_cons] at h
    by_cases hc : c = sep
    · rw [if_pos hc] at h
      rcases List.mem_cons.mp h with rfl | h
      · exact List.not_mem_nil
      · exact ih h
    · rw [if_neg hc] at h
      obtain ⟨first, rest, hsplit⟩ := List.exists_cons_of_ne_nil (splitChars_ne_nil sep cs)
      rw [hsplit] at h ih
      rcases List.mem_cons.mp h with rfl | h
      · rw [List.mem_cons, not_or]
        exact ⟨Ne.symm hc, ih List.mem_cons_self⟩
      · exact ih (List.mem_cons_of_mem first h)

theorem splitOnP_unit {unit : List UriPiece} (h : ∀ p ∈ unit, p.isSlash = false)
    (ps : List UriPiece) :
    (unit ++ ps).splitOnP UriPiece.isSlash =
      (ps.splitOnP UriPiece.isSlash).modifyHead (unit ++ ·) := by
  induction unit with
  | nil =>
    rw [List.nil_append]
    cases ps.splitOnP UriPiece.isSlash <;> rfl
  | cons p unit ih =>
    rw [List.cons_append, List.splitOnP_cons_eq_if_modifyHead, h p List.mem_cons_self,
      ih fun q hq => h q (List.mem_cons_of_mem p hq)]
    cases ps.splitOnP UriPiece.isSlash <;> rfl

/-- The parts of decoded pieces are the decoded parts of the pieces. -/
theorem map_decodePieces {ps : List UriPiece} {ds : List Char} (h : decodePieces ps = some ds) :
    (ps.splitOnP UriPiece.isSlash).map decodePieces = (splitChars '/' ds).map some := by
  induction ds generalizing ps with
  | nil =>
    rw [eq_nil_of_decodePieces h]
    rfl
  | cons c ds ih =>
    match ps, h with
    | p :: ps, h =>
      obtain ⟨unit, rest, c', ds', heq, hds, hunit, hrest⟩ := exists_unit h
      obtain ⟨rfl, rfl⟩ := List.cons.inj hds
      rw [heq, splitChars_cons]
      have hparts := ih hrest
      by_cases hslash : c = '/'
      · subst hslash
        have hsingle : ∃ p, unit = [p] ∧ p.isSlash = true := by
          rcases hunit.shape with hunit | ⟨_, hunit⟩ | ⟨hlarge, _⟩
          · exact ⟨_, hunit, rfl⟩
          · exact ⟨_, hunit, rfl⟩
          · exact absurd hlarge (by decide)
        obtain ⟨p, rfl, hp⟩ := hsingle
        rw [List.singleton_append, List.splitOnP_cons_eq_if_modifyHead, if_pos hp, if_pos rfl,
          List.map_cons, hparts]
        rfl
      · have hnone : ∀ p ∈ unit, p.isSlash = false := by
          have htoNat : c.toNat ≠ 0x2f := fun heq => hslash (Char.toNat_inj.mp heq)
          rcases hunit.shape with rfl | ⟨_, rfl⟩ | ⟨_, hbytes⟩
          · simpa [UriPiece.isSlash] using hslash
          · simpa [UriPiece.isSlash] using htoNat
          · intro p hp
            obtain ⟨b, rfl, hb⟩ := hbytes p hp
            have hne : b ≠ 0x2f := by omega
            simpa [UriPiece.isSlash] using hne
        rw [if_neg hslash, splitOnP_unit hnone]
        refine map_modifyHead hparts fun qs cs hqs => ?_
        rw [hunit.decodes, hqs]
        rfl

/-! ## Cutting a text -/

theorem hexValue_percent : hexValue '%' = none := by decide

/-- A digit has its value in either case. -/
theorem hexValue_eq_some {c : Char} {n : ℕ} (h : hexValue c = some n) :
    (n < 10 ∧ c.toNat = n + 0x30) ∨
      (10 ≤ n ∧ n < 16 ∧ (c.toNat = n + 0x57 ∨ c.toNat = n + 0x37)) := by
  unfold hexValue at h
  split at h
  · next hdigit =>
    have hn := Option.some.inj h
    have hrange : 48 ≤ c.toNat ∧ c.toNat ≤ 57 := by
      simpa [Char.isDigit, UInt32.le_iff_toNat_le] using hdigit
    omega
  · split at h
    · have hn := Option.some.inj h
      omega
    · split at h
      · have hn := Option.some.inj h
        omega
      · cases h

/-- The digits of an escape with a value. -/
theorem digits_of_value {high low : Char} {h l : ℕ} (hhigh : hexValue high = some h)
    (hlow : hexValue low = some l) {n : ℕ} (hn : 16 * h + l = 16 * 2 + n) (hten : 10 ≤ n)
    (hlt : n < 16) :
    high = '2' ∧ (low.toNat = n + 0x57 ∨ low.toNat = n + 0x37) := by
  have hh := hexValue_eq_some hhigh
  have hl := hexValue_eq_some hlow
  have htwo : h = 2 ∧ l = n := by omega
  refine ⟨Char.toNat_inj.mp (show high.toNat = 0x32 by omega), by omega⟩

theorem cut_cons_of_ne {c : Char} (hc : c ≠ '%') (cs : List Char) :
    cutAtEscapedSlashes (c :: cs) = (cutAtEscapedSlashes cs).modifyHead (c :: ·) := by
  match cs with
  | [] => rfl
  | [_] => rfl
  | high :: low :: rest =>
    rw [cutAtEscapedSlashes, if_neg]
    exact fun h => hc h.1

theorem cut_escapedSlash {low : Char} (hlow : low = 'F' ∨ low = 'f') (cs : List Char) :
    cutAtEscapedSlashes ('%' :: '2' :: low :: cs) = [] :: cutAtEscapedSlashes cs := by
  rw [cutAtEscapedSlashes, if_pos ⟨rfl, rfl, hlow⟩]

theorem cut_escape {high low : Char} (hhigh : high ≠ '%') (hlow : low ≠ '%')
    (hslash : ¬(high = '2' ∧ (low = 'F' ∨ low = 'f'))) (cs : List Char) :
    cutAtEscapedSlashes ('%' :: high :: low :: cs) =
      (cutAtEscapedSlashes cs).modifyHead (['%', high, low] ++ ·) := by
  rw [cutAtEscapedSlashes, if_neg fun h => hslash h.2, cut_cons_of_ne hhigh, cut_cons_of_ne hlow]
  cases cutAtEscapedSlashes cs <;> rfl

/-- The pieces of the parts of a text are the parts of its pieces. -/
theorem map_uriPieces {cs : List Char} {ps : List UriPiece} (h : uriPieces cs = some ps)
    (hslash : '/' ∉ cs) :
    (cutAtEscapedSlashes cs).map uriPieces = (ps.splitOnP UriPiece.isSlash).map some := by
  induction ps generalizing cs with
  | nil =>
    rw [eq_nil_of_uriPieces h]
    rfl
  | cons p ps ih =>
    obtain ⟨text, rest, rfl, hwritten, hrest⟩ := exists_writtenAs h
    have hparts := ih hrest fun hmem => hslash (List.mem_append_right text hmem)
    rw [List.splitOnP_cons_eq_if_modifyHead]
    have hgrow : (cutAtEscapedSlashes (text ++ rest)) =
        (cutAtEscapedSlashes rest).modifyHead (text ++ ·) → p.isSlash = false →
        (cutAtEscapedSlashes (text ++ rest)).map uriPieces =
          (if p.isSlash = true then [] :: ps.splitOnP UriPiece.isSlash
            else (ps.splitOnP UriPiece.isSlash).modifyHead (p :: ·)).map some := by
      intro hcut hp
      rw [hcut, hp, if_neg Bool.false_ne_true]
      refine map_modifyHead hparts fun cs qs hcs => ?_
      rw [hwritten.uriPieces_append, hcs]
      rfl
    cases hwritten with
    | @char c hpercent =>
      refine hgrow (cut_cons_of_ne hpercent rest) ?_
      have hne : c ≠ '/' := by
        rintro rfl
        exact hslash (List.mem_append_left rest (List.mem_singleton_self _))
      simpa [UriPiece.isSlash] using hne
    | @byte high low x y hhigh hlow =>
      by_cases hvalue : 16 * x + y = 0x2f
      · obtain ⟨rfl, hdigit⟩ := digits_of_value hhigh hlow (n := 15) hvalue (by omega) (by omega)
        have hlow' : low = 'F' ∨ low = 'f' := by
          rcases hdigit with hdigit | hdigit
          · exact .inr (Char.toNat_inj.mp hdigit)
          · exact .inl (Char.toNat_inj.mp hdigit)
        have hp : (UriPiece.byte (16 * x + y)).isSlash = true := by
          rw [hvalue]
          rfl
        change (cutAtEscapedSlashes ('%' :: '2' :: low :: rest)).map uriPieces = _
        rw [cut_escapedSlash hlow', if_pos hp, List.map_cons, List.map_cons, hparts]
        rfl
      · have hdigit {c : Char} {n : ℕ} (hc : hexValue c = some n) : c ≠ '%' := by
          rintro rfl
          rw [hexValue_percent] at hc
          cases hc
        refine hgrow (cut_escape (hdigit hhigh) (hdigit hlow) ?_ rest) ?_
        · rintro ⟨rfl, hlow' | hlow'⟩
          all_goals
            subst hlow'
            cases hhigh
            cases hlow
            exact hvalue rfl
        · simpa [UriPiece.isSlash] using hvalue

theorem decodeURIComponent_ofList (cs : List Char) :
    decodeURIComponent (String.ofList cs) =
      ((uriPieces cs).bind decodePieces).map String.ofList := by
  unfold decodeURIComponent
  rw [String.toList_ofList]
  cases uriPieces cs with
  | none => rfl
  | some ps =>
    change (decodePieces ps).bind _ = (decodePieces ps).map _
    cases decodePieces ps <;> rfl

/-- The parts of a decoded segment are its decoded parts. -/
theorem map_decode_cut {segment decoded : String} (hslash : '/' ∉ segment.toList)
    (h : decodeURIComponent segment = some decoded) :
    (cutAtEscapedSlashes segment.toList).map (fun part => decodeURIComponent (String.ofList part)) =
      (split decoded '/').map some := by
  rw [← String.ofList_toList (s := segment), decodeURIComponent_ofList] at h
  obtain ⟨ds, hbind, rfl⟩ := Option.map_eq_some_iff.mp h
  obtain ⟨ps, hps, hds⟩ := Option.bind_eq_some_iff.mp hbind
  calc (cutAtEscapedSlashes segment.toList).map
        (fun part => decodeURIComponent (String.ofList part))
      = ((cutAtEscapedSlashes segment.toList).map uriPieces).map
          (fun o => (o.bind decodePieces).map String.ofList) := by
        rw [List.map_map]
        exact List.map_congr_left fun part _ => decodeURIComponent_ofList part
    _ = ((ps.splitOnP UriPiece.isSlash).map decodePieces).map (Option.map String.ofList) := by
        rw [map_uriPieces hps hslash, List.map_map, List.map_map]
        rfl
    _ = (split (String.ofList ds) '/').map some := by
        unfold split
        rw [map_decodePieces hds, String.toList_ofList, List.map_map, List.map_map]
        rfl

/-! ## Dot segments -/

/-- A text that is decoded to a dot and more starts with a spelling of the dot. -/
theorem exists_dot {cs ds : List Char} (h : (uriPieces cs).bind decodePieces = some ('.' :: ds)) :
    ∃ dot ∈ Url.singleDots, ∃ rest, cs = dot ++ rest ∧
      (uriPieces rest).bind decodePieces = some ds := by
  obtain ⟨ps, hps, hds⟩ := Option.bind_eq_some_iff.mp h
  match ps, hps, hds with
  | p :: ps, hps, hds =>
    obtain ⟨unit, rest, c, ds', heq, hcons, hunit, hrest⟩ := exists_unit hds
    obtain ⟨rfl, rfl⟩ := List.cons.inj hcons
    have hsingle : unit = [.char '.'] ∨ unit = [.byte 0x2e] := by
      rcases hunit.shape with hunit | ⟨_, hunit⟩ | ⟨hlarge, _⟩
      · exact .inl hunit
      · exact .inr hunit
      · exact absurd hlarge (by decide)
    obtain ⟨text, rest', rfl, hwritten, hrest'⟩ := exists_writtenAs hps
    rcases hsingle with rfl | rfl
    · obtain ⟨rfl, rfl⟩ := List.cons.inj heq
      refine ⟨text, ?_, rest', rfl, Option.bind_eq_some_iff.mpr ⟨ps, hrest', hrest⟩⟩
      cases hwritten
      decide
    · obtain ⟨hp, rfl⟩ := List.cons.inj heq
      refine ⟨text, ?_, rest', rfl, Option.bind_eq_some_iff.mpr ⟨ps, hrest', hrest⟩⟩
      cases hwritten with
      | char => cases hp
      | @byte high low x y hhigh hlow =>
        have hvalue : 16 * x + y = 0x2e := UriPiece.byte.inj hp
        obtain ⟨rfl, hdigit | hdigit⟩ :=
          digits_of_value hhigh hlow (n := 14) hvalue (by omega) (by omega)
        · obtain rfl : low = 'e' := Char.toNat_inj.mp hdigit
          decide
        · obtain rfl : low = 'E' := Char.toNat_inj.mp hdigit
          decide

theorem eq_nil_of_decode {cs : List Char} (h : (uriPieces cs).bind decodePieces = some []) :
    cs = [] := by
  obtain ⟨ps, hps, hds⟩ := Option.bind_eq_some_iff.mp h
  rw [eq_nil_of_decodePieces hds] at hps
  exact eq_nil_of_uriPieces hps

/-- Nothing, or a spelling of a dot segment. -/
def leadsElsewhere (part : List Char) : Bool :=
  part = [] || Url.singleDots.contains part || Url.doubleDots.contains part

/-- A part is decoded to nothing or to a dot segment only where it is spelled so. -/
theorem leadsElsewhere_iff {part : List Char} {decoded : String}
    (h : decodeURIComponent (String.ofList part) = some decoded) :
    leadsElsewhere part = true ↔ decoded = "" ∨ decoded = "." ∨ decoded = ".." := by
  obtain ⟨hsingles, hdoubles⟩ := Url.decode_dots
  unfold leadsElsewhere
  rw [Bool.or_eq_true, Bool.or_eq_true, decide_eq_true_eq, List.contains_iff_mem,
    List.contains_iff_mem]
  constructor
  · rintro ((rfl | hsingle) | hdouble)
    · exact .inl (Option.some.inj h).symm
    · exact .inr (.inl (Option.some.inj (h.symm.trans (hsingles part hsingle))))
    · exact .inr (.inr (Option.some.inj (h.symm.trans (hdoubles part hdouble))))
  · rw [decodeURIComponent_ofList] at h
    obtain ⟨ds, hds, rfl⟩ := Option.map_eq_some_iff.mp h
    rintro (hempty | hsingle | hdouble)
    · obtain rfl : ds = [] := String.ofList_injective hempty
      exact .inl (.inl (eq_nil_of_decode hds))
    · obtain rfl : ds = ['.'] := String.ofList_injective hsingle
      obtain ⟨dot, hdot, rest, rfl, hrest⟩ := exists_dot hds
      rw [eq_nil_of_decode hrest, List.append_nil]
      exact .inl (.inr hdot)
    · obtain rfl : ds = ['.', '.'] := String.ofList_injective hdouble
      obtain ⟨dot, hdot, rest, rfl, hrest⟩ := exists_dot hds
      obtain ⟨dot', hdot', rest', rfl, hrest'⟩ := exists_dot hrest
      have hpairs : ∀ dot ∈ Url.singleDots, ∀ dot' ∈ Url.singleDots,
          dot ++ dot' ∈ Url.doubleDots := by decide
      rw [eq_nil_of_decode hrest', List.append_nil]
      exact .inr (hpairs dot hdot dot' hdot')

end Js
