import DpIntegrator.Js.Uri
import Mathlib.Data.List.TakeWhile

/-!
# URLs

The URL parser on absolute URLs, as far as the program reads its result: the origin and the path.
Spaces and controls around a URL are dropped, and so are tabs and newlines in it. A special scheme
is followed by slashes, of either kind, and an authority, which ends at the first slash, `?` or
`#`; the path that follows is cut at its slashes, its `.` and `..` segments are resolved and what
may not stand in a path is escaped.
-/

namespace Js

/-- What the program reads of a URL. -/
structure Url where
  origin : String
  pathname : String
  deriving DecidableEq

/-- The parts of the URL standard that are left open here. -/
structure UrlRules where
  /-- The origin of a URL from its special scheme and its authority: the parser of credentials,
  hosts and ports. `none` where it fails. -/
  originOf : (scheme authority : List Char) → Option String
  /-- A URL with another scheme, from the scheme and what follows the colon. -/
  other : (scheme rest : List Char) → Option Url

namespace Url

/-! ## The parser -/

def isSlash (c : Char) : Bool := c = '/' || c = '\\'

/-- Where an authority ends. -/
def endsAuthority (c : Char) : Bool := isSlash c || c = '?' || c = '#'

def isSchemeChar (c : Char) : Bool := c.isAlphanum || c = '+' || c = '-' || c = '.'

/-- The text of a URL without the spaces and controls around it and the tabs and newlines in it. -/
def clean (cs : List Char) : List Char :=
  let blank (c : Char) : Bool := c.toNat ≤ 0x20
  let trimmed := ((cs.dropWhile blank).reverse.dropWhile blank).reverse
  trimmed.filter fun c => !(c = '\t' || c = '\n' || c = '\r')

/-- The special schemes but `file`. -/
def specialSchemes : List (List Char) :=
  ["http".toList, "https".toList, "ws".toList, "wss".toList, "ftp".toList]

def singleDots : List (List Char) := [".".toList, "%2e".toList, "%2E".toList]

def doubleDots : List (List Char) :=
  ["..".toList, ".%2e".toList, ".%2E".toList, "%2e.".toList, "%2E.".toList, "%2e%2e".toList,
    "%2e%2E".toList, "%2E%2e".toList, "%2E%2E".toList]

/-- The path percent-encode set. -/
def inPathSet (c : Char) : Bool :=
  c.toNat ≤ 0x20 || 0x7e < c.toNat || "\"#<>?^`\x7b\x7d".toList.contains c

/-- A segment as it stands in a path. -/
def encodeSegment (segment : List Char) : List Char :=
  segment.flatMap fun c => if inPathSet c then (utf8Bytes c).flatMap escapeByte else [c]

/-- Append the segments of a path one after the other. -/
def pathState (path : List (List Char)) : List (List Char) → List (List Char)
  | [] => path
  | [last] =>
    if last ∈ doubleDots then path.dropLast ++ [[]]
    else if last ∈ singleDots then path ++ [[]]
    else path ++ [encodeSegment last]
  | segment :: rest =>
    if segment ∈ doubleDots then pathState path.dropLast rest
    else if segment ∈ singleDots then pathState path rest
    else pathState (path ++ [encodeSegment segment]) rest

/-- The path of a URL from what follows its authority. -/
def pathOf (cs : List Char) : List (List Char) :=
  let path := (cs.takeWhile fun c => !(c = '?' || c = '#')).map
    fun c => if isSlash c then '/' else c
  pathState [] (splitChars '/' (if path.head? = some '/' then path.tail else path))

/-- The path as one text: a slash before each segment. -/
def joinPath (path : List (List Char)) : List Char := path.flatMap ('/' :: ·)

/-- `new URL(input)`; `none` where it throws. -/
def parse (rules : UrlRules) (input : String) : Option Url :=
  let cs := clean input.toList
  let scheme := (cs.takeWhile isSchemeChar).map Char.toLower
  match cs.dropWhile isSchemeChar with
  | ':' :: rest =>
    if !(cs.head?.any Char.isAlpha) then none
    else if scheme ∈ specialSchemes then
      let rest := rest.dropWhile isSlash
      (rules.originOf scheme (rest.takeWhile fun c => !endsAuthority c)).map fun origin =>
        { origin
          pathname := String.ofList (joinPath (pathOf (rest.dropWhile fun c => !endsAuthority c))) }
    else rules.other scheme rest
  | _ => none

/-! ## Plain URLs -/

/-- A segment that the parser leaves as it is: of characters that may stand in a path, and no dot
segment. -/
structure IsPlain (segment : List Char) : Prop where
  chars : ∀ c ∈ segment, inPathSet c = false ∧ isSlash c = false
  notSingle : segment ∉ singleDots
  notDouble : segment ∉ doubleDots

/-- An address without a path: a scheme and an authority. -/
structure Root where
  scheme : String
  authority : String
  special : scheme = "http" ∨ scheme = "https"
  nonempty : authority ≠ ""
  plain : ∀ c ∈ authority.toList, 0x20 < c.toNat ∧ endsAuthority c = false

def Root.text (root : Root) : String := root.scheme ++ "://" ++ root.authority

theorem clean_eq_self {cs : List Char} (h : ∀ c ∈ cs, 0x20 < c.toNat) : clean cs = cs := by
  have hdrop {l : List Char} (hl : ∀ c ∈ l, 0x20 < c.toNat) :
      l.dropWhile (fun c => decide (c.toNat ≤ 0x20)) = l := by
    cases l with
    | nil => rfl
    | cons c l =>
      have hc := hl c List.mem_cons_self
      rw [List.dropWhile_cons_of_neg (by simpa using hc)]
  unfold clean
  simp only
  rw [hdrop h, hdrop (fun c hc => h c (List.mem_reverse.mp hc)), List.reverse_reverse,
    List.filter_eq_self]
  intro c hc
  have hlt := h c hc
  have hne (d : Char) (hd : d.toNat ≤ 0x20) : c ≠ d := by
    rintro rfl
    omega
  simp [hne '\t' (by decide), hne '\n' (by decide), hne '\r' (by decide)]

theorem encodeSegment_eq_self {segment : List Char} (h : ∀ c ∈ segment, inPathSet c = false) :
    encodeSegment segment = segment := by
  unfold encodeSegment
  induction segment with
  | nil => rfl
  | cons c segment ih =>
    rw [List.flatMap_cons, h c List.mem_cons_self,
      ih fun c' hc' => h c' (List.mem_cons_of_mem c hc')]
    rfl

/-- Plain segments are appended as they are. -/
theorem pathState_of_plain {segments : List (List Char)} (h : ∀ s ∈ segments, IsPlain s)
    (path : List (List Char)) : pathState path segments = path ++ segments := by
  induction segments generalizing path with
  | nil => rw [pathState, List.append_nil]
  | cons segment rest ih =>
    have hsegment := h segment List.mem_cons_self
    have hencode := encodeSegment_eq_self fun c hc => (hsegment.chars c hc).1
    cases rest with
    | nil => rw [pathState, if_neg hsegment.notDouble, if_neg hsegment.notSingle, hencode]
    | cons next rest =>
      rw [pathState, if_neg hsegment.notDouble, if_neg hsegment.notSingle, hencode,
        ih fun s hs => h s (List.mem_cons_of_mem segment hs), List.append_assoc]
      · rfl
      · intro hnil
        cases hnil

theorem splitChars_eq_splitOn (sep : Char) (cs : List Char) :
    splitChars sep cs = cs.splitOn sep := by
  induction cs with
  | nil => rfl
  | cons c cs ih =>
    rw [splitChars, List.splitOn_cons_eq_if_modifyHead, ← ih]
    by_cases hc : c = sep
    · simp [hc]
    · rw [if_neg hc, if_neg (by simpa using hc)]
      cases hsplit : splitChars sep cs with
      | nil => exact absurd hsplit (splitChars_ne_nil sep cs)
      | cons part rest => rfl

theorem joinPath_eq {segments : List (List Char)} (h : segments ≠ []) :
    joinPath segments = '/' :: ['/'].intercalate segments := by
  unfold joinPath
  induction segments with
  | nil => exact absurd rfl h
  | cons segment rest ih =>
    rw [List.flatMap_cons]
    cases rest with
    | nil => simp
    | cons next rest =>
      rw [ih (List.cons_ne_nil next rest), List.intercalate_cons_cons]
      simp

/-- The segments of a path are found in its text. -/
theorem splitChars_joinPath {segments : List (List Char)} (hne : segments ≠ [])
    (h : ∀ s ∈ segments, '/' ∉ s) : splitChars '/' (joinPath segments) = [] :: segments := by
  rw [joinPath_eq hne, splitChars, if_pos rfl, splitChars_eq_splitOn,
    List.splitOn_intercalate '/' h hne]

theorem IsPlain.slash_notMem {segment : List Char} (h : IsPlain segment) : '/' ∉ segment := by
  intro hmem
  have hslash := (h.chars '/' hmem).2
  revert hslash
  decide

/-- A plain path is its own path. -/
theorem pathOf_joinPath {segments : List (List Char)} (hne : segments ≠ [])
    (h : ∀ s ∈ segments, IsPlain s) : pathOf (joinPath segments) = segments := by
  have hchar : ∀ c ∈ joinPath segments, c = '/' ∨ inPathSet c = false ∧ isSlash c = false := by
    intro c hc
    obtain ⟨segment, hsegment, hmem⟩ := List.mem_flatMap.mp hc
    rcases List.mem_cons.mp hmem with hslash | hmem
    · exact .inl hslash
    · exact .inr ((h segment hsegment).chars c hmem)
  have htake : (joinPath segments).takeWhile (fun c => !(c = '?' || c = '#')) =
      joinPath segments := by
    rw [List.takeWhile_eq_self_iff]
    intro c hc
    rcases hchar c hc with rfl | ⟨hset, _⟩
    · decide
    · have hother (d : Char) (hd : inPathSet d = true) : c ≠ d := by
        rintro rfl
        rw [hset] at hd
        cases hd
      simp [hother '?' (by decide), hother '#' (by decide)]
  have hmap : (joinPath segments).map (fun c => if isSlash c then '/' else c) =
      joinPath segments := by
    rw [List.map_congr_left (g := id), List.map_id]
    intro c hc
    rcases hchar c hc with rfl | ⟨_, hslash⟩
    · rfl
    · rw [hslash]
      rfl
  unfold pathOf
  simp only [htake, hmap]
  rw [joinPath_eq hne, List.head?_cons, if_pos rfl, List.tail_cons, splitChars_eq_splitOn,
    List.splitOn_intercalate '/' (fun s hs => (h s hs).slash_notMem) hne, pathState_of_plain h,
    List.nil_append]

theorem Root.toList_text (root : Root) :
    root.text.toList = root.scheme.toList ++ ':' :: '/' :: '/' :: root.authority.toList := by
  unfold Root.text
  rw [String.toList_append, String.toList_append]
  simp

/-- A root that a path or nothing follows: the origin is that of the root. -/
theorem parse_root (rules : UrlRules) (root : Root) {tail : List Char}
    (htail : ∀ c ∈ tail, 0x20 < c.toNat) (hslash : tail = [] ∨ ∃ rest, tail = '/' :: rest) :
    parse rules (root.text ++ String.ofList tail) =
      (rules.originOf root.scheme.toList root.authority.toList).map fun origin =>
        { origin, pathname := String.ofList (joinPath (pathOf tail)) } := by
  have hscheme : (∀ c ∈ root.scheme.toList, isSchemeChar c = true) ∧
      root.scheme.toList.map Char.toLower = root.scheme.toList ∧
      root.scheme.toList ∈ specialSchemes ∧ ∀ c ∈ root.scheme.toList, 0x20 < c.toNat := by
    rcases root.special with h | h
    all_goals
      rw [h]
      exact ⟨List.all_iff_forall_prop.mp (by decide), by decide, by decide,
        List.all_iff_forall_prop.mp (by decide)⟩
  obtain ⟨hchars, hlower, hspecial, hvisible⟩ := hscheme
  have halpha (cs : List Char) : (root.scheme.toList ++ cs).head?.any Char.isAlpha = true := by
    rcases root.special with h | h
    all_goals
      rw [h]
      rfl
  have hauthority : ∀ c ∈ root.authority.toList, (!endsAuthority c) = true :=
    fun c hc => by rw [(root.plain c hc).2, Bool.not_false]
  have htext : (root.text ++ String.ofList tail).toList =
      root.scheme.toList ++ ':' :: '/' :: '/' :: (root.authority.toList ++ tail) := by
    rw [String.toList_append, root.toList_text, String.toList_ofList]
    simp
  have hclean : clean (root.text ++ String.ofList tail).toList =
      root.scheme.toList ++ ':' :: '/' :: '/' :: (root.authority.toList ++ tail) := by
    rw [htext]
    apply clean_eq_self
    intro c hc
    simp only [List.mem_append, List.mem_cons] at hc
    rcases hc with hc | rfl | rfl | rfl | hc | hc
    · exact hvisible c hc
    · decide
    · decide
    · decide
    · exact (root.plain c hc).1
    · exact htail c hc
  have hslashes : ('/' :: '/' :: (root.authority.toList ++ tail)).dropWhile isSlash =
      root.authority.toList ++ tail := by
    rw [List.dropWhile_cons_of_pos (by decide), List.dropWhile_cons_of_pos (by decide)]
    cases hlist : root.authority.toList with
    | nil => exact absurd (String.toList_eq_nil_iff.mp hlist) root.nonempty
    | cons c cs =>
      have hends := (root.plain c (by rw [hlist]; exact List.mem_cons_self)).2
      have hnot : ¬isSlash c = true := by
        intro hslash
        unfold endsAuthority at hends
        rw [hslash] at hends
        cases hends
      rw [List.cons_append, List.dropWhile_cons_of_neg hnot]
  have hends : tail.takeWhile (fun c => !endsAuthority c) = [] ∧
      tail.dropWhile (fun c => !endsAuthority c) = tail := by
    rcases hslash with rfl | ⟨rest, rfl⟩
    · exact ⟨rfl, rfl⟩
    · exact ⟨List.takeWhile_cons_of_neg (by decide), List.dropWhile_cons_of_neg (by decide)⟩
  unfold parse
  simp only [hclean, List.takeWhile_append_of_pos hchars, List.dropWhile_append_of_pos hchars,
    List.takeWhile_cons_of_neg (show ¬isSchemeChar ':' = true by decide),
    List.dropWhile_cons_of_neg (show ¬isSchemeChar ':' = true by decide), List.append_nil, hlower,
    hslashes, List.takeWhile_append_of_pos hauthority, List.dropWhile_append_of_pos hauthority,
    hends.1, hends.2, if_pos hspecial, halpha, Bool.not_true, Bool.false_eq_true, if_false]

/-! ## Encoded segments -/

theorem isUnreserved_toNat {c : Char} (h : isUnreserved c = true) :
    0x20 < c.toNat ∧ c.toNat < 0x7f := by
  unfold isUnreserved at h
  rw [Bool.or_eq_true] at h
  rcases h with h | h
  · change (decide (c.val ≥ 'A'.val ∧ c.val ≤ 'Z'.val) ||
      (decide (c.val ≥ 'a'.val) && decide (c.val ≤ 'z'.val)) ||
      (decide (c.val ≥ '0'.val) && decide (c.val ≤ '9'.val))) = true at h
    simp only [Bool.or_eq_true, Bool.and_eq_true, decide_eq_true_eq, UInt32.le_iff_toNat_le,
      ge_iff_le] at h
    have hval : c.toNat = c.val.toNat := rfl
    have hupper : 'A'.val.toNat = 65 ∧ 'Z'.val.toNat = 90 := by decide
    have hlower : 'a'.val.toNat = 97 ∧ 'z'.val.toNat = 122 := by decide
    have hdigit : '0'.val.toNat = 48 ∧ '9'.val.toNat = 57 := by decide
    omega
  · have hall : ∀ d ∈ "-_.!~*'()".toList, 0x20 < d.toNat ∧ d.toNat < 0x7f :=
      List.all_iff_forall_prop.mp (by decide)
    exact hall c (by simpa using h)

/-- A character of an encoded text may stand in a path. -/
theorem mayStand_of_mem_encode {s : String} {c : Char} (h : c ∈ (encodeURIComponent s).toList) :
    0x20 < c.toNat ∧ inPathSet c = false ∧ isSlash c = false := by
  rcases mem_encodeURIComponent h with hunreserved | rfl
  · obtain ⟨hlow, hhigh⟩ := isUnreserved_toNat hunreserved
    have hreserved : ∀ d ∈ "\"#<>?^`\x7b\x7d/\\".toList, isUnreserved d = false :=
      List.all_iff_forall_prop.mp (by decide)
    have hne : ∀ d ∈ "\"#<>?^`\x7b\x7d/\\".toList, c ≠ d := by
      rintro d hd rfl
      rw [hreserved c hd] at hunreserved
      cases hunreserved
    refine ⟨hlow, ?_, ?_⟩
    · have hcontains : "\"#<>?^`\x7b\x7d".toList.contains c = false := by
        rw [List.contains_eq_mem, decide_eq_false_iff_not]
        intro hmem
        exact hne c (List.mem_append_left _ hmem) rfl
      unfold inPathSet
      rw [hcontains, decide_eq_false (by omega), decide_eq_false (by omega)]
      rfl
    · unfold isSlash
      rw [decide_eq_false (hne '/' (by decide)), decide_eq_false (hne '\\' (by decide))]
      rfl
  · decide

/-- The spellings of dot segments. -/
theorem decode_dots :
    (∀ segment ∈ singleDots, decodeURIComponent (String.ofList segment) = some ".") ∧
      ∀ segment ∈ doubleDots, decodeURIComponent (String.ofList segment) = some ".." := by
  decide +kernel

/-- An encoded text is a plain segment, unless it is a dot segment. -/
theorem isPlain_encodeURIComponent {s : String} (hsingle : s ≠ ".") (hdouble : s ≠ "..") :
    IsPlain (encodeURIComponent s).toList := by
  have hdecode := decodeURIComponent_encodeURIComponent s
  obtain ⟨hsingles, hdoubles⟩ := decode_dots
  refine ⟨fun c hc => (mayStand_of_mem_encode hc).2, ?_, ?_⟩
  · intro hmem
    have hdot := hsingles _ hmem
    rw [String.ofList_toList, hdecode] at hdot
    exact hsingle (Option.some.inj hdot)
  · intro hmem
    have hdots := hdoubles _ hmem
    rw [String.ofList_toList, hdecode] at hdots
    exact hdouble (Option.some.inj hdots)

/-- The segments of a text that are written one after the other, each encoded. -/
def encodedPath (segments : List String) : List (List Char) :=
  segments.map fun s => (encodeURIComponent s).toList

theorem isPlain_of_mem_encodedPath {segments : List String}
    (h : ∀ s ∈ segments, s ≠ "." ∧ s ≠ "..") : ∀ s ∈ encodedPath segments, IsPlain s := by
  intro segment hmem
  obtain ⟨s, hs, rfl⟩ := List.mem_map.mp hmem
  exact isPlain_encodeURIComponent (h s hs).1 (h s hs).2

/-- A URL of encoded segments behind a root has these segments as its path. -/
theorem parse_encodedPath (rules : UrlRules) (root : Root) {segments : List String}
    (hne : segments ≠ []) (h : ∀ s ∈ segments, s ≠ "." ∧ s ≠ "..") :
    parse rules (root.text ++ String.ofList (joinPath (encodedPath segments))) =
      (rules.originOf root.scheme.toList root.authority.toList).map fun origin =>
        { origin, pathname := String.ofList (joinPath (encodedPath segments)) } := by
  have hne' : encodedPath segments ≠ [] := by
    simpa [encodedPath] using hne
  have hvisible : ∀ c ∈ joinPath (encodedPath segments), 0x20 < c.toNat := by
    intro c hc
    obtain ⟨segment, hsegment, hmem⟩ := List.mem_flatMap.mp hc
    rcases List.mem_cons.mp hmem with rfl | hmem
    · decide
    · obtain ⟨s, _, rfl⟩ := List.mem_map.mp hsegment
      exact (mayStand_of_mem_encode hmem).1
  rw [parse_root rules root hvisible (.inr ⟨_, joinPath_eq hne'⟩),
    pathOf_joinPath hne' (isPlain_of_mem_encodedPath h)]

/-- The segments of such a path, encoded as they are. -/
theorem split_encodedPath {segments : List String} (hne : segments ≠ [])
    (h : ∀ s ∈ segments, s ≠ "" ∧ s ≠ "." ∧ s ≠ "..") :
    (split (String.ofList (joinPath (encodedPath segments))) '/').filter (fun p => p ≠ "") =
      segments.map encodeURIComponent := by
  have hne' : encodedPath segments ≠ [] := by
    simpa [encodedPath] using hne
  have hplain := isPlain_of_mem_encodedPath fun s hs => (h s hs).2
  unfold split
  rw [String.toList_ofList, splitChars_joinPath hne' fun s hs => (hplain s hs).slash_notMem,
    List.map_cons, List.filter_cons_of_neg (by decide), List.filter_eq_self.mpr]
  · simp [encodedPath]
  · intro p hp
    obtain ⟨segment, hsegment, rfl⟩ := List.mem_map.mp hp
    obtain ⟨s, hs, rfl⟩ := List.mem_map.mp hsegment
    rw [String.ofList_toList]
    simpa using encodeURIComponent_ne_empty (h s hs).1

end Url

end Js
