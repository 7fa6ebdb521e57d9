import DpIntegrator.Functions.BlobUris
import DpIntegrator.Js.EscapedSlashes

/-!
# URIs that lead elsewhere

The admin API and the reader both look at the segments of a URI's path after decoding them. A slash
that is escaped is part of a segment for them, but divides the name of the blob that is read.
-/

namespace DpIntegrator

open Js (Url UrlRules)

/-- A segment behind the container has an escaped slash next to nothing or to a dot segment. -/
def HidesTraversal (rules : UrlRules) (uri : String) : Prop :=
  ∃ url, Url.parse rules uri = some url ∧ ∃ segment ∈ (urlParts url).tail,
    ∃ part ∈ Js.cutAtEscapedSlashes segment.toList, Js.leadsElsewhere part = true

section

variable {rules : UrlRules} {accountUrl serviceUrl uri : String} {ref : BlobRef}

theorem newUrl_eq_ok {input : String} {url : Url} (h : newUrl rules input = .ok url) :
    Url.parse rules input = some url := by
  unfold newUrl at h
  cases hparse : Url.parse rules input with
  | none =>
    rw [hparse] at h
    cases h
  | some url' =>
    rw [hparse] at h
    rw [Except.ok.inj h]

/-- Every part of a URI that passes the checks is decoded, and not to a dot segment. -/
theorem decoded_of_check (h : checkPayloadUri rules accountUrl uri = .ok none) :
    ∃ url, Url.parse rules uri = some url ∧ ∀ raw ∈ urlParts url,
      ∃ decoded, Js.decodeURIComponent raw = some decoded ∧ isRejected decoded = false := by
  unfold checkPayloadUri at h
  cases hparse : Url.parse rules uri with
  | none =>
    rw [hparse] at h
    cases h
  | some url =>
    rw [hparse] at h
    obtain ⟨expected, _, h⟩ := bind_eq_ok.mp h
    refine ⟨url, rfl, fun raw hraw => ?_⟩
    have hrefusals : (urlParts url).findSome? refusalOf = none := by
      by_cases horigin : url.origin ≠ expected.origin
      · rw [if_pos horigin] at h
        cases h
      · rw [if_neg horigin] at h
        by_cases hlength : (urlParts url).length < 2
        · rw [if_pos hlength] at h
          cases h
        · rw [if_neg hlength] at h
          exact Except.ok.inj h
    have hnone := List.findSome?_eq_none_iff.mp hrefusals raw hraw
    unfold refusalOf at hnone
    cases hdecode : Js.decodeURIComponent raw with
    | none =>
      rw [hdecode] at hnone
      cases hnone
    | some decoded =>
      rw [hdecode] at hnone
      refine ⟨decoded, rfl, Bool.eq_false_iff.mpr fun hrejected => ?_⟩
      simp only [hrejected, if_true] at hnone
      cases hnone

/-- The container is the first part of the path; the name is made of the others, decoded. -/
theorem parts_of_parse (h : parseBlobUri rules uri serviceUrl = .ok ref) :
    ∃ url, Url.parse rules uri = some url ∧ ∃ segments decodedSegments,
      urlParts url = ref.container :: segments ∧ segments ≠ [] ∧
      segments.mapM decodeSegment = .ok decodedSegments ∧
      ref.blobName = String.intercalate "/" decodedSegments := by
  unfold parseBlobUri at h
  obtain ⟨url, hurl, h⟩ := bind_eq_ok.mp h
  obtain ⟨expected, _, h⟩ := bind_eq_ok.mp h
  refine ⟨url, newUrl_eq_ok hurl, ?_⟩
  by_cases horigin : url.origin ≠ expected.origin
  · rw [if_pos horigin] at h
    cases h
  · rw [if_neg horigin] at h
    dsimp only at h
    rcases hparts : urlParts url with _ | ⟨container, _ | ⟨segment, rest⟩⟩
    · rw [hparts] at h
      cases h
    · rw [hparts] at h
      cases h
    rw [hparts] at h
    obtain ⟨decodedSegments, hdecoded, h⟩ := bind_eq_ok.mp h
    cases hfind : decodedSegments.find? isRejected with
    | some rejected =>
      simp only [hfind] at h
      cases h
    | none =>
      simp only [hfind] at h
      obtain rfl := Except.ok.inj h
      exact ⟨segment :: rest, decodedSegments, rfl, List.cons_ne_nil _ _, hdecoded, rfl⟩

/-! ## Where the name leads -/

/-- A decoded segment has plain segments if and only if no part between its escaped slashes is
nothing or a dot segment. -/
theorem hasPlainSegments_iff {segment decoded : String} (hslash : '/' ∉ segment.toList)
    (h : Js.decodeURIComponent segment = some decoded) :
    HasPlainSegments decoded ↔
      ∀ part ∈ Js.cutAtEscapedSlashes segment.toList, Js.leadsElsewhere part = false := by
  have hparts := Js.map_decode_cut hslash h
  constructor
  · intro hplain part hpart
    have hmem := List.mem_map_of_mem (f := fun part => Js.decodeURIComponent (String.ofList part))
      hpart
    rw [hparts] at hmem
    obtain ⟨piece, hpiece, hdecode⟩ := List.mem_map.mp hmem
    have hiff := Js.leadsElsewhere_iff hdecode.symm
    have hpieces := hplain piece hpiece
    rw [Bool.eq_false_iff, ne_eq, hiff]
    rintro (hempty | hsingle | hdouble)
    · exact hpieces.1 hempty
    · exact hpieces.2.1 hsingle
    · exact hpieces.2.2 hdouble
  · intro hnone piece hpiece
    have hmem := List.mem_map_of_mem (f := some) hpiece
    rw [← hparts] at hmem
    obtain ⟨part, hpart, hdecode⟩ := List.mem_map.mp hmem
    have hiff := Js.leadsElsewhere_iff hdecode
    rw [hnone part hpart] at hiff
    refine ⟨fun hempty => ?_, fun hsingle => ?_, fun hdouble => ?_⟩
    · exact absurd (hiff.mpr (.inl hempty)) Bool.false_ne_true
    · exact absurd (hiff.mpr (.inr (.inl hsingle))) Bool.false_ne_true
    · exact absurd (hiff.mpr (.inr (.inr hdouble))) Bool.false_ne_true

theorem forall_hasPlainSegments_iff {segments decodedSegments : List String}
    (hslash : ∀ s ∈ segments, '/' ∉ s.toList)
    (h : segments.mapM decodeSegment = .ok decodedSegments) :
    (∀ decoded ∈ decodedSegments, HasPlainSegments decoded) ↔
      ∀ s ∈ segments, ∀ part ∈ Js.cutAtEscapedSlashes s.toList, Js.leadsElsewhere part = false := by
  induction segments generalizing decodedSegments with
  | nil =>
    obtain rfl := Except.ok.inj h
    simp
  | cons segment segments ih =>
    rw [List.mapM_cons] at h
    obtain ⟨decoded, hdecoded, h⟩ := bind_eq_ok.mp h
    obtain ⟨rest, hrest, h⟩ := bind_eq_ok.mp h
    obtain rfl := Except.ok.inj h
    have hdecode : Js.decodeURIComponent segment = some decoded := by
      unfold decodeSegment at hdecoded
      cases hsome : Js.decodeURIComponent segment with
      | none =>
        rw [hsome] at hdecoded
        cases hdecoded
      | some decoded' =>
        rw [hsome] at hdecoded
        rw [Except.ok.inj hdecoded]
    rw [List.forall_mem_cons, List.forall_mem_cons,
      hasPlainSegments_iff (hslash segment List.mem_cons_self) hdecode,
      ih (fun s hs => hslash s (List.mem_cons_of_mem segment hs)) hrest]

/-- No part of a path has a slash in it. -/
theorem slash_notMem_of_mem_urlParts {url : Url} {s : String} (h : s ∈ urlParts url) :
    '/' ∉ s.toList := by
  obtain ⟨hsplit, _⟩ := List.mem_filter.mp h
  unfold Js.split at hsplit
  obtain ⟨part, hpart, rfl⟩ := List.mem_map.mp hsplit
  rw [String.toList_ofList]
  exact Js.notMem_of_mem_splitChars hpart

/-- A URI that passes the checks and is read names a container that is no dot segment, and a blob
with plain segments, if and only if it hides no traversal behind an escaped slash. -/
theorem traversal_rejected_iff (hcheck : checkPayloadUri rules accountUrl uri = .ok none)
    (hparse : parseBlobUri rules uri serviceUrl = .ok ref) :
    ((ref.container ≠ "" ∧ ref.container ≠ "." ∧ ref.container ≠ "..") ∧
      HasPlainSegments ref.blobName) ↔ ¬HidesTraversal rules uri := by
  obtain ⟨url, hurl, hdecoded⟩ := decoded_of_check hcheck
  obtain ⟨url', hurl', segments, decodedSegments, hparts, hne, hmapM, hname⟩ :=
    parts_of_parse hparse
  obtain rfl : url' = url := Option.some.inj (hurl'.symm.trans hurl)
  have hcontainer : ref.container ≠ "" ∧ ref.container ≠ "." ∧ ref.container ≠ ".." := by
    have hmem : ref.container ∈ urlParts url' := by
      rw [hparts]
      exact List.mem_cons_self
    obtain ⟨decoded, hdecode, hrejected⟩ := hdecoded ref.container hmem
    have hself : Js.decodeURIComponent "" = some "" ∧ Js.decodeURIComponent "." = some "." ∧
        Js.decodeURIComponent ".." = some ".." := by
      decide +kernel
    refine ⟨fun heq => ?_, fun heq => ?_, fun heq => ?_⟩
    all_goals
      rw [heq] at hdecode
      simp only [hself, Option.some.injEq] at hdecode
      subst hdecode
      exact absurd hrejected (by decide)
  have hslash : ∀ s ∈ segments, '/' ∉ s.toList := by
    intro s hs
    have hmem : s ∈ urlParts url' := by
      rw [hparts]
      exact List.mem_cons_of_mem _ hs
    exact slash_notMem_of_mem_urlParts hmem
  have hnonempty : decodedSegments ≠ [] := by
    rintro rfl
    obtain ⟨segment, rest, rfl⟩ := List.exists_cons_of_ne_nil hne
    rw [List.mapM_cons] at hmapM
    obtain ⟨decoded, _, h⟩ := bind_eq_ok.mp hmapM
    obtain ⟨rest', _, h⟩ := bind_eq_ok.mp h
    cases h
  rw [hname, hasPlainSegments_intercalate_iff hnonempty,
    forall_hasPlainSegments_iff hslash hmapM]
  constructor
  · rintro ⟨_, hnone⟩ ⟨url, hurl'', segment, hsegment, part, hpart, hleads⟩
    obtain rfl : url = url' := Option.some.inj (hurl''.symm.trans hurl)
    rw [hparts, List.tail_cons] at hsegment
    rw [hnone segment hsegment part hpart] at hleads
    cases hleads
  · intro hhides
    refine ⟨hcontainer, fun segment hsegment part hpart => Bool.eq_false_iff.mpr fun hleads => ?_⟩
    refine hhides ⟨url', hurl, segment, ?_, part, hpart, hleads⟩
    rw [hparts, List.tail_cons]
    exact hsegment

end

namespace Archive

/-- A segment with escaped slashes around a dot segment. -/
def hidingUri : String :=
  "https://acct/outbound-netsuite/dev%2F..%2fkeys.json"

theorem checked_hiding : checkPayloadUri rules "https://acct" hidingUri = .ok none ∧
    parseBlobUri rules hidingUri "https://acct" =
      .ok { container := "outbound-netsuite", blobName := "dev/../keys.json" } := by
  have hok {α : Type} {x : Except Thrown α} {a : α} (h : x.toOption = some a) : x = .ok a := by
    cases x with
    | error e => cases h
    | ok b => exact congrArg Except.ok (Option.some.inj h)
  exact ⟨hok (by decide +kernel), hok (by decide +kernel)⟩

end Archive

/-- Escaped slashes take dot segments past the guard. -/
theorem traversal_not_rejected :
    ¬∀ (rules : UrlRules) (accountUrl serviceUrl uri : String) (ref : BlobRef),
      checkPayloadUri rules accountUrl uri = .ok none →
      parseBlobUri rules uri serviceUrl = .ok ref →
      (ref.container ≠ "" ∧ ref.container ≠ "." ∧ ref.container ≠ "..") ∧
        HasPlainSegments ref.blobName := by
  intro h
  obtain ⟨hcheck, hparse⟩ := Archive.checked_hiding
  have hdots := (h Archive.rules _ _ Archive.hidingUri _ hcheck hparse).2 ".." (by decide +kernel)
  exact hdots.2.2 rfl

/-- The guard of a URI that hides a traversal, and of one that does not. -/
theorem traversal_rejected_iff_hiding : HidesTraversal Archive.rules Archive.hidingUri ∧
    ¬HidesTraversal Archive.rules (Archive.container.uriOf Archive.blobName) := by
  obtain ⟨hcheck, hparse⟩ := Archive.checked_hiding
  have hname : HasPlainSegments Archive.blobName := by
    unfold HasPlainSegments
    decide +kernel
  refine ⟨?_, ?_⟩
  · by_contra hnone
    have hdots := ((traversal_rejected_iff hcheck hparse).mpr hnone).2 ".." (by decide +kernel)
    exact hdots.2.2 rfl
  · have haccount : Url.parse Archive.rules Archive.container.account.text =
        some ⟨"https://dpistdev.blob.core.windows.net", "/"⟩ := by
      decide +kernel
    have hread := parseBlobUri_uriOf hname (.inl rfl) haccount (by rw [haccount]; rfl)
    have hcheck' := checkPayloadUri_uriOf hname (.inl rfl) haccount
    exact (traversal_rejected_iff hcheck' hread).mp
      ⟨⟨Archive.container.nonempty, Archive.container.notDots⟩, hname⟩

end DpIntegrator
