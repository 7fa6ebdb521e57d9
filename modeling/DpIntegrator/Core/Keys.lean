import DpIntegrator.Core.Types
import Mathlib.Data.List.Basic

/-!
# Joined keys

The in-memory stores key their rows by texts joined with a separator. A joined text
determines its components where none of them contains the separator, which is what
`dedupKey` checks.
-/

namespace Js

theorem occurs_singleton {c : Char} {cs : List Char} : occurs [c] cs = true ↔ c ∈ cs := by
  induction cs with
  | nil => simp [occurs]
  | cons d cs ih => simp [occurs, ih, List.isPrefixOf]

/-- Lists of texts without the separator are determined by the joined text. -/
theorem intercalate_inj {sep : Char} {vs ws : List String} (hvs : ∀ v ∈ vs, sep ∉ v.toList)
    (hws : ∀ w ∈ ws, sep ∉ w.toList) (hvs' : vs ≠ []) (hws' : ws ≠ [])
    (h : String.intercalate (String.singleton sep) vs = String.intercalate (String.singleton sep) ws) :
    vs = ws := by
  have hsplit {us : List String} (hus : ∀ u ∈ us, sep ∉ u.toList) (hus' : us ≠ []) :
      (String.intercalate (String.singleton sep) us).toList.splitOn sep = us.map String.toList := by
    rw [String.toList_intercalate, String.toList_singleton]
    refine List.splitOn_intercalate sep ?_ (by simpa using hus')
    intro cs hcs
    obtain ⟨u, hu, rfl⟩ := List.mem_map.mp hcs
    exact hus u hu
  have hmap : vs.map String.toList = ws.map String.toList := by
    rw [← hsplit hvs hvs', ← hsplit hws hws', h]
  exact List.map_injective_iff.mpr (fun _ _ => String.toList_inj.mp) hmap

/-- What follows the last occurrence of a character is determined. -/
theorem append_singleton_append_inj {c : Char} {front front' rest rest' : List Char}
    (hrest : c ∉ rest) (hrest' : c ∉ rest') (h : front ++ [c] ++ rest = front' ++ [c] ++ rest') :
    rest = rest' := by
  have hlast (front : List Char) {rest : List Char} (hrest : c ∉ rest) :
      (front ++ [c] ++ rest).reverse.takeWhile (· ≠ c) = rest.reverse := by
    have hne : ∀ d ∈ rest.reverse, decide (d ≠ c) = true := by
      intro d hd
      have hmem := List.mem_reverse.mp hd
      exact decide_eq_true fun heq => hrest (heq ▸ hmem)
    rw [List.reverse_append, List.takeWhile_append_of_pos hne]
    simp
  have hreverse := hlast front hrest
  rw [h, hlast front' hrest'] at hreverse
  exact List.reverse_injective hreverse.symm

/-- What precedes the first occurrence of a character is determined, and so is what follows it. -/
theorem append_cons_inj_of_left {c : Char} {front front' rest rest' : List Char}
    (hfront : c ∉ front) (hfront' : c ∉ front') (h : front ++ c :: rest = front' ++ c :: rest') :
    front = front' ∧ rest = rest' := by
  have hreverse : rest.reverse ++ [c] ++ front.reverse = rest'.reverse ++ [c] ++ front'.reverse := by
    simpa using congrArg List.reverse h
  have hmem (cs : List Char) : c ∉ cs.reverse ↔ c ∉ cs := not_congr List.mem_reverse
  obtain rfl := List.reverse_injective
    (append_singleton_append_inj ((hmem _).mpr hfront) ((hmem _).mpr hfront') hreverse)
  exact ⟨rfl, (List.cons.inj (List.append_cancel_left h)).2⟩

end Js

namespace DpIntegrator

theorem Environment.text_inj {e e' : Environment} (h : e.text = e'.text) : e = e' := by
  have hsome := congrArg ofText? h
  simpa using hsome

theorem EntityType.text_inj {t t' : EntityType} (h : t.text = t'.text) : t = t' := by
  cases t <;> cases t' <;> first | rfl | exact absurd h (by decide)

theorem System.text_inj {s s' : System} (h : s.text = s'.text) : s = s' := by
  cases s <;> cases s' <;> first | rfl | exact absurd h (by decide)

theorem DedupKeyParts.values_inj {p q : DedupKeyParts} (h : p.values = q.values) : p = q := by
  obtain ⟨e, c, t, s, i⟩ := p
  obtain ⟨e', c', t', s', i'⟩ := q
  simp only [DedupKeyParts.values, List.cons.injEq, and_true] at h
  obtain ⟨he, rfl, ht, hs, rfl⟩ := h
  rw [Environment.text_inj he, EntityType.text_inj ht, System.text_inj hs]

/-- A dedup key determines its parts. -/
theorem dedupKey_inj {p q : DedupKeyParts} {key : String} (hp : dedupKey p = .ok key)
    (hq : dedupKey q = .ok key) : p = q := by
  obtain ⟨hvalid, rfl⟩ := dedupKeyWith_eq_ok.mp hp
  obtain ⟨hvalid', heq⟩ := dedupKeyWith_eq_ok.mp hq
  have hsep {parts : DedupKeyParts} (h : parts.Valid) : ∀ v ∈ parts.values, '|' ∉ v.toList := by
    intro v hv hmem
    have hoccurs : Js.includes v "|" = true := Js.occurs_singleton.mpr hmem
    rw [(h v hv).2] at hoccurs
    cases hoccurs
  refine DedupKeyParts.values_inj (Js.intercalate_inj (hsep hvalid) (hsep hvalid') ?_ ?_ heq)
  · simp [DedupKeyParts.values]
  · simp [DedupKeyParts.values]

end DpIntegrator
