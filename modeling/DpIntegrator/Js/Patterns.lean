import DpIntegrator.Js.Text
import Mathlib.Data.List.Chain

/-!
# Text that patterns pass over

A word cannot start in text where its first two letters are never neighbours, and a character that
belongs to no word may be left off the end of a text. Searches over a text can so be reduced to
searches over a part of it.
-/

namespace Js

variable {α : Type} {m : Matcher α} {a b q : Char} {prev : Option Char}
  {cs front rest word needle : List Char} {p : Char → Bool}

/-! ## Pairs of letters -/

/-- In no place of `cs` do the letters `a` and `b` stand one after the other, in either case. -/
def Avoids (a b : Char) (cs : List Char) : Prop :=
  cs.IsChain fun x y => ¬(x.toLower = a ∧ y.toLower = b)

instance : Decidable (Avoids a b cs) := inferInstanceAs (Decidable (List.IsChain _ _))

/-- A matcher whose matches start with the letters `a` and `b`. -/
def StartsWith (m : Matcher α) (a b : Char) : Prop :=
  ∀ prev c cs, (∀ c' cs', cs = c' :: cs' → ¬(c.toLower = a ∧ c'.toLower = b)) →
    m prev (c :: cs) = none

theorem afterWord_eq_none (h : ∀ c' cs', cs = c' :: cs' → ¬(q.toLower = a ∧ c'.toLower = b)) :
    afterWord (a :: b :: word) (q :: cs) = none := by
  rw [afterWord]
  split
  · next ha =>
    cases cs with
    | nil => rfl
    | cons c' cs =>
      have hb : c'.toLower ≠ b := fun hb => h c' cs rfl ⟨ha, hb⟩
      rw [afterWord, if_neg hb]
  · rfl

/-- A search passes over text that avoids the first two letters of what is looked for. -/
theorem search_append_of_avoids (hm : StartsWith m a b) (hfront : Avoids a b (front ++ [q]))
    (hq : q.toLower ≠ a) : search m prev (front ++ q :: rest) = search m (some q) rest := by
  induction front generalizing prev with
  | nil => exact search_cons_of_none (hm prev q rest fun _ _ _ h => hq h.1)
  | cons c front ih =>
    have hchain := List.isChain_cons.mp hfront
    have hnone : m prev (c :: (front ++ q :: rest)) = none := by
      refine hm prev c _ fun c' cs' heq => hchain.1 c' ?_
      cases front with
      | nil =>
        cases heq
        rfl
      | cons d front =>
        cases heq
        rfl
    rw [List.cons_append, search_cons_of_none hnone]
    exact ih hchain.2

theorem occurs_append_of_avoids (hfront : Avoids a b (front ++ [q])) (hq : q.toLower ≠ a) :
    occurs (a :: b :: needle) ((front ++ [q]).map Char.toLower ++ rest) =
      occurs (a :: b :: needle) rest := by
  induction front with
  | nil => simp [occurs, Ne.symm hq]
  | cons c front ih =>
    have hchain := List.isChain_cons.mp hfront
    have hnone : (a :: b :: needle).isPrefixOf
        (c.toLower :: ((front ++ [q]).map Char.toLower ++ rest)) = false := by
      have hnot (d : Char) (hd : d ∈ (front ++ [q]).head?) :
          (a == c.toLower && b == d.toLower) = false := by
        have hpair := hchain.1 d hd
        by_contra htrue
        simp only [Bool.and_eq_false_imp, beq_iff_eq, Bool.not_eq_false, Classical.not_imp] at htrue
        exact hpair ⟨htrue.1.symm, (by simpa using htrue.2.symm)⟩
      cases front with
      | nil =>
        have hpair := hnot q rfl
        simp only [List.nil_append, List.map_cons, List.map_nil, List.cons_append, List.isPrefixOf,
          ← Bool.and_assoc, hpair, Bool.false_and]
      | cons d front =>
        have hpair := hnot d rfl
        simp only [List.cons_append, List.map_cons, List.isPrefixOf, ← Bool.and_assoc, hpair,
          Bool.false_and]
    rw [List.cons_append, List.map_cons, List.cons_append, occurs, hnone, Bool.false_or]
    exact ih hchain.2

/-! ## Text that no word starts in -/

/-- What `afterWord` found is a spelling of the word. -/
theorem afterWord_eq_some (h : afterWord word cs = some rest) :
    ∃ spelled, cs = spelled ++ rest ∧ spelled.map Char.toLower = word := by
  induction word generalizing cs with
  | nil =>
    rw [afterWord] at h
    cases h
    exact ⟨[], rfl, rfl⟩
  | cons w word ih =>
    cases cs with
    | nil =>
      rw [afterWord] at h
      · cases h
      · simp
    | cons c cs =>
      rw [afterWord] at h
      split at h
      · next hc =>
        obtain ⟨spelled, rfl, rfl⟩ := ih h
        exact ⟨c :: spelled, rfl, by rw [List.map_cons, hc]⟩
      · cases h

/-- The text differs from the word before either ends. -/
def differs : List Char → List Char → Bool
  | w :: word, c :: cs => c.toLower ≠ w || differs word cs
  | _, _ => false

theorem afterWord_append_of_differs (h : differs word cs = true) (rest : List Char) :
    afterWord word (cs ++ rest) = none := by
  induction word generalizing cs with
  | nil => cases h
  | cons w word ih =>
    cases cs with
    | nil => cases h
    | cons c cs =>
      rw [List.cons_append, afterWord]
      split
      · next hc =>
        have hrest : differs word cs = true := by simpa [differs, hc] using h
        exact ih hrest
      · rfl

/-- The word starts in no place of the text. -/
def startsNowhere (word : List Char) : List Char → Bool
  | [] => true
  | c :: cs => differs word (c :: cs) && startsNowhere word cs

/-- A search passes over text in which the word that it looks for starts nowhere. -/
theorem search_append_of_startsNowhere
    (hm : ∀ prev cs, afterWord word cs = none → m prev cs = none)
    (hfront : startsNowhere word front = true) :
    search m prev (front ++ rest) = search m (front.getLast?.or prev) rest := by
  induction front generalizing prev with
  | nil => rfl
  | cons c front ih =>
    rw [startsNowhere, Bool.and_eq_true] at hfront
    have hnone := afterWord_append_of_differs hfront.1 rest
    rw [List.cons_append] at hnone ⊢
    rw [search_cons_of_none (hm _ _ hnone), ih hfront.2]
    cases front with
    | nil => rfl
    | cons d front =>
      rw [List.getLast?_cons_cons]
      cases hlast : (d :: front).getLast? with
      | none => simp at hlast
      | some last => rfl

/-! ## A character at the end -/

theorem takeWhile_append_singleton (hq : p q = false) :
    (cs ++ [q]).takeWhile p = cs.takeWhile p := by
  induction cs with
  | nil => simp [hq]
  | cons c cs ih =>
    rw [List.cons_append, List.takeWhile_cons, List.takeWhile_cons, ih]

theorem dropWhile_append_singleton (hq : p q = false) :
    (cs ++ [q]).dropWhile p = cs.dropWhile p ++ [q] := by
  induction cs with
  | nil => simp [hq]
  | cons c cs ih =>
    rw [List.cons_append, List.dropWhile_cons, List.dropWhile_cons, ih]
    split <;> rfl

theorem afterWord_append_singleton (hq : q.toLower ∉ word) :
    afterWord word (cs ++ [q]) = (afterWord word cs).map (· ++ [q]) := by
  induction word generalizing cs with
  | nil => rfl
  | cons w word ih =>
    obtain ⟨hne, hrest⟩ := List.ne_and_not_mem_of_not_mem_cons hq
    cases cs with
    | nil => simp [afterWord, hne]
    | cons c cs =>
      rw [List.cons_append, afterWord, afterWord]
      split
      · exact ih hrest
      · rfl

theorem atWordEnd_append_singleton (hq : isWord q = false) :
    atWordEnd (cs ++ [q]) = atWordEnd cs := by
  cases cs with
  | nil => simp [atWordEnd, hq]
  | cons c cs => rfl

theorem threeDigits_append_singleton (hq : isWord q = false) :
    threeDigits (cs ++ [q]) = threeDigits cs := by
  have hdigit : q.isDigit = false := by
    simp only [isWord, Char.isAlphanum, Bool.or_eq_false_iff] at hq
    exact hq.1.2
  match cs with
  | [] => rfl
  | [a] => rfl
  | [a, b] => simp [threeDigits, hdigit]
  | a :: b :: c :: rest =>
    have hend : atWordEnd (rest ++ [q]) = atWordEnd rest := atWordEnd_append_singleton hq
    simp only [List.cons_append, threeDigits, hend]

/-- A search does not see a character at the end that its matches do not see. -/
theorem search_append_singleton (hm : ∀ prev cs, m prev (cs ++ [q]) = m prev cs)
    (hnil : ∀ prev, m prev [] = none) : search m prev (cs ++ [q]) = search m prev cs := by
  induction cs generalizing prev with
  | nil =>
    have hlast : m prev [q] = none := (hm prev []).trans (hnil prev)
    rw [List.nil_append, search_cons_of_none hlast, search_nil, search_nil, hnil, hnil]
  | cons c cs ih =>
    have hhead := hm prev (c :: cs)
    rw [List.cons_append] at hhead ⊢
    cases hc : m prev (c :: cs) with
    | none => rw [search_cons_of_none hc, search_cons_of_none (hhead.trans hc), ih]
    | some r => rw [search_of_some hc, search_of_some (hhead.trans hc)]

/-- A search starts the same way after characters that its matcher does not tell apart. -/
theorem search_congr_prev {prev' : Option Char} (h : m prev cs = m prev' cs) :
    search m prev cs = search m prev' cs := by
  rw [search.eq_def, search.eq_def m prev', h]

theorem isPrefixOf_append_singleton (hq : q ∉ needle) :
    needle.isPrefixOf (cs ++ [q]) = needle.isPrefixOf cs := by
  induction needle generalizing cs with
  | nil => rfl
  | cons n needle ih =>
    obtain ⟨hne, hrest⟩ := List.ne_and_not_mem_of_not_mem_cons hq
    cases cs with
    | nil => simp [List.isPrefixOf, Ne.symm hne]
    | cons c cs => rw [List.cons_append, List.isPrefixOf, List.isPrefixOf, ih hrest]

theorem occurs_append_singleton (hq : q ∉ needle) (hne : needle ≠ []) :
    occurs needle (cs ++ [q]) = occurs needle cs := by
  have hempty : occurs needle [] = false := by simpa [occurs] using hne
  induction cs with
  | nil =>
    have hhead : needle.isPrefixOf ([] ++ [q]) = needle.isPrefixOf [] :=
      isPrefixOf_append_singleton hq
    rw [List.nil_append] at hhead ⊢
    rw [hempty, occurs, hhead, hempty, Bool.or_false]
    cases needle with
    | nil => exact absurd rfl hne
    | cons n needle => rfl
  | cons c cs ih =>
    have hhead : needle.isPrefixOf (c :: cs ++ [q]) = needle.isPrefixOf (c :: cs) :=
      isPrefixOf_append_singleton hq
    rw [List.cons_append, occurs, occurs, ih, ← List.cons_append, hhead]

end Js
