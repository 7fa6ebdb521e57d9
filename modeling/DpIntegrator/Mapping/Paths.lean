import DpIntegrator.Mapping.Evaluator

/-!
# Reading and writing at paths

What is written at a path is read there, and what is read at a path that neither extends the
written one nor is extended by it stays. Both need that the written path does not step into
an array, whose indices and length are not independent.
-/

namespace DpIntegrator

/-- The parts of a path; the empty path has none. -/
def pathParts (path : String) : List String := if path = "" then [] else Js.split path '.'

/-- Read a value by the parts of a path. -/
def readParts (v : Js.Value) (parts : List String) : Js.Value :=
  parts.foldl (fun cur part => if cur.isObject then cur.prop part else .undefined) v

theorem getPath_eq (v : Js.Value) (path : String) : getPath v path = readParts v (pathParts path) := by
  unfold getPath pathParts
  split <;> rfl

/-- Write a value at a path that is not empty. -/
def setAt (out : Js.Fields) (path : String) (value : Js.Value) : Js.Fields :=
  match setParts (.obj out) (pathParts path) value with
  | .obj fields => fields
  | _ => out

theorem setPath_eq {path : String} (h : path ≠ "") (out : Js.Fields) (value : Js.Value) :
    setPath out path value = .ok (setAt out path value) := by
  unfold setPath setAt pathParts
  rw [if_neg h, if_neg h]
  cases setParts (.obj out) (Js.split path '.') value <;> rfl

/-- No step along the parts is into an array. -/
def Clear : Js.Value → List String → Prop
  | _, [] => True
  | cur, part :: rest => (∀ items, cur ≠ .arr items) ∧ Clear (cur.prop part) rest

/-- Neither path extends the other. -/
def ApartParts (p q : List String) : Prop := ¬ p <+: q ∧ ¬ q <+: p

def Apart (p q : String) : Prop := ApartParts (pathParts p) (pathParts q)

section Parts

variable {fields : Js.Fields} {parts p q : List String} {part : String} {value : Js.Value}

theorem ApartParts.symm (h : ApartParts p q) : ApartParts q p := ⟨h.2, h.1⟩

theorem ApartParts.ne_nil (h : ApartParts p q) : q ≠ [] := by
  rintro rfl
  exact h.2 List.nil_prefix

theorem ApartParts.of_cons (h : ApartParts (part :: p) (part :: q)) : ApartParts p q := by
  simpa [ApartParts, List.cons_prefix_cons] using h

theorem clear_undefined : ∀ parts, Clear .undefined parts
  | [] => trivial
  | _ :: rest => ⟨fun _ => by simp, clear_undefined rest⟩

/-- A fresh object is clear along every path. -/
theorem clear_fresh : ∀ parts, Clear (.obj []) parts
  | [] => trivial
  | _ :: rest => ⟨fun _ => by simp, clear_undefined rest⟩

@[simp] theorem readParts_nil (v : Js.Value) : readParts v [] = v := rfl

@[simp] theorem readParts_obj (fields : Js.Fields) (part : String) (rest : List String) :
    readParts (.obj fields) (part :: rest) = readParts ((Js.Value.obj fields).prop part) rest := rfl

theorem readParts_undefined (parts : List String) : readParts .undefined parts = .undefined := by
  induction parts with
  | nil => rfl
  | cons part rest ih => exact ih

/-- Below what is no object nothing is read. -/
theorem readParts_atom {v : Js.Value} (h : v.isObject = false) (hne : parts ≠ []) :
    readParts v parts = .undefined := by
  obtain ⟨part, rest, rfl⟩ := List.exists_cons_of_ne_nil hne
  have hstep : readParts v (part :: rest) = readParts .undefined rest := by
    simp [readParts, h]
  rw [hstep, readParts_undefined]

/-- The object into which a write steps: the one that is there, or a fresh one below which nothing
was read before. -/
theorem exists_next {next : String} (hclear : Clear (.obj fields) (part :: next :: parts)) :
    ∃ below : Js.Fields,
      (if ((Js.Value.obj fields).prop part).isObject then (Js.Value.obj fields).prop part
        else .obj []) = .obj below ∧ Clear (.obj below) (next :: parts) ∧
      ∀ q, q ≠ [] → readParts ((Js.Value.obj fields).prop part) q = readParts (.obj below) q := by
  have hrest := hclear.2
  cases hv : (Js.Value.obj fields).prop part with
  | obj below =>
    rw [hv] at hrest
    exact ⟨below, rfl, hrest, fun _ _ => rfl⟩
  | arr items =>
    rw [hv] at hrest
    exact absurd rfl (hrest.1 items)
  | undefined | null | bool | num | str =>
    refine ⟨[], rfl, clear_fresh _, fun q hq => ?_⟩
    obtain ⟨b, q', rfl⟩ := List.exists_cons_of_ne_nil hq
    rw [readParts_atom rfl hq, readParts_obj]
    exact (readParts_undefined q').symm

/-- Writing into an object leaves an object. -/
theorem exists_setParts (fields : Js.Fields) (value : Js.Value) (hne : p ≠ []) :
    ∃ written, setParts (.obj fields) p value = .obj written := by
  match p with
  | [] => exact absurd rfl hne
  | [part] => exact ⟨_, rfl⟩
  | part :: next :: rest => exact ⟨_, rfl⟩

/-- What was written is read. Induction on the path. -/
theorem readParts_setParts_self (hclear : Clear (.obj fields) p) :
    readParts (setParts (.obj fields) p value) p = value := by
  induction p generalizing fields with
  | nil => rfl
  | cons part rest ih =>
    cases rest with
    | nil => simp [setParts, Js.Value.setProp]
    | cons next rest =>
      obtain ⟨below, hbelow, hclear', _⟩ := exists_next hclear
      simp only [setParts, hbelow, Js.Value.setProp, readParts_obj]
      rw [Js.Value.prop_obj, Js.Fields.get?_set_self]
      exact ih hclear'

/-- What was read apart from the written path stays. Induction on the written path. -/
theorem readParts_setParts_apart (hclear : Clear (.obj fields) p) (h : ApartParts p q) :
    readParts (setParts (.obj fields) p value) q = readParts (.obj fields) q := by
  induction p generalizing fields q with
  | nil => exact absurd List.nil_prefix h.1
  | cons part rest ih =>
    obtain ⟨b, q, rfl⟩ := List.exists_cons_of_ne_nil h.ne_nil
    cases rest with
    | nil =>
      have hne : b ≠ part := by
        rintro rfl
        exact h.1 (by simp)
      simp [setParts, Js.Value.setProp, Js.Fields.get?_set_of_ne hne]
    | cons next rest =>
      obtain ⟨below, hbelow, hclear', hread⟩ := exists_next hclear
      simp only [setParts, hbelow, Js.Value.setProp, readParts_obj]
      by_cases hb : b = part
      · subst hb
        rw [hread q h.of_cons.ne_nil, Js.Value.prop_obj, Js.Fields.get?_set_self]
        exact ih hclear' h.of_cons
      · simp [Js.Fields.get?_set_of_ne hb]

end Parts

section Paths

variable {out : Js.Fields} {path path' : String} {value : Js.Value}

theorem pathParts_ne_nil (h : path ≠ "") : pathParts path ≠ [] := by
  simp [pathParts, h, Js.split, Js.splitChars_ne_nil]

theorem setParts_eq (h : path ≠ "") (out : Js.Fields) (value : Js.Value) :
    setParts (.obj out) (pathParts path) value = .obj (setAt out path value) := by
  obtain ⟨written, hwritten⟩ := exists_setParts out value (pathParts_ne_nil h)
  simp [setAt, hwritten]

theorem getPath_setAt_self (h : path ≠ "") (hclear : Clear (.obj out) (pathParts path)) :
    getPath (.obj (setAt out path value)) path = value := by
  rw [getPath_eq, ← setParts_eq h]
  exact readParts_setParts_self hclear

theorem getPath_setAt_apart (h : path ≠ "") (hclear : Clear (.obj out) (pathParts path))
    (happart : Apart path path') :
    getPath (.obj (setAt out path value)) path' = getPath (.obj out) path' := by
  rw [getPath_eq, getPath_eq, ← setParts_eq h]
  exact readParts_setParts_apart hclear happart

end Paths

end DpIntegrator
