import DpIntegrator.Mapping.Paths

/-!
# The lens laws of paths

On a tree of objects a path is a lens: what is put is got, what is put at one path does not
show at a path apart from it, and of two puts at one path the second counts. A put replaces
whatever stands in its way and is no object, so the laws hold at every path, whether or not the
tree has it.
-/

namespace DpIntegrator

/-- A tree of objects and atoms: no array stands anywhere in it. -/
inductive IsTree : Js.Value → Prop
  | undefined : IsTree .undefined
  | null : IsTree .null
  | bool (b : Bool) : IsTree (.bool b)
  | num (n : Js.Number) : IsTree (.num n)
  | str (s : String) : IsTree (.str s)
  | obj {fields : Js.Fields} (hentries : ∀ entry ∈ fields, IsTree entry.2) : IsTree (.obj fields)

section Trees

variable {v : Js.Value} {fields : Js.Fields} {parts p : List String} {key : String}

theorem IsTree.ne_arr (h : IsTree v) (items : List Js.Value) : v ≠ .arr items := by
  rintro rfl
  nomatch h

/-- What a tree holds under a name is a tree. -/
theorem IsTree.prop (h : IsTree v) (key : String) : IsTree (v.prop key) := by
  cases h with
  | obj hentries =>
    rename_i fields
    rw [Js.Value.prop_obj]
    cases hget : fields.get? key with
    | none => exact .undefined
    | some below => exact hentries _ (Js.Fields.mem_of_get? hget)
  | undefined | null | bool | num | str => exact .undefined

/-- No path steps into an array of a tree. Induction on the path. -/
theorem IsTree.clear (h : IsTree v) (parts : List String) : Clear v parts := by
  induction parts generalizing v with
  | nil => trivial
  | cons part rest ih => exact ⟨h.ne_arr, ih (h.prop part)⟩

/-- Of two writes at the same parts the second counts. Induction on the parts: after the first
write the object that the second steps into is there. -/
theorem setParts_setParts (hclear : Clear (.obj fields) p) (first second : Js.Value) :
    setParts (setParts (.obj fields) p first) p second = setParts (.obj fields) p second := by
  induction p generalizing fields with
  | nil => rfl
  | cons part rest ih =>
    cases rest with
    | nil => simp only [setParts, Js.Value.setProp, Js.Fields.set_set]
    | cons next rest =>
      obtain ⟨below, hbelow, hclear', _⟩ := exists_next hclear
      obtain ⟨written, hwritten⟩ := exists_setParts below first (List.cons_ne_nil next rest)
      have hstep : (Js.Value.obj (fields.set part (.obj written))).prop part = .obj written := by
        rw [Js.Value.prop_obj, Js.Fields.get?_set_self, Option.getD_some]
      have hagain := ih hclear'
      rw [hwritten] at hagain
      have hobject : (Js.Value.obj written).isObject = true := rfl
      simp only [setParts, hbelow, Js.Value.setProp, hwritten, hstep, hobject, if_true]
      rw [hagain, Js.Fields.set_set]

end Trees

section Paths

variable {out : Js.Fields} {path path' : String} {first second : Js.Value}

theorem setAt_setAt (hpath : path ≠ "") (hclear : Clear (.obj out) (pathParts path)) :
    setAt (setAt out path first) path second = setAt out path second := by
  have htwice := setParts_setParts hclear first second
  rw [setParts_eq hpath, setParts_eq hpath, setParts_eq hpath, Js.Value.obj.injEq] at htwice
  exact htwice

end Paths

end DpIntegrator
