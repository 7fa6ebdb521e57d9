import DpIntegrator.Js.Number

/-!
# JavaScript values

Plain values as the source's `unknown` carries them: trees of atoms, arrays and
objects with their own properties in insertion order. Functions, inherited
properties and shared references do not occur in the values the source passes around.
-/

namespace Js

/-- A value: an atom, an array, or an object with its own properties in order. -/
inductive Value
  | undefined
  | null
  | bool (b : Bool)
  | num (n : Number)
  | str (s : String)
  | arr (items : List Value)
  | obj (fields : List (String × Value))
  deriving Repr

/-- The own properties of an object, in insertion order. -/
abbrev Fields := List (String × Value)

namespace Fields

/-- The property `key`, if the object has one. -/
def get? (fields : Fields) (key : String) : Option Value :=
  (fields.find? fun entry => entry.1 == key).map Prod.snd

/-- Assign the property `key`: in place if it exists, at the end otherwise. -/
def set : Fields → String → Value → Fields
  | [], key, v => [(key, v)]
  | entry :: rest, key, v =>
    if entry.1 = key then (key, v) :: rest else entry :: set rest key v

/-- `{...fields, ...more}`. -/
def spread (fields more : Fields) : Fields := more.foldl (fun out entry => out.set entry.1 entry.2) fields

@[simp] theorem get?_nil (key : String) : get? [] key = none := rfl

theorem get?_cons (entry : String × Value) (rest : Fields) (key : String) :
    get? (entry :: rest) key = if entry.1 = key then some entry.2 else get? rest key := by
  by_cases h : entry.1 = key <;> simp [get?, h]

@[simp] theorem get?_set_self (fields : Fields) (key : String) (v : Value) :
    (fields.set key v).get? key = some v := by
  induction fields with
  | nil => simp [set, get?_cons]
  | cons entry rest ih =>
    rw [set]
    split
    · simp [get?_cons]
    · next h => rw [get?_cons, if_neg h, ih]

theorem get?_set_of_ne {key key' : String} (h : key' ≠ key) (fields : Fields) (v : Value) :
    (fields.set key v).get? key' = fields.get? key' := by
  induction fields with
  | nil => simp [set, get?_cons, Ne.symm h]
  | cons entry rest ih =>
    rw [set]
    split
    · next heq => rw [get?_cons, get?_cons, if_neg (Ne.symm h), if_neg (heq ▸ Ne.symm h)]
    · rw [get?_cons, get?_cons, ih]

/-- Of two assignments of one property the second counts. -/
theorem set_set (fields : Fields) (key : String) (v w : Value) :
    (fields.set key v).set key w = fields.set key w := by
  induction fields with
  | nil => simp [set]
  | cons entry rest ih =>
    by_cases h : entry.1 = key
    · simp [set, h]
    · simp only [set, if_neg h, ih]

theorem get?_append (fields more : Fields) (key : String) :
    get? (fields ++ more) key = (get? fields key).or (get? more key) := by
  induction fields with
  | nil => simp
  | cons entry rest ih =>
    rw [List.cons_append, get?_cons, get?_cons, ih]
    split <;> rfl

theorem get?_eq_none {fields : Fields} {key : String} :
    fields.get? key = none ↔ ∀ entry ∈ fields, entry.1 ≠ key := by
  simp [get?]

/-- What is read is an entry. -/
theorem mem_of_get? {fields : Fields} {key : String} {v : Value} (h : fields.get? key = some v) :
    (key, v) ∈ fields := by
  induction fields with
  | nil => simp at h
  | cons entry rest ih =>
    rw [get?_cons] at h
    by_cases hkey : entry.1 = key
    · rw [if_pos hkey, Option.some.injEq] at h
      rw [← hkey, ← h]
      exact List.mem_cons_self ..
    · rw [if_neg hkey] at h
      exact List.mem_cons_of_mem _ (ih h)

theorem get?_set (fields : Fields) (key key' : String) (v : Value) :
    (fields.set key v).get? key' = if key = key' then some v else fields.get? key' := by
  by_cases h : key = key'
  · subst h
    simp
  · rw [if_neg h, get?_set_of_ne (Ne.symm h)]

/-- Of the properties that are spread onto an object, the last with a name counts. -/
theorem get?_spread (fields more : Fields) (key : String) :
    (fields.spread more).get? key = (get? more.reverse key).or (fields.get? key) := by
  induction more generalizing fields with
  | nil => simp [spread]
  | cons entry more ih =>
    have hspread : fields.spread (entry :: more) = (fields.set entry.1 entry.2).spread more := rfl
    rw [hspread, ih, List.reverse_cons, get?_append, get?_cons, get?_set, get?_nil, Option.or_assoc]
    split <;> rfl

/-- The properties have distinct names. -/
def Distinct (fields : Fields) : Prop := (fields.map Prod.fst).Nodup

theorem map_fst_set (fields : Fields) (key : String) (v : Value) :
    (fields.set key v).map Prod.fst =
      if key ∈ fields.map Prod.fst then fields.map Prod.fst else fields.map Prod.fst ++ [key] := by
  induction fields with
  | nil => rfl
  | cons entry rest ih =>
    rw [set]
    by_cases h : entry.1 = key
    · simp [h]
    · rw [if_neg h, List.map_cons, ih]
      by_cases hmem : key ∈ rest.map Prod.fst <;> simp [hmem, Ne.symm h]

theorem Distinct.set {fields : Fields} (h : fields.Distinct) (key : String) (v : Value) :
    (fields.set key v).Distinct := by
  unfold Distinct
  rw [map_fst_set]
  split
  · exact h
  · next hmem =>
    refine List.nodup_append.mpr ⟨h, by simp, fun name hname key' hkey' heq => hmem ?_⟩
    rw [← List.mem_singleton.mp hkey', ← heq]
    exact hname

theorem Distinct.spread {fields more : Fields} (h : fields.Distinct) :
    (fields.spread more).Distinct := by
  induction more generalizing fields with
  | nil => exact h
  | cons entry more ih => exact ih (h.set ..)

/-- Of properties with distinct names, the entries are what is read. -/
theorem Distinct.get?_of_mem {fields : Fields} (h : fields.Distinct) {key : String} {v : Value}
    (hmem : (key, v) ∈ fields) : fields.get? key = some v := by
  induction fields with
  | nil => cases hmem
  | cons entry rest ih =>
    obtain ⟨hnotMem, hrest⟩ := List.nodup_cons.mp h
    rw [get?_cons]
    rcases List.mem_cons.mp hmem with rfl | hmem
    · rw [if_pos rfl]
    · have hne : entry.1 ≠ key := by
        rintro rfl
        exact hnotMem (List.mem_map.mpr ⟨_, hmem, rfl⟩)
      rw [if_neg hne]
      exact ih hrest hmem

end Fields

/-- The array index that a property name denotes, if it is written canonically. -/
def indexOf? (key : String) : Option ℕ :=
  let cs := key.toList
  let n := Nat.ofDigitChars 10 cs 0
  if cs.all Char.isDigit && Nat.toDigits 10 n == cs then some n else none

namespace Value

/-- Read the own property `key`; values that are not objects or arrays have none. -/
def prop : Value → String → Value
  | .obj fields, key => (Fields.get? fields key).getD .undefined
  | .arr items, key =>
    if key = "length" then .num (.fin items.length)
    else match indexOf? key with
      | some i => items.getD i .undefined
      | none => .undefined
  | _, _ => .undefined

/-- Assign the own property `key` of an object or an array. An array keeps its indexed
elements only; other values are left alone. -/
def setProp : Value → String → Value → Value
  | .obj fields, key, v => .obj (Fields.set fields key v)
  | .arr items, key, v =>
    match indexOf? key with
    | some i => .arr ((items ++ List.replicate (i + 1 - items.length) Value.undefined).set i v)
    | none => .arr items
  | cur, _, _ => cur

@[simp] theorem prop_obj (fields : Fields) (key : String) :
    (Value.obj fields).prop key = (fields.get? key).getD .undefined := rfl

/-- `v == null`: undefined or null. -/
def isNullish : Value → Bool
  | .undefined | .null => true
  | _ => false

/-- `Boolean(v)`. -/
def truthy : Value → Bool
  | .undefined | .null => false
  | .bool b => b
  | .num n => n ≠ .fin 0 && !n.isNaN
  | .str s => s ≠ ""
  | .arr _ | .obj _ => true

/-- `typeof v`. -/
def typeOf : Value → String
  | .undefined => "undefined"
  | .null | .arr _ | .obj _ => "object"
  | .bool _ => "boolean"
  | .num _ => "number"
  | .str _ => "string"

/-- `typeof v === 'object' && v !== null`. -/
def isObject : Value → Bool
  | .arr _ | .obj _ => true
  | _ => false

/-- `Object.entries(v)`, for values it accepts. -/
def entries? : Value → Option Fields
  | .undefined | .null => none
  | .bool _ | .num _ => some []
  | .str s => some (s.toList.mapIdx fun i c => (toString i, .str (String.singleton c)))
  | .arr items => some (items.mapIdx fun i v => (toString i, v))
  | .obj fields => some fields

end Value

/-! ## Text of values -/

/-- The number of decimals needed to write `q`, at most seventeen. -/
def decimals (q : ℚ) : ℕ := ((List.range 17).find? fun k => (q * 10 ^ k).den == 1).getD 17

/-- `String(x)` for a number: plain decimal notation, without exponents. -/
def Number.toText : Number → String
  | .fin q =>
    let k := decimals q
    let n := ⌊|q| * 10 ^ k⌋.toNat
    let frac := if k = 0 then [] else '.' :: List.leftpad k '0' (Nat.toDigits 10 (n % 10 ^ k))
    String.ofList ((if q < 0 then ['-'] else []) ++ Nat.toDigits 10 (n / 10 ^ k) ++ frac)
  | .inf s => if s then "-Infinity" else "Infinity"
  | .nan => "NaN"

mutual

/-- `String(v)`. -/
def Value.toText : Value → String
  | .undefined => "undefined"
  | .null => "null"
  | .bool b => if b then "true" else "false"
  | .num n => n.toText
  | .str s => s
  | .arr items => String.intercalate "," (joinTexts items)
  | .obj _ => "[object Object]"

/-- The texts that `items.join()` joins: nullish elements are empty. -/
def joinTexts : List Value → List String
  | [] => []
  | v :: rest => (if v.isNullish then "" else v.toText) :: joinTexts rest

end

/-- One character of a JSON string literal. -/
def quoteChar (c : Char) : List Char :=
  let hex (n : ℕ) : List Char := List.leftpad 4 '0' (Nat.toDigits 16 n)
  if c = '"' then ['\\', '"']
  else if c = '\\' then ['\\', '\\']
  else if c.toNat = 8 then ['\\', 'b']
  else if c.toNat = 9 then ['\\', 't']
  else if c.toNat = 10 then ['\\', 'n']
  else if c.toNat = 12 then ['\\', 'f']
  else if c.toNat = 13 then ['\\', 'r']
  else if c.toNat < 32 then '\\' :: 'u' :: hex c.toNat
  else [c]

/-- A JSON string literal. -/
def quoteJson (s : String) : String :=
  String.ofList ('"' :: (s.toList.flatMap quoteChar ++ ['"']))

mutual

/-- `JSON.stringify(v)`; `undefined` has no JSON text. -/
def stringify : Value → Option String
  | .undefined => none
  | .null => some "null"
  | .bool b => some (if b then "true" else "false")
  | .num n => some (if n.isFinite then n.toText else "null")
  | .str s => some (quoteJson s)
  | .arr items => some ("[" ++ String.intercalate "," (stringifyItems items) ++ "]")
  | .obj fields => some ("\x7b" ++ String.intercalate "," (stringifyFields fields) ++ "\x7d")

/-- The JSON texts of array elements. -/
def stringifyItems : List Value → List String
  | [] => []
  | v :: rest => (stringify v).getD "null" :: stringifyItems rest

/-- The JSON texts of the properties that have one. -/
def stringifyFields : List (String × Value) → List String
  | [] => []
  | (key, v) :: rest =>
    match stringify v with
    | some text => (quoteJson key ++ ":" ++ text) :: stringifyFields rest
    | none => stringifyFields rest

end

end Js
