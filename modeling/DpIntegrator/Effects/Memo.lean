import Mathlib.Logic.Function.Basic

/-!
# Tables of answers

A question is asked under a key, and its first answer is kept in a table, from which every later
question under the key is answered. A question that fails is not kept. After any questions the table
holds the first answer that was given under each key, so an answer is right for as long as the first
one under its key is.
-/

namespace Effects

/-- The answers that are kept. -/
abbrev Memo (κ α : Type) := κ → Option α

variable {κ α ε : Type}

namespace Memo

variable [DecidableEq κ] {memo : Memo κ α} {key : κ} {answer : Except ε α} {a : α}
  {asks asks' : List (κ × Except ε α)}

/-- Ask under a key. `answer` is what the question would be answered now. -/
def ask (memo : Memo κ α) (key : κ) (answer : Except ε α) : Except ε α × Memo κ α :=
  match memo key with
  | some a => (.ok a, memo)
  | none =>
    match answer with
    | .error e => (.error e, memo)
    | .ok a => (.ok a, Function.update memo key (some a))

/-- The table after some questions. -/
def after (memo : Memo κ α) (asks : List (κ × Except ε α)) : Memo κ α :=
  asks.foldl (fun memo q => (memo.ask q.1 q.2).2) memo

/-- The first answer that is given under a key. -/
def firstAnswer (key : κ) (asks : List (κ × Except ε α)) : Option α :=
  asks.findSome? fun q => if q.1 = key then q.2.toOption else none

@[simp] theorem after_nil : after memo ([] : List (κ × Except ε α)) = memo := rfl

theorem after_append : after memo (asks ++ asks') = after (after memo asks) asks' :=
  List.foldl_append ..

@[simp] theorem firstAnswer_nil : firstAnswer key ([] : List (κ × Except ε α)) = none := rfl

/-- A question is answered from the table, and otherwise now. -/
theorem ask_fst : (memo.ask key answer).1 = ((memo key).map Except.ok).getD answer := by
  unfold ask
  cases hmemo : memo key with
  | some a => rfl
  | none => cases answer <;> rfl

/-- A question adds its answer where its key has none. -/
theorem ask_snd (key' : κ) :
    (memo.ask key answer).2 key' = (memo key').or (if key = key' then answer.toOption else none) := by
  unfold ask
  by_cases hkey : key = key'
  · subst hkey
    rw [if_pos rfl]
    cases hmemo : memo key with
    | some a => simp [hmemo]
    | none => cases answer <;> simp [hmemo, Except.toOption]
  · rw [if_neg hkey, Option.or_none]
    cases hmemo : memo key with
    | some a => rfl
    | none =>
      cases answer with
      | error e => rfl
      | ok a => exact Function.update_of_ne (Ne.symm hkey) ..

/-- The table holds what it held, and the first answer where it held nothing. Induction on the
questions. -/
theorem after_eq : after memo asks key = (memo key).or (firstAnswer key asks) := by
  induction asks generalizing memo with
  | nil => rw [after_nil, firstAnswer_nil, Option.or_none]
  | cons q asks ih =>
    have hcons : after memo (q :: asks) = after (memo.ask q.1 q.2).2 asks := rfl
    have hfirst : firstAnswer key (q :: asks) =
        (if q.1 = key then q.2.toOption else none).or (firstAnswer key asks) := by
      unfold firstAnswer
      rw [List.findSome?_cons]
      cases (if q.1 = key then q.2.toOption else none) <;> rfl
    rw [hcons, ih, ask_snd, hfirst, Option.or_assoc]

/-- From an empty table, a question is answered by the first answer under its key. -/
theorem ask_after_fst :
    ((after (fun _ => none) asks).ask key answer).1 =
      ((firstAnswer key asks).map Except.ok).getD answer := by
  rw [ask_fst, after_eq, Option.none_or]

theorem ask_after_eq_ok :
    ((after (fun _ => none) asks).ask key answer).1 = .ok a ↔
      firstAnswer key asks = some a ∨ firstAnswer key asks = none ∧ answer = .ok a := by
  rw [ask_after_fst]
  cases firstAnswer key asks with
  | none => simp
  | some b => simp

end Memo

end Effects
