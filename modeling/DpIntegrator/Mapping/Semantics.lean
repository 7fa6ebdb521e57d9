import DpIntegrator.Mapping.Paths
import DpIntegrator.Mapping.Targets
import DpIntegrator.NetSuite.DeriveFns

/-!
# What a list of mappings means

The conditionals are resolved first, by the source alone. Of the mappings that are left
each misses or writes one value, neither of which depends on the output; so the evaluation
is a fold of writes up to the first miss.
-/

namespace DpIntegrator

open Effects

variable {S : Type} [ToJs S]

/-! ## Mappings without conditionals -/

/-- The mapping that a mapping comes down to, if its conditionals choose one. -/
def Mapping.chosen (source : S) : Mapping → Option Mapping
  | .conditional path equals then_ none =>
    if strictEqual (getPath (toJs source) path) equals then then_.chosen source else none
  | .conditional path equals then_ (some else_) =>
    if strictEqual (getPath (toJs source) path) equals then then_.chosen source
    else else_.chosen source
  | m => some m

/-- The effective mappings of a list. -/
def effective (source : S) (mappings : List Mapping) : List Mapping :=
  mappings.filterMap (Mapping.chosen source)

theorem effective_append (source : S) (xs ys : List Mapping) :
    effective source (xs ++ ys) = effective source xs ++ effective source ys :=
  List.filterMap_append

/-- A mapping does what the one that it comes down to does. -/
theorem applyMapping_chosen (source : S) (ctx : EvaluatorContext S) (out : Js.Fields) :
    ∀ m : Mapping, applyMapping source ctx m out =
      match m.chosen source with
      | some m' => applyMapping source ctx m' out
      | none => pure (.ok out)
  | .direct .. | .constant .. | .lookup .. | .derive .. | .malformed _ => rfl
  | .conditional path equals then_ none => by
    rw [applyMapping, Mapping.chosen]
    split
    · exact applyMapping_chosen source ctx out then_
    · rfl
  | .conditional path equals then_ (some else_) => by
    rw [applyMapping, Mapping.chosen]
    split
    · exact applyMapping_chosen source ctx out then_
    · exact applyMapping_chosen source ctx out else_

/-- Conditionals can be resolved before the evaluation. -/
theorem evaluateFrom_effective (source : S) (ctx : EvaluatorContext S) (mappings : List Mapping)
    (out : Js.Fields) :
    evaluateFrom source ctx (effective source mappings) out =
      evaluateFrom source ctx mappings out := by
  induction mappings generalizing out with
  | nil => rfl
  | cons m rest ih =>
    rw [evaluateFrom, applyMapping_chosen source ctx out m, effective, List.filterMap_cons]
    cases hchosen : m.chosen source with
    | none => exact (ih out)
    | some m' =>
      change evaluateFrom source ctx (m' :: effective source rest) out = _
      rw [evaluateFrom]
      refine congrArg _ (funext fun r => ?_)
      cases r with
      | ok out => exact ih out
      | parked reason => rfl

/-- Evaluating two lists is evaluating the first and then, from its output, the second. -/
theorem evaluateFrom_append (source : S) (ctx : EvaluatorContext S) (xs ys : List Mapping)
    (out : Js.Fields) :
    evaluateFrom source ctx (xs ++ ys) out =
      evaluateFrom source ctx xs out >>= fun
        | .ok out => evaluateFrom source ctx ys out
        | .parked reason => return .parked reason := by
  induction xs generalizing out with
  | nil => rfl
  | cons m rest ih =>
    rw [List.cons_append, evaluateFrom, evaluateFrom, bind_assoc]
    refine congrArg _ (funext ?_)
    rintro (out | reason)
    · exact ih out
    · rfl

/-- A mapping of an evaluation that succeeds was applied, and a property that no later mapping
writes is as it left it. -/
theorem evaluateFrom_applied {source : S} {ctx : EvaluatorContext S} {pre post : List Mapping}
    {m : Mapping} {out out' : Js.Fields} {tr : List Ev}
    (h : Settles (evaluateFrom source ctx (pre ++ m :: post) out) tr (.ok (.ok out'))) :
    ∃ written written' t, t ⊆ tr ∧
      Settles (applyMapping source ctx m written) t (.ok (.ok written')) ∧
      ∀ key, (∀ m' ∈ post, key ∉ m'.targets) → out'.get? key = written'.get? key := by
  rw [evaluateFrom_append] at h
  obtain ⟨r, t₁, t₂, rfl, _, hrest⟩ := settles_bind_ok.mp h
  cases r with
  | parked reason => cases (settles_pure.mp hrest).2
  | ok written =>
    obtain ⟨r, t₃, t₄, rfl, happly, hpost⟩ := settles_bind_ok.mp hrest
    cases r with
    | parked reason => cases (settles_pure.mp hpost).2
    | ok written' =>
      refine ⟨written, written', t₃, ?_, happly, fun key hkey => ?_⟩
      · intro ev hev
        exact List.mem_append_right _ (List.mem_append_left _ hev)
      · exact evaluateFrom_keeps (P := fun out => out.get? key = written'.get? key)
          (fun m' hm' _ _ hwrote hout => (hwrote.get?_eq (hkey m' hm')).trans hout) hpost rfl

theorem evaluateFrom_applies {source : S} {ctx : EvaluatorContext S} {mappings : List Mapping}
    {m : Mapping} {out out' : Js.Fields} {tr : List Ev}
    (h : Settles (evaluateFrom source ctx mappings out) tr (.ok (.ok out'))) (hm : m ∈ mappings) :
    ∃ written written' t, t ⊆ tr ∧
      Settles (applyMapping source ctx m written) t (.ok (.ok written')) := by
  obtain ⟨pre, post, rfl⟩ := List.append_of_mem hm
  obtain ⟨written, written', t, hsub, happly, _⟩ := evaluateFrom_applied h
  exact ⟨written, written', t, hsub, happly⟩

/-! ## Misses and writes -/

/-- What an evaluation depends on: the source, the lookup tables and the derivations. -/
structure Inputs (S : Type) where
  source : S
  rows : String → String → Option String
  derives : DeriveRegistry S

def Mapping.target : Mapping → String
  | .direct _ target | .constant _ target | .lookup _ _ target _ | .derive _ _ target => target
  | .conditional .. | .malformed _ => ""

namespace Inputs

variable (i : Inputs S)

/-- The key that a lookup reads from the source. -/
def key (fromKey : String) : Js.Value := getPath (toJs i.source) fromKey

/-- The row of a lookup, unless its key is absent. -/
def found (table fromKey : String) : Option String :=
  if (i.key fromKey).isNullish then none else i.rows table (i.key fromKey).toText

/-- Why a mapping parks: a required lookup without key or row. -/
def miss : Mapping → Option ParkReason
  | .lookup table fromKey _ true =>
    if (i.key fromKey).isNullish then
      some
        { detail := "lookup '" ++ table ++ "': source key '" ++ fromKey ++ "' missing"
          construct := some fromKey }
    else match i.rows table (i.key fromKey).toText with
      | some _ => none
      | none => some
        { detail := "lookup '" ++ table ++ "' has no row for key '" ++ (i.key fromKey).toText ++ "'"
          construct := some table
          evidence := some [(fromKey, i.key fromKey)] }
  | _ => none

/-- The value that a mapping writes; an optional lookup without key or row writes null. -/
def value : Mapping → Js.Value
  | .direct path _ => getPath (toJs i.source) path
  | .constant value _ => value
  | .lookup table fromKey _ _ => (i.found table fromKey).elim .null .str
  | .derive fn args _ =>
    match i.derives fn with
    | some derive => (derive args i.source).toOption.getD .undefined
    | none => .undefined
  | .conditional .. | .malformed _ => .undefined

/-- The lookups that a mapping performs. -/
def asked : Mapping → List (String × String)
  | .lookup table fromKey _ _ =>
    if (i.key fromKey).isNullish then [] else [(table, (i.key fromKey).toText)]
  | _ => []

/-- The output with what a mapping writes. -/
def write (out : Js.Fields) (m : Mapping) : Js.Fields := setAt out m.target (i.value m)

/-- A mapping can be applied: it has a target, and its derivation is registered and does not
throw. -/
def Applicable : Mapping → Prop
  | .direct _ target | .constant _ target | .lookup _ _ target _ => target ≠ ""
  | .derive fn args target =>
    target ≠ "" ∧ ∃ derive v, i.derives fn = some derive ∧ derive args i.source = .ok v
  | .conditional .. | .malformed _ => False

/-- The mappings up to the first miss can be applied. -/
def Ready : List Mapping → Prop
  | [] => True
  | m :: rest => i.Applicable m ∧ (i.miss m = none → Ready rest)

/-- The fold of the writes, up to the first miss. -/
def result : List Mapping → Js.Fields → MappingResult Js.Fields
  | [], out => .ok out
  | m :: rest, out =>
    match i.miss m with
    | some reason => .parked reason
    | none => result rest (i.write out m)

/-- The lookups that are performed, up to the first miss. -/
def performed : List Mapping → List (String × String)
  | [] => []
  | m :: rest => i.asked m ++ if (i.miss m).isSome then [] else performed rest

/-- The context gives these derivations, and where calls are answered as `kind` says its lookups
return these rows. -/
structure Answers (ctx : EvaluatorContext S) (kind : Ev → Prop) : Prop where
  derives : ctx.derives = i.derives
  rows : ∀ table key t r, (∀ ev ∈ t, kind ev) → Settles (ctx.lookups table key) t r →
    r = .ok (i.rows table key)

/-- The calls of some lookups, one after another. -/
inductive Asked (ctx : EvaluatorContext S) : List (String × String) → List Ev → Prop
  | nil : Asked ctx [] []
  | cons {table key : String} {rest : List (String × String)} {t t' : List Ev}
      (h : Settles (ctx.lookups table key) t (.ok (i.rows table key)))
      (hrest : Asked ctx rest t') : Asked ctx ((table, key) :: rest) (t ++ t')

variable {i} {ctx : EvaluatorContext S} {kind : Ev → Prop} {tr : List Ev}
  {res : Except Thrown (MappingResult Js.Fields)} {out : Js.Fields}

omit [ToJs S] in
@[simp] theorem asked_nil : i.Asked ctx [] tr ↔ tr = [] := by
  constructor
  · rintro ⟨⟩
    rfl
  · rintro rfl
    exact .nil

omit [ToJs S] in
@[simp] theorem asked_singleton {table key : String} :
    i.Asked ctx [(table, key)] tr ↔ Settles (ctx.lookups table key) tr (.ok (i.rows table key)) := by
  constructor
  · rintro (_ | ⟨h, hrest⟩)
    obtain rfl := asked_nil.mp hrest
    rwa [List.append_nil]
  · intro h
    rw [← List.append_nil tr]
    exact .cons h .nil

omit [ToJs S] in
theorem Asked.append {l l' : List (String × String)} {t t' : List Ev} (h : i.Asked ctx l t)
    (h' : i.Asked ctx l' t') : i.Asked ctx (l ++ l') (t ++ t') := by
  induction h with
  | nil => exact h'
  | cons hlookup _ ih =>
    rw [List.cons_append, List.append_assoc]
    exact .cons hlookup ih

omit [ToJs S] in
theorem Asked.of_append {l l' : List (String × String)} {t : List Ev}
    (h : i.Asked ctx (l ++ l') t) :
    ∃ t₁ t₂, t = t₁ ++ t₂ ∧ i.Asked ctx l t₁ ∧ i.Asked ctx l' t₂ := by
  induction l generalizing t with
  | nil => exact ⟨[], t, rfl, .nil, h⟩
  | cons entry rest ih =>
    cases h with
    | cons hlookup hrest =>
      obtain ⟨t₁, t₂, rfl, h₁, h₂⟩ := ih hrest
      exact ⟨_, t₂, (List.append_assoc ..).symm, .cons hlookup h₁, h₂⟩

/-- What applying one mapping gives. -/
def outcome (i : Inputs S) (m : Mapping) (out : Js.Fields) : MappingResult Js.Fields :=
  match i.miss m with
  | some reason => .parked reason
  | none => .ok (i.write out m)

omit [ToJs S] in
theorem settles_setPath {target : String} (h : target ≠ "") {value : Js.Value} :
    Settles (do return MappingResult.ok (← Async.ofExcept (setPath out target value)) :
      Async (MappingResult Js.Fields)) tr res ↔
      tr = [] ∧ res = .ok (.ok (setAt out target value)) := by
  rw [setPath_eq h]
  exact settles_pure

omit [ToJs S] in
/-- A program that awaits what has one answer only, and then settles without a call. -/
theorem settles_bind_answered {α β : Type} {x : Async α} {k : α → Async β} {a : α}
    {b res : Except Thrown β}
    (hx : ∀ t r, (∀ ev ∈ t, kind ev) → Settles x t r → r = .ok a)
    (hk : ∀ {t r}, Settles (k a) t r ↔ t = [] ∧ r = b) (hkind : ∀ ev ∈ tr, kind ev) :
    Settles (x >>= k) tr res ↔ res = b ∧ Settles x tr (.ok a) := by
  constructor
  · intro h
    obtain ⟨e, rfl, herror⟩ | ⟨answer, t₁, t₂, rfl, hanswer, hrest⟩ := settles_bind.mp h
    · cases hx _ _ hkind herror
    · obtain rfl := Except.ok.inj
        (hx _ _ (fun ev hev => hkind ev (List.mem_append_left _ hev)) hanswer)
      obtain ⟨rfl, rfl⟩ := hk.mp hrest
      rw [List.append_nil]
      exact ⟨rfl, hanswer⟩
  · rintro ⟨rfl, h⟩
    exact settles_bind.mpr (.inr ⟨_, tr, [], by simp, h, hk.mpr ⟨rfl, rfl⟩⟩)

/-- A lookup reads its key, asks for the row unless the key is absent, and then parks or writes. -/
theorem settles_applyLookup {table fromKey target : String} {required : Bool}
    (hctx : i.Answers ctx kind) (htarget : target ≠ "") (hkind : ∀ ev ∈ tr, kind ev) :
    Settles (applyLookup i.source table fromKey target required ctx out) tr res ↔
      res = .ok (i.outcome (.lookup table fromKey target required) out) ∧
        i.Asked ctx (i.asked (.lookup table fromKey target required)) tr := by
  have hasked : i.asked (.lookup table fromKey target required) =
      if (i.key fromKey).isNullish then [] else [(table, (i.key fromKey).toText)] := rfl
  unfold applyLookup outcome
  rw [hasked, ← key]
  dsimp only
  by_cases hnull : (i.key fromKey).isNullish = true
  · rw [if_pos hnull, if_pos hnull, asked_nil]
    cases required with
    | true => simp [settles_pure, miss, hnull, and_comm]
    | false =>
      rw [if_neg Bool.false_ne_true, settles_setPath htarget]
      simp [miss, write, value, found, hnull, Mapping.target, and_comm]
  · rw [if_neg hnull, if_neg hnull, asked_singleton]
    refine settles_bind_answered (fun t r ht h => hctx.rows _ _ t r ht h) (fun {t r} => ?_) hkind
    cases hrow : i.rows table (i.key fromKey).toText with
    | none =>
      cases required with
      | true => simp [settles_pure, miss, hnull, hrow]
      | false =>
        dsimp only
        rw [if_neg Bool.false_ne_true, settles_setPath htarget]
        simp [miss, write, value, found, hnull, hrow, Mapping.target]
    | some resolved =>
      dsimp only
      rw [settles_setPath htarget]
      cases required <;> simp [miss, write, value, found, hnull, hrow, Mapping.target]

theorem settles_applyMapping {m : Mapping} (hctx : i.Answers ctx kind) (hm : i.Applicable m)
    (hkind : ∀ ev ∈ tr, kind ev) :
    Settles (applyMapping i.source ctx m out) tr res ↔
      res = .ok (i.outcome m out) ∧ i.Asked ctx (i.asked m) tr := by
  cases m with
  | direct path target =>
    have hwrite : applyDirect i.source path target out =
        .ok (.ok (i.write out (.direct path target))) := by
      rw [applyDirect, setPath_eq hm]
      rfl
    rw [applyMapping, hwrite]
    exact settles_pure.trans (by simp [outcome, miss, asked, and_comm])
  | constant value target =>
    have hwrite : applyConstant value target out =
        .ok (.ok (i.write out (.constant value target))) := by
      rw [applyConstant, setPath_eq hm]
      rfl
    rw [applyMapping, hwrite]
    exact settles_pure.trans (by simp [outcome, miss, asked, and_comm])
  | lookup table fromKey target required => exact settles_applyLookup hctx hm hkind
  | derive fn args target =>
    obtain ⟨htarget, derive, v, hfn, hv⟩ := hm
    have hwrite : applyDerive i.source fn args target ctx out =
        .ok (.ok (i.write out (.derive fn args target))) := by
      simp only [applyDerive, hctx.derives, hfn, hv, setPath_eq htarget, write, value]
      rfl
    rw [applyMapping, hwrite]
    exact settles_pure.trans (by simp [outcome, miss, asked, and_comm])
  | conditional | malformed => cases hm

/-- The evaluation of effective mappings is a fold. Induction on the mappings. -/
theorem settles_evaluateFrom {ms : List Mapping} (hctx : i.Answers ctx kind) (hms : i.Ready ms)
    (hkind : ∀ ev ∈ tr, kind ev) :
    Settles (evaluateFrom i.source ctx ms out) tr res ↔
      res = .ok (i.result ms out) ∧ i.Asked ctx (i.performed ms) tr := by
  induction ms generalizing out tr res with
  | nil => exact settles_pure.trans (by simp [result, performed, and_comm])
  | cons m rest ih =>
    obtain ⟨hm, hrest⟩ := hms
    rw [evaluateFrom, performed, result]
    constructor
    · intro h
      obtain ⟨e, rfl, herror⟩ | ⟨r, t₁, t₂, rfl, happly, hafter⟩ := settles_bind.mp h
      · cases ((settles_applyMapping hctx hm hkind).mp herror).1
      have hkind₁ : ∀ ev ∈ t₁, kind ev := fun ev hev => hkind ev (List.mem_append_left _ hev)
      have hkind₂ : ∀ ev ∈ t₂, kind ev := fun ev hev => hkind ev (List.mem_append_right _ hev)
      obtain ⟨hr, hasked⟩ := (settles_applyMapping hctx hm hkind₁).mp happly
      obtain rfl := Except.ok.inj hr
      unfold outcome at hafter
      cases hmiss : i.miss m with
      | some reason =>
        rw [hmiss] at hafter
        obtain ⟨rfl, rfl⟩ := settles_pure.mp hafter
        exact ⟨rfl, by simpa using hasked⟩
      | none =>
        rw [hmiss] at hafter
        obtain ⟨rfl, hperformed⟩ := (ih (hrest hmiss) hkind₂).mp hafter
        exact ⟨rfl, by simpa using hasked.append hperformed⟩
    · rintro ⟨rfl, hperformed⟩
      obtain ⟨t₁, t₂, rfl, h₁, h₂⟩ := hperformed.of_append
      have hkind₁ : ∀ ev ∈ t₁, kind ev := fun ev hev => hkind ev (List.mem_append_left _ hev)
      have hkind₂ : ∀ ev ∈ t₂, kind ev := fun ev hev => hkind ev (List.mem_append_right _ hev)
      have happly : Settles (applyMapping i.source ctx m out) t₁ (.ok (i.outcome m out)) :=
        (settles_applyMapping hctx hm hkind₁).mpr ⟨rfl, h₁⟩
      refine settles_bind.mpr (.inr ⟨_, t₁, t₂, rfl, happly, ?_⟩)
      unfold outcome
      cases hmiss : i.miss m with
      | some reason =>
        have hnil : t₂ = [] := by simpa [hmiss] using h₂
        exact settles_pure.mpr ⟨hnil, rfl⟩
      | none =>
        have hperformed : i.Asked ctx (i.performed rest) t₂ := by simpa [hmiss] using h₂
        exact (ih (hrest hmiss) hkind₂).mpr ⟨rfl, hperformed⟩

/-! ## The result -/

theorem exists_first_miss {ms : List Mapping} (h : ¬ ∀ m ∈ ms, i.miss m = none) :
    ∃ before m after reason, ms = before ++ m :: after ∧ (∀ m' ∈ before, i.miss m' = none) ∧
      i.miss m = some reason := by
  induction ms with
  | nil => exact absurd (by simp) h
  | cons m rest ih =>
    cases hmiss : i.miss m with
    | some reason => exact ⟨[], m, rest, reason, rfl, by simp, hmiss⟩
    | none =>
      obtain ⟨before, m', after, reason, rfl, hbefore, hm'⟩ := ih fun hrest => h (by simpa [hmiss])
      exact ⟨m :: before, m', after, reason, rfl, by simpa [hmiss] using hbefore, hm'⟩

theorem result_of_no_miss {ms : List Mapping} (h : ∀ m ∈ ms, i.miss m = none) :
    i.result ms out = .ok (ms.foldl i.write out) ∧ i.performed ms = ms.flatMap i.asked := by
  induction ms generalizing out with
  | nil => exact ⟨rfl, rfl⟩
  | cons m rest ih =>
    have hm : i.miss m = none := h m (List.mem_cons_self ..)
    obtain ⟨hresult, hperformed⟩ := @ih (i.write out m)
      fun m' hm' => h m' (List.mem_cons_of_mem _ hm')
    exact ⟨by simpa [result, hm] using hresult, by simp [performed, hm, hperformed]⟩

theorem result_of_miss {before after : List Mapping} {m : Mapping} {reason : ParkReason}
    (hbefore : ∀ m' ∈ before, i.miss m' = none) (hm : i.miss m = some reason) :
    i.result (before ++ m :: after) out = .parked reason ∧
      i.performed (before ++ m :: after) = (before ++ [m]).flatMap i.asked := by
  induction before generalizing out with
  | nil => simp [result, performed, hm]
  | cons m' rest ih =>
    have hm' : i.miss m' = none := hbefore m' (List.mem_cons_self ..)
    obtain ⟨hresult, hperformed⟩ := @ih (i.write out m')
      fun m'' hm'' => hbefore m'' (List.mem_cons_of_mem _ hm'')
    exact ⟨by simpa [result, hm'] using hresult, by simp [performed, hm', hperformed]⟩

/-! ## Overlapping writes -/

/-- No write of the mappings steps into an array. -/
def Clears (i : Inputs S) (ms : List Mapping) (out : Js.Fields) : Prop :=
  ∀ before m after, ms = before ++ m :: after →
    Clear (.obj (before.foldl i.write out)) (pathParts m.target)

theorem Clears.head {m : Mapping} {rest : List Mapping} (h : i.Clears (m :: rest) out) :
    Clear (.obj out) (pathParts m.target) := h [] m rest rfl

theorem Clears.tail {m : Mapping} {rest : List Mapping} (h : i.Clears (m :: rest) out) :
    i.Clears rest (i.write out m) := by
  rintro before m' after rfl
  exact h (m :: before) m' after rfl

theorem Clears.right {before after : List Mapping} (h : i.Clears (before ++ after) out) :
    i.Clears after (before.foldl i.write out) := by
  induction before generalizing out with
  | nil => exact h
  | cons m rest ih => exact ih h.tail

omit [ToJs S] in
theorem Applicable.target_ne {m : Mapping} (h : i.Applicable m) : m.target ≠ "" := by
  cases m with
  | direct | constant | lookup => exact h
  | derive => exact h.1
  | conditional | malformed => cases h

theorem Ready.applicable {ms : List Mapping} (h : i.Ready ms) (hmiss : ∀ m ∈ ms, i.miss m = none) :
    ∀ m ∈ ms, i.Applicable m := by
  induction ms with
  | nil => simp
  | cons m rest ih =>
    obtain ⟨hm, hrest⟩ := h
    have happlicable := ih (hrest (hmiss m (List.mem_cons_self ..)))
      fun m' hm' => hmiss m' (List.mem_cons_of_mem _ hm')
    simpa [hm] using happlicable

theorem Ready.left {xs ys : List Mapping} (h : i.Ready (xs ++ ys)) : i.Ready xs := by
  induction xs with
  | nil => trivial
  | cons m rest ih => exact ⟨h.1, fun hmiss => ih (h.2 hmiss)⟩

/-- Writes apart from a path leave what is read there. Induction on the writes. -/
theorem getPath_foldl {ms : List Mapping} {path : String} (hclears : i.Clears ms out)
    (htargets : ∀ m ∈ ms, m.target ≠ "") (happart : ∀ m ∈ ms, Apart m.target path) :
    getPath (.obj (ms.foldl i.write out)) path = getPath (.obj out) path := by
  induction ms generalizing out with
  | nil => rfl
  | cons m rest ih =>
    have hrest := ih hclears.tail (fun m' hm' => htargets m' (List.mem_cons_of_mem _ hm'))
      fun m' hm' => happart m' (List.mem_cons_of_mem _ hm')
    have hwrite : getPath (.obj (i.write out m)) path = getPath (.obj out) path :=
      getPath_setAt_apart (htargets m (List.mem_cons_self ..)) hclears.head
        (happart m (List.mem_cons_self ..))
    exact hrest.trans hwrite

/-- A write that no later one overlaps is read in the end. -/
theorem getPath_of_last {before after : List Mapping} {m : Mapping}
    (hclears : i.Clears (before ++ m :: after) out)
    (htargets : ∀ m' ∈ before ++ m :: after, m'.target ≠ "")
    (happart : ∀ m' ∈ after, Apart m'.target m.target) :
    getPath (.obj ((before ++ m :: after).foldl i.write out)) m.target = i.value m := by
  have hmid : i.Clears (m :: after) (before.foldl i.write out) := hclears.right
  have htarget : m.target ≠ "" := htargets m (by simp)
  rw [List.foldl_append, List.foldl_cons,
    getPath_foldl hmid.tail (fun m' hm' => htargets m' (by simp [hm'])) happart]
  exact getPath_setAt_self htarget hmid.head

/-! ## Whole evaluations -/

/-- What an evaluation of `mappings` with the calls `tr` gives. -/
structure Evaluates (i : Inputs S) (ctx : EvaluatorContext S) (mappings : List Mapping)
    (tr : List Ev) (res : Except Thrown (MappingResult Js.Fields)) : Prop where
  /-- It succeeds unless an effective mapping misses. -/
  ok_iff : (∃ out, res = .ok (.ok out)) ↔ ∀ m ∈ effective i.source mappings, i.miss m = none
  /-- The first miss parks, and no lookup of a later mapping is performed. -/
  parks : ∀ before m after reason, effective i.source mappings = before ++ m :: after →
    (∀ m' ∈ before, i.miss m' = none) → i.miss m = some reason →
      res = .ok (.parked reason) ∧ i.Asked ctx ((before ++ [m]).flatMap i.asked) tr
  /-- Without a miss the output is the fold of the writes. -/
  writes : (∀ m ∈ effective i.source mappings, i.miss m = none) →
    res = .ok (.ok ((effective i.source mappings).foldl i.write [])) ∧
      i.Asked ctx ((effective i.source mappings).flatMap i.asked) tr
  /-- A second list of mappings is folded over what the first gives, and changes it along its own
  paths only. -/
  appends : ∀ xs ys, mappings = xs ++ ys → ∀ out, res = .ok (.ok out) → ∃ mid tr₁,
    (∃ tr₂, tr = tr₁ ++ tr₂) ∧ Settles (evaluate i.source xs ctx) tr₁ (.ok (.ok mid)) ∧
      out = (effective i.source ys).foldl i.write mid ∧
      (i.Clears (effective i.source mappings) [] → ∀ path,
        (∀ m ∈ effective i.source ys, Apart m.target path) →
          getPath (.obj out) path = getPath (.obj mid) path)
  /-- Of the writes at one path the last is read. -/
  wins : ∀ before m after, effective i.source mappings = before ++ m :: after →
    i.Clears (effective i.source mappings) [] → (∀ m' ∈ after, Apart m'.target m.target) →
      ∀ out, res = .ok (.ok out) → getPath (.obj out) m.target = i.value m

/-- The evaluator means what its mappings mean. The mappings need to be applicable only up to the
first miss: nothing of a later one is performed. -/
theorem evaluates_of_settles {mappings : List Mapping} (hctx : i.Answers ctx kind)
    (hready : i.Ready (effective i.source mappings)) (hkind : ∀ ev ∈ tr, kind ev)
    (h : Settles (evaluate i.source mappings ctx) tr res) : i.Evaluates ctx mappings tr res := by
  have hevaluated : Settles (evaluateFrom i.source ctx (effective i.source mappings) []) tr res := by
    rw [evaluateFrom_effective]
    exact h
  obtain ⟨rfl, hasked⟩ := (settles_evaluateFrom hctx hready hkind).mp hevaluated
  have hwrites (hmiss : ∀ m ∈ effective i.source mappings, i.miss m = none) :=
    @result_of_no_miss S _ i [] _ hmiss
  have hok {out : Js.Fields}
      (hout : (.ok (i.result (effective i.source mappings) []) : Except Thrown _) = .ok (.ok out)) :
      (∀ m ∈ effective i.source mappings, i.miss m = none) ∧
        out = (effective i.source mappings).foldl i.write [] := by
    have hmiss : ∀ m ∈ effective i.source mappings, i.miss m = none := by
      by_contra hmiss
      obtain ⟨before, m, after, reason, heq, hbefore, hm⟩ := exists_first_miss hmiss
      rw [heq, (result_of_miss hbefore hm).1] at hout
      cases hout
    rw [(hwrites hmiss).1] at hout
    cases hout
    exact ⟨hmiss, rfl⟩
  constructor
  case ok_iff =>
    constructor
    · rintro ⟨out, hout⟩
      exact (hok hout).1
    · exact fun hmiss => ⟨_, congrArg Except.ok (hwrites hmiss).1⟩
  case parks =>
    intro before m after reason heq hbefore hm
    obtain ⟨hresult, hperformed⟩ := @result_of_miss S _ i [] before after m reason hbefore hm
    rw [heq] at hasked ⊢
    rw [hperformed] at hasked
    exact ⟨congrArg Except.ok hresult, hasked⟩
  case writes =>
    intro hmiss
    rw [(hwrites hmiss).2] at hasked
    exact ⟨congrArg Except.ok (hwrites hmiss).1, hasked⟩
  case appends =>
    rintro xs ys rfl out hout
    rw [hout] at h
    obtain ⟨hmiss, rfl⟩ := hok hout
    have htargets : ∀ m ∈ effective i.source (xs ++ ys), m.target ≠ "" := fun m hm =>
      (hready.applicable hmiss m hm).target_ne
    rw [effective_append] at hready hmiss htargets ⊢
    have happend := h
    rw [evaluate, evaluateFrom_append] at happend
    obtain ⟨r, tr₁, tr₂, rfl, hxs, hys⟩ := settles_bind_ok.mp happend
    cases r with
    | parked reason => cases (settles_pure.mp hys).2
    | ok mid =>
      have hkind₁ : ∀ ev ∈ tr₁, kind ev := fun ev hev => hkind ev (List.mem_append_left _ hev)
      have hmid := hxs
      rw [← evaluateFrom_effective, settles_evaluateFrom hctx hready.left hkind₁,
        (result_of_no_miss fun m hm => hmiss m (List.mem_append_left _ hm)).1] at hmid
      obtain rfl : mid = (effective i.source xs).foldl i.write [] := by simpa using hmid.1
      refine ⟨_, tr₁, ⟨tr₂, rfl⟩, hxs, List.foldl_append, fun hclears path happart => ?_⟩
      rw [List.foldl_append]
      exact getPath_foldl hclears.right (fun m hm => htargets m (List.mem_append_right _ hm)) happart
  case wins =>
    intro before m after heq hclears happart out hout
    obtain ⟨hmiss, rfl⟩ := hok hout
    have htargets : ∀ m' ∈ effective i.source mappings, m'.target ≠ "" := fun m' hm' =>
      (hready.applicable hmiss m' hm').target_ne
    rw [heq] at hclears htargets ⊢
    exact getPath_of_last hclears htargets happart

end Inputs

/-- The mappings of a connection come after the built-in ones. -/
theorem buildDefaultOrderHeaderMap_eq (connection : Connection) :
    buildDefaultOrderHeaderMap connection =
      buildDefaultOrderHeaderMap { connection with extraOrderHeaderMappings := [] } ++
        connection.extraOrderHeaderMappings := by
  simp [buildDefaultOrderHeaderMap]

/-- Every evaluation means what its mappings mean; in the header map of a connection its own
mappings come last. -/
theorem evaluation_means {i : Inputs S} {ctx : EvaluatorContext S} {kind : Ev → Prop}
    {mappings : List Mapping} {tr : List Ev} {res : Except Thrown (MappingResult Js.Fields)}
    (hctx : i.Answers ctx kind) (hready : i.Ready (effective i.source mappings))
    (hkind : ∀ ev ∈ tr, kind ev) (h : Settles (evaluate i.source mappings ctx) tr res) :
    i.Evaluates ctx mappings tr res ∧ ∀ connection, mappings = buildDefaultOrderHeaderMap connection →
      ∃ builtIn, mappings = builtIn ++ connection.extraOrderHeaderMappings ∧
        builtIn = buildDefaultOrderHeaderMap { connection with extraOrderHeaderMappings := [] } := by
  refine ⟨Inputs.evaluates_of_settles hctx hready hkind h, fun connection heq => ⟨_, ?_, rfl⟩⟩
  rw [heq, buildDefaultOrderHeaderMap_eq]

namespace Sample

/-- An order in dollars, and a table that has a row for every key. -/
def inputs : Inputs Js.Value where
  source := .obj [("currencyCode", .str "USD")]
  rows := fun _ _ => some "7"
  derives := fun _ => none

def context : EvaluatorContext Js.Value where
  lookups := fun _ _ => pure (some "7")
  derives := fun _ => none

def mappings : List Mapping :=
  [.lookup "lookup_currency" "currencyCode" "currency" true,
    .conditional "currencyCode" (.str "USD") (.constant (.str "B") "order.status") none,
    .constant (.str "A") "order.status"]

end Sample

/-- The later of two mappings wins. -/
theorem evaluation_means_sample :
    Sample.inputs.Evaluates Sample.context Sample.mappings []
      (.ok (.ok [("currency", .str "7"), ("order", .obj [("status", .str "A")])])) := by
  have hctx : Sample.inputs.Answers Sample.context fun _ => True :=
    ⟨rfl, fun table key t r _ h => (settles_pure.mp h).2⟩
  have hchosen : effective Sample.inputs.source Sample.mappings =
      [.lookup "lookup_currency" "currencyCode" "currency" true,
        .constant (.str "B") "order.status", .constant (.str "A") "order.status"] := by
    have hdollars : strictEqual (getPath (toJs Sample.inputs.source) "currencyCode")
      (.str "USD") = true := by decide +kernel
    simp [effective, Sample.mappings, Mapping.chosen, hdollars]
  have hready : Sample.inputs.Ready (effective Sample.inputs.source Sample.mappings) := by
    rw [hchosen]
    simp [Inputs.Ready, Inputs.Applicable]
  have hresult : Settles (evaluate Sample.inputs.source Sample.mappings Sample.context) []
      (.ok (.ok [("currency", .str "7"), ("order", .obj [("status", .str "A")])])) := .ret _
  exact (evaluation_means hctx hready (fun _ _ => trivial) hresult).1

end DpIntegrator
