import DpIntegrator.Postgres.XrefRefinement

/-!
# Tuples do not meet in the stores

A dedup key is made of five components, whatever comes in their places: a tuple with a
component that is no text, or an empty one, or one with the separator, has no key, and two
tuples with one key are one tuple. So the in-memory xref store, whose rows stand under the keys,
keeps every tuple apart from all others: operations on the others neither change its row nor what
its own operations answer.
-/

namespace DpIntegrator

open Effects

/-! ## Keys of anything -/

/-- The argument of `dedupKey`, whatever stands in the places of its components. -/
structure DedupKeyArg where
  environment : Js.Value
  connectionId : Js.Value
  entityType : Js.Value
  sourceSystem : Js.Value
  sourceId : Js.Value

namespace DedupKeyArg

/-- The components, in order. -/
def values (arg : DedupKeyArg) : List Js.Value :=
  [arg.environment, arg.connectionId, arg.entityType, arg.sourceSystem, arg.sourceId]

def toJs (arg : DedupKeyArg) : Js.Fields :=
  [("environment", arg.environment), ("connectionId", arg.connectionId),
    ("entityType", arg.entityType), ("sourceSystem", arg.sourceSystem),
    ("sourceId", arg.sourceId)]

/-- What is wrong with the first component that is no text, is empty or contains the separator;
`json` is the text of the whole argument. -/
def problem (json : String) : List Js.Value → Option String
  | [] => none
  | .str v :: rest =>
    if v = "" then some ("dedupKey: empty/non-string component: " ++ json)
    else if Js.includes v "|" then
      some ("dedupKey: component contains reserved separator '|': " ++ v)
    else problem json rest
  | _ :: _ => some ("dedupKey: empty/non-string component: " ++ json)

/-- `dedupKey(arg)`, before it is known what the components are. -/
def dedupKey (arg : DedupKeyArg) : Except Thrown String :=
  match problem ((Js.stringify (.obj arg.toJs)).getD "") arg.values with
  | some message => .error (newError message)
  | none => .ok (String.intercalate "|" (Js.joinTexts arg.values))

/-- Every component is a text that is not empty and does not contain the separator. -/
def Valid (arg : DedupKeyArg) : Prop :=
  ∀ v ∈ arg.values, ∃ text, v = .str text ∧ text ≠ "" ∧ '|' ∉ text.toList

section Keys

variable {arg arg' : DedupKeyArg} {key : String}

theorem values_inj (h : arg.values = arg'.values) : arg = arg' := by
  obtain ⟨e, c, t, s, i⟩ := arg
  obtain ⟨e', c', t', s', i'⟩ := arg'
  simp only [values, List.cons.injEq, and_true] at h
  obtain ⟨rfl, rfl, rfl, rfl, rfl⟩ := h
  rfl

theorem problem_map_str (json : String) (texts : List String) :
    problem json (texts.map .str) = dedupKeyProblem json texts := by
  induction texts with
  | nil => rfl
  | cons v rest ih =>
    simp only [List.map_cons, problem, dedupKeyProblem]
    rw [ih]

theorem joinTexts_map_str (texts : List String) : Js.joinTexts (texts.map .str) = texts := by
  induction texts with
  | nil => rfl
  | cons v rest ih => simp [Js.joinTexts, Js.Value.isNullish, Js.Value.toText, ih]

/-- Nothing is wrong with texts that are not empty and do not contain the separator, and with
nothing else. Induction on the components. -/
theorem problem_eq_none {json : String} {values : List Js.Value} :
    problem json values = none ↔
      ∀ v ∈ values, ∃ text, v = .str text ∧ text ≠ "" ∧ '|' ∉ text.toList := by
  induction values with
  | nil => simp [problem]
  | cons v rest ih =>
    rw [List.forall_mem_cons]
    cases v with
    | str text =>
      rw [problem]
      have hsep : Js.includes text "|" = true ↔ '|' ∈ text.toList := Js.occurs_singleton
      by_cases hempty : text = ""
      · simp [hempty]
      · by_cases hincludes : Js.includes text "|" = true
        · simp [hempty, hincludes, hsep.mp hincludes]
        · simp [hempty, hincludes, mt hsep.mpr hincludes, ih]
    | undefined | null | bool | num | arr | obj => simp [problem]

theorem exists_texts {values : List Js.Value}
    (h : ∀ v ∈ values, ∃ text, v = .str text ∧ text ≠ "" ∧ '|' ∉ text.toList) :
    ∃ texts : List String, values = texts.map .str ∧ ∀ text ∈ texts, '|' ∉ text.toList := by
  induction values with
  | nil => exact ⟨[], rfl, by simp⟩
  | cons v rest ih =>
    obtain ⟨⟨text, rfl, _, hsep⟩, hrest⟩ := List.forall_mem_cons.mp h
    obtain ⟨texts, rfl, hseps⟩ := ih hrest
    exact ⟨text :: texts, rfl, List.forall_mem_cons.mpr ⟨hsep, hseps⟩⟩

theorem dedupKey_eq_ok :
    arg.dedupKey = .ok key ↔
      arg.Valid ∧ key = String.intercalate "|" (Js.joinTexts arg.values) := by
  unfold dedupKey
  cases hproblem : problem _ arg.values with
  | none =>
    have hvalid : arg.Valid := problem_eq_none.mp hproblem
    simp [hvalid, eq_comm]
  | some message =>
    have hinvalid : ¬arg.Valid := fun hvalid => by
      rw [problem_eq_none.mpr hvalid] at hproblem
      cases hproblem
    simp [hinvalid]

/-- A tuple has a key exactly if it is valid. -/
theorem exists_dedupKey_iff : (∃ key, arg.dedupKey = .ok key) ↔ arg.Valid := by
  constructor
  · rintro ⟨key, hkey⟩
    exact (dedupKey_eq_ok.mp hkey).1
  · intro hvalid
    exact ⟨_, dedupKey_eq_ok.mpr ⟨hvalid, rfl⟩⟩

/-- Tuples with one key are one tuple. -/
theorem dedupKey_inj (h : arg.dedupKey = .ok key) (h' : arg'.dedupKey = .ok key) : arg = arg' := by
  obtain ⟨hvalid, rfl⟩ := dedupKey_eq_ok.mp h
  obtain ⟨hvalid', hkey⟩ := dedupKey_eq_ok.mp h'
  obtain ⟨texts, htexts, hseps⟩ := exists_texts hvalid
  obtain ⟨texts', htexts', hseps'⟩ := exists_texts hvalid'
  have hne {arg : DedupKeyArg} {texts : List String} (h : arg.values = texts.map .str) :
      texts ≠ [] := by
    rintro rfl
    simp [values] at h
  rw [htexts, htexts', joinTexts_map_str, joinTexts_map_str] at hkey
  have hsame : texts = texts' := Js.intercalate_inj hseps hseps' (hne htexts) (hne htexts') hkey
  apply values_inj
  rw [htexts, htexts', hsame]

end Keys

end DedupKeyArg

/-- The parts of a key as an argument of `dedupKey`. -/
def DedupKeyParts.arg (parts : DedupKeyParts) : DedupKeyArg where
  environment := .str parts.environment.text
  connectionId := .str parts.connectionId
  entityType := .str parts.entityType.text
  sourceSystem := .str parts.sourceSystem.text
  sourceId := .str parts.sourceId

/-- The key of the parts is the key of what they are given as. -/
theorem DedupKeyParts.dedupKey_arg (parts : DedupKeyParts) :
    parts.arg.dedupKey = dedupKey parts := by
  have hvalues : parts.arg.values = parts.values.map .str := rfl
  have hjson : parts.arg.toJs = parts.toJs ++ [] := (List.append_nil _).symm
  unfold DedupKeyArg.dedupKey dedupKey dedupKeyWith
  cases hproblem : dedupKeyProblem ((Js.stringify (.obj (parts.toJs ++ []))).getD "")
      parts.values with
  | none => simp only [hvalues, hjson, DedupKeyArg.problem_map_str,
      DedupKeyArg.joinTexts_map_str, hproblem]
  | some message => simp only [hvalues, hjson, DedupKeyArg.problem_map_str, hproblem]

/-! ## One operation -/

namespace XrefOp

variable {rows rows' : XrefRows} {parts : DedupKeyParts} {key : String}

/-- What an operation leaves differs from the rows in the row of its key only. -/
theorem leave_of_ne {α : Type} {x : Except Thrown (α × XrefRows)}
    (h : ∀ a rows', x = .ok (a, rows') → ∃ key, dedupKey parts = .ok key ∧
      ∀ key', key' ≠ key → rows' key' = rows key')
    (hkey : dedupKey parts ≠ .ok key) : (leave rows x).2 key = rows key := by
  cases x with
  | error e => rfl
  | ok res =>
    obtain ⟨own, hown, hother⟩ := h res.1 res.2 rfl
    apply hother
    rintro rfl
    exact hkey hown

/-- An operation leaves the row of every key that is not its own. -/
theorem inMemory_of_ne (op : XrefOp) (rows : XrefRows) (now : ℤ)
    (hkey : dedupKey op.parts ≠ .ok key) :
    (op.inMemory rows now).2 key = rows key := by
  cases op with
  | claim input =>
    apply leave_of_ne _ hkey
    intro res rows' h
    obtain ⟨own, hown, ⟨_, _, _, rfl⟩ | ⟨_, _, rfl⟩⟩ := XrefRows.claim_eq_ok h
    · exact ⟨own, hown, fun _ _ => rfl⟩
    · exact ⟨own, hown, fun _ hne => XrefRows.put_of_ne hne ..⟩
  | recordSuccess parts targetId externalId =>
    apply leave_of_ne _ hkey
    intro row rows' h
    obtain ⟨own, _, hown, _, _, _, rfl⟩ := XrefRows.recordSuccess_eq_ok h
    exact ⟨own, hown, fun _ hne => XrefRows.put_of_ne hne ..⟩
  | recordFailure parts sourceHash =>
    apply leave_of_ne _ hkey
    intro row rows' h
    obtain ⟨own, _, hown, _, _, rfl⟩ := XrefRows.recordFailure_eq_ok h
    exact ⟨own, hown, fun _ hne => XrefRows.put_of_ne hne ..⟩
  | markIgnored parts =>
    apply leave_of_ne _ hkey
    intro row rows' h
    obtain ⟨own, hown, _, rfl⟩ := XrefRows.markIgnored_eq_ok h
    exact ⟨own, hown, fun _ hne => XrefRows.put_of_ne hne ..⟩
  | lookup parts => rfl
  | delete parts =>
    apply leave_of_ne _ hkey
    intro removed rows' h
    obtain ⟨own, hown, _, rfl⟩ := XrefRows.delete_eq_ok h
    exact ⟨own, hown, fun _ hne => XrefRows.drop_of_ne hne ..⟩

/-- What an operation answers, and the row that it leaves, depend on the row of its key only. -/
theorem inMemory_congr (op : XrefOp) (now : ℤ) (hkey : dedupKey op.parts = .ok key)
    (hrow : rows key = rows' key) :
    (op.inMemory rows now).1 = (op.inMemory rows' now).1 ∧
      (op.inMemory rows now).2 key = (op.inMemory rows' now).2 key := by
  cases op with
  | claim input =>
    have hwith : dedupKeyWith input.parts input.more = .ok key := dedupKeyWith_of_dedupKey hkey
    simp only [inMemory, XrefRows.claim, hwith, bind, Except.bind, hrow]
    cases hfound : rows' key <;> simp [pure, Except.pure, leave, hrow]
  | recordSuccess parts targetId externalId =>
    have hkey : dedupKey parts = .ok key := hkey
    simp only [inMemory, XrefRows.recordSuccess, hkey, bind, Except.bind, hrow]
    cases hfound : rows' key <;>
      simp [pure, Except.pure, leave, hrow, throw, throwThe, MonadExceptOf.throw]
  | recordFailure parts sourceHash =>
    have hkey : dedupKey parts = .ok key := hkey
    simp only [inMemory, XrefRows.recordFailure, hkey, bind, Except.bind, hrow]
    cases hfound : rows' key <;>
      simp [pure, Except.pure, leave, hrow, throw, throwThe, MonadExceptOf.throw]
  | markIgnored parts =>
    have hkey : dedupKey parts = .ok key := hkey
    simp only [inMemory, XrefRows.markIgnored, hkey, bind, Except.bind, hrow]
    cases hfound : rows' key <;> simp [pure, Except.pure, leave]
  | lookup parts =>
    have hkey : dedupKey parts = .ok key := hkey
    simp only [inMemory, XrefRows.lookup, hkey, bind, Except.bind, hrow]
    simp
  | delete parts =>
    have hkey : dedupKey parts = .ok key := hkey
    simp only [inMemory, XrefRows.delete, hkey, bind, Except.bind, hrow]
    simp [pure, Except.pure, leave]

end XrefOp

/-! ## Runs of the store -/

section Store

variable {rows rows' : XrefRows} {h : XrefHistory} {parts : DedupKeyParts} {arg : DedupKeyArg}
  {key : String}

/-- Operations on other tuples leave the row of a tuple. -/
theorem XrefRows.Passes.row_eq (hpasses : XrefRows.Passes rows h rows')
    (hkey : arg.dedupKey = .ok key) (hother : ∀ ev ∈ h, ev.1.parts.arg ≠ arg) :
    rows' key = rows key := by
  refine hpasses.frame (f := fun rows => rows key) fun ev hev before after hstep => ?_
  obtain ⟨now, hstep⟩ := hstep
  have hne : dedupKey ev.1.parts ≠ .ok key := by
    intro hparts
    rw [← DedupKeyParts.dedupKey_arg] at hparts
    exact hother ev hev (DedupKeyArg.dedupKey_inj hparts hkey)
  have hframe := XrefOp.inMemory_of_ne ev.1 before now hne
  rw [hstep] at hframe
  exact hframe

/-- The operations on one tuple answer, and leave its row, as if no others had run. -/
theorem XrefRows.Passes.filter (hpasses : XrefRows.Passes rows h rows')
    (hkey : dedupKey parts = .ok key) :
    ∃ alone, XrefRows.Passes rows (h.filter fun ev => ev.1.parts = parts) alone ∧
      rows' key = alone key := by
  refine Steps.filter (Q := fun rows alone => rows key = alone key) hpasses ?_ ?_ rfl
  · rintro ev before after alone hown ⟨now, hstep⟩ hrow
    have hparts : ev.1.parts = parts := of_decide_eq_true hown
    rw [← hparts] at hkey
    obtain ⟨hanswer, hleft⟩ := XrefOp.inMemory_congr ev.1 now hkey hrow
    rw [hstep] at hanswer hleft
    exact ⟨(ev.1.inMemory alone now).2, ⟨now, Prod.ext hanswer.symm rfl⟩, hleft⟩
  · rintro ev before after alone hother ⟨now, hstep⟩ hrow
    have hne : dedupKey ev.1.parts ≠ .ok key := by
      intro hparts
      exact hother (decide_eq_true (DpIntegrator.dedupKey_inj hparts hkey))
    have hframe := XrefOp.inMemory_of_ne ev.1 before now hne
    rw [hstep] at hframe
    exact hframe.trans hrow

/-- A tuple has a key exactly if each of its components is a text that is not empty and does not
contain the separator, and tuples with one key are one tuple. Whatever the operations of a store
that is keyed so, the row of a tuple stays where they are on other tuples, and operations on one
tuple answer and leave its row as if they were the only ones. -/
theorem dedup_keys_isolate :
    (∀ arg : DedupKeyArg, (∃ key, arg.dedupKey = .ok key) ↔ arg.Valid) ∧
    (∀ (arg arg' : DedupKeyArg) (key : String),
      arg.dedupKey = .ok key → arg'.dedupKey = .ok key → arg = arg') ∧
    ∀ (rows rows' : XrefRows) (h : XrefHistory), XrefRows.Passes rows h rows' →
      (∀ (arg : DedupKeyArg) (key : String), arg.dedupKey = .ok key →
        (∀ ev ∈ h, ev.1.parts.arg ≠ arg) → rows' key = rows key) ∧
      ∀ (parts : DedupKeyParts) (key : String), dedupKey parts = .ok key →
        ∃ alone, XrefRows.Passes rows (h.filter fun ev => ev.1.parts = parts) alone ∧
          rows' key = alone key :=
  ⟨fun _ => DedupKeyArg.exists_dedupKey_iff, fun _ _ _ => DedupKeyArg.dedupKey_inj,
    fun _ _ _ hpasses => ⟨fun _ _ hkey hother => hpasses.row_eq hkey hother,
      fun _ _ hkey => hpasses.filter hkey⟩⟩

/-- The same order in the sandbox. -/
def sandboxParts : DedupKeyParts := { orderClaim.parts with environment := .sandbox }

/-- A claim leaves the row of the same order in another environment. -/
theorem dedup_keys_isolate_sandbox :
    ∃ rows key, XrefRows.Passes (fun _ => none)
        [⟨.claim orderClaim, ((XrefOp.claim orderClaim).inMemory (fun _ => none) 0).1⟩] rows ∧
      sandboxParts.arg.dedupKey = .ok key ∧ rows key = none := by
  have hvalid : ∀ v ∈ sandboxParts.values, v ≠ "" ∧ Js.includes v "|" = false := by
    decide +kernel
  have hkey : sandboxParts.arg.dedupKey = .ok (String.intercalate "|" sandboxParts.values) :=
    sandboxParts.dedupKey_arg.trans (dedupKeyWith_eq_ok.mpr ⟨hvalid, rfl⟩)
  have hpasses : XrefRows.Passes (fun _ => none)
      [⟨.claim orderClaim, ((XrefOp.claim orderClaim).inMemory (fun _ => none) 0).1⟩] _ :=
    .cons ⟨0, rfl⟩ (.nil _)
  have hother : orderClaim.parts.arg ≠ sandboxParts.arg := by
    intro heq
    have htext := congrArg DedupKeyArg.environment heq
    exact absurd (Js.Value.str.inj htext) (by decide)
  exact ⟨_, _, hpasses, hkey,
    (dedup_keys_isolate.2.2 _ _ _ hpasses).1 _ _ hkey (List.forall_mem_singleton.mpr hother)⟩

end Store

end DpIntegrator
