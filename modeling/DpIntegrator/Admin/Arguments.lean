import DpIntegrator.Admin.ReplayEndpoint

/-!
# The arguments of the replay command

`dpi replay <gid|orderId> --connection <id> [--force] [--topic <t>]`. The order is the first
argument that is no flag, wherever it stands. So the options may follow it in any order, and
before it only options without a value may come: the value of one with a value is taken for the
order.
-/

namespace DpIntegrator

/-- `a.startsWith('--')`. -/
def isFlag (a : String) : Bool := "--".toList.isPrefixOf a.toList

def flagValue (argv : List String) (name : String) : Option String :=
  match argv.idxOf? name with
  | none => none
  | some idx => argv[idx + 1]?.filter fun v => !isFlag v

structure ParsedArgs where
  orderGid : String
  connectionId : String
  force : Bool
  topic : Option String
  deriving DecidableEq, Repr

/-- The arguments that are no flags. -/
def positional (argv : List String) : List String := argv.filter fun a => !isFlag a

def parseArgs (argv : List String) : Except Thrown ParsedArgs :=
  match (positional argv)[0]?.filter (· ≠ "") with
  | none =>
    .error (newError ("dpi replay: missing <gid|orderId>\n\nUsage: dpi replay <gid|orderId> " ++
      "--connection <id> [--force] [--topic <t>]"))
  | some orderArg =>
    match orderGid? orderArg with
    | none =>
      .error (newError ("dpi replay: invalid order id '" ++ orderArg ++
        "' (expected gid:// or numeric)"))
    | some orderGid =>
      match (flagValue argv "--connection").filter (· ≠ "") with
      | none =>
        .error (newError "dpi replay: missing --connection <id> (from `dpi parked` output)")
      | some connectionId =>
        .ok ⟨orderGid, connectionId, argv.contains "--force", flagValue argv "--topic"⟩

/-! ## Options -/

/-- An option with its value, if it takes one. -/
inductive CliOption
  | connection (id : String)
  | topic (t : String)
  | force
  /-- A flag that the command does not know, and ignores. -/
  | unknown (flag : String)
  deriving DecidableEq, Repr

namespace CliOption

/-- The option as it is written. -/
def words : CliOption → List String
  | connection id => ["--connection", id]
  | topic t => ["--topic", t]
  | force => ["--force"]
  | unknown flag => [flag]

/-- The value of an option. -/
def value : CliOption → Option String
  | connection v | topic v => some v
  | force | unknown _ => none

/-- The value of the option of a name. -/
def valueOf (name : String) : CliOption → Option String
  | connection id => if name = "--connection" then some id else none
  | topic t => if name = "--topic" then some t else none
  | force | unknown _ => none

/-- Values are no flags, and unknown flags are none of those that are known. -/
def Valid : CliOption → Prop
  | connection v | topic v => isFlag v = false
  | force => True
  | unknown flag =>
    isFlag flag = true ∧ flag ≠ "--connection" ∧ flag ≠ "--topic" ∧ flag ≠ "--force"

end CliOption

/-- The words of options. -/
def wordsOf (options : List CliOption) : List String := options.flatMap CliOption.words

section Reading

variable {a name : String} {rest argv : List String} {o : CliOption}
  {options front back : List CliOption}

theorem flagValue_nil : flagValue [] name = none := rfl

theorem flagValue_cons : flagValue (a :: rest) name =
    if a = name then rest[0]?.filter (fun v => !isFlag v) else flagValue rest name := by
  unfold flagValue
  rw [List.idxOf?_cons]
  by_cases h : a = name
  · simp [h]
  · rw [if_neg h, if_neg (by simpa using h)]
    cases rest.idxOf? name <;> rfl

theorem ne_of_isFlag (ha : isFlag a = false) (hname : isFlag name = true) : a ≠ name := by
  rintro rfl
  rw [ha] at hname
  cases hname

theorem flagValue_words (hvalid : o.Valid) (hname : name = "--connection" ∨ name = "--topic") :
    flagValue (o.words ++ argv) name = (o.valueOf name).or (flagValue argv name) := by
  have hflag : isFlag name = true := by
    obtain rfl | rfl := hname <;> decide
  have hvalue {first v : String} (hv : isFlag v = false) : flagValue ([first, v] ++ argv) name =
      if first = name then some v else flagValue argv name := by
    rw [List.cons_append, flagValue_cons]
    split
    · simp [hv]
    · rw [List.cons_append, flagValue_cons, if_neg (ne_of_isFlag hv hflag)]
      rfl
  cases o with
  | connection id =>
    rw [CliOption.words, hvalue hvalid, CliOption.valueOf]
    by_cases h : name = "--connection"
    · rw [if_pos h.symm, if_pos h]
      rfl
    · rw [if_neg (Ne.symm h), if_neg h]
      rfl
  | topic t =>
    rw [CliOption.words, hvalue hvalid, CliOption.valueOf]
    by_cases h : name = "--topic"
    · rw [if_pos h.symm, if_pos h]
      rfl
    · rw [if_neg (Ne.symm h), if_neg h]
      rfl
  | force =>
    have hne : "--force" ≠ name := by
      obtain rfl | rfl := hname <;> decide
    rw [CliOption.words, List.cons_append, flagValue_cons, if_neg hne]
    rfl
  | unknown flag =>
    have hne : flag ≠ name := by
      obtain rfl | rfl := hname
      · exact hvalid.2.1
      · exact hvalid.2.2.1
    rw [CliOption.words, List.cons_append, flagValue_cons, if_neg hne]
    rfl

/-- The first option of a name gives its value. Induction on the options. -/
theorem flagValue_wordsOf (hvalid : ∀ o ∈ options, o.Valid)
    (hname : name = "--connection" ∨ name = "--topic") : flagValue (wordsOf options ++ argv) name =
      (options.findSome? (CliOption.valueOf name)).or (flagValue argv name) := by
  induction options with
  | nil => rfl
  | cons o options ih =>
    obtain ⟨ho, hrest⟩ := List.forall_mem_cons.mp hvalid
    have hwords : wordsOf (o :: options) ++ argv = o.words ++ (wordsOf options ++ argv) := by
      simp [wordsOf]
    rw [hwords, flagValue_words ho hname, ih hrest, List.findSome?_cons]
    cases o.valueOf name <;> rfl

/-- The positional arguments of options are their values. -/
theorem positional_wordsOf (hvalid : ∀ o ∈ options, o.Valid) :
    positional (wordsOf options) = options.filterMap CliOption.value := by
  induction options with
  | nil => rfl
  | cons o options ih =>
    obtain ⟨ho, hrest⟩ := List.forall_mem_cons.mp hvalid
    have hwords : positional (wordsOf (o :: options)) =
        positional o.words ++ positional (wordsOf options) := by
      simp [wordsOf, positional]
    have hconnection : isFlag "--connection" = true := by decide
    have htopic : isFlag "--topic" = true := by decide
    have hforce : isFlag "--force" = true := by decide
    rw [hwords, ih hrest]
    cases o with
    | connection id =>
      have hid : isFlag id = false := ho
      simp [CliOption.words, positional, hconnection, hid, CliOption.value]
    | topic t =>
      have htext : isFlag t = false := ho
      simp [CliOption.words, positional, htopic, htext, CliOption.value]
    | force => simp [CliOption.words, positional, hforce, CliOption.value, List.filterMap_cons]
    | unknown flag => simp [CliOption.words, positional, ho.1, CliOption.value, List.filterMap_cons]

theorem force_mem_wordsOf (hvalid : ∀ o ∈ options, o.Valid) :
    "--force" ∈ wordsOf options ↔ CliOption.force ∈ options := by
  have hforce : isFlag "--force" = true := by decide
  constructor
  · intro hmem
    obtain ⟨o, ho, hword⟩ := List.mem_flatMap.mp hmem
    have hv := hvalid o ho
    cases o with
    | connection id =>
      obtain h | h : "--force" = "--connection" ∨ "--force" = id := by
        simpa [CliOption.words] using hword
      · exact absurd h (by decide)
      · exact absurd h.symm (ne_of_isFlag hv hforce)
    | topic t =>
      obtain h | h : "--force" = "--topic" ∨ "--force" = t := by
        simpa [CliOption.words] using hword
      · exact absurd h (by decide)
      · exact absurd h.symm (ne_of_isFlag hv hforce)
    | force => exact ho
    | unknown flag =>
      have heq : "--force" = flag := by simpa [CliOption.words] using hword
      exact absurd heq.symm hv.2.2.2
  · intro hmem
    exact List.mem_flatMap.mpr ⟨_, hmem, List.mem_singleton.mpr rfl⟩

end Reading

/-! ## Round trip -/

section RoundTrip

variable {orderArg gid id : String} {front back : List CliOption}

theorem orderGid?_ne_empty (h : orderGid? orderArg = some gid) : orderArg ≠ "" := by
  rintro rfl
  have hnone : orderGid? "" = none := by decide
  rw [hnone] at h
  cases h

/-- No order is named by a flag. -/
theorem isFlag_of_orderGid? (h : orderGid? orderArg = some gid) : isFlag orderArg = false := by
  obtain ⟨number, hdigits, rfl, rfl | rfl⟩ := orderGid?_eq_some.mp h
  · unfold isFlag
    rw [toList_orderGidOfNumber]
    rfl
  · unfold isFlag
    unfold isDigits at hdigits
    obtain ⟨_, hall⟩ := Bool.and_eq_true_iff.mp hdigits
    cases hchars : orderArg.toList with
    | nil => rfl
    | cons c cs =>
      rw [hchars, List.all_cons, Bool.and_eq_true] at hall
      have hne : ('-' == c) = false := by
        rw [beq_eq_false_iff_ne]
        rintro rfl
        exact absurd hall.1 (by decide)
      change ('-' == c && _) = false
      rw [hne, Bool.false_and]

theorem positional_options (hfront : ∀ o ∈ front, o.Valid) (hback : ∀ o ∈ back, o.Valid)
    (horder : isFlag orderArg = false) : positional (wordsOf front ++ orderArg :: wordsOf back) =
      front.filterMap CliOption.value ++ orderArg :: back.filterMap CliOption.value := by
  have hsplit : positional (wordsOf front ++ orderArg :: wordsOf back) =
      positional (wordsOf front) ++ orderArg :: positional (wordsOf back) := by
    simp [positional, horder]
  rw [hsplit, positional_wordsOf hfront, positional_wordsOf hback]

theorem flagValue_options {name : String} (hfront : ∀ o ∈ front, o.Valid)
    (hback : ∀ o ∈ back, o.Valid) (horder : isFlag orderArg = false)
    (hname : name = "--connection" ∨ name = "--topic") :
    flagValue (wordsOf front ++ orderArg :: wordsOf back) name =
      (front ++ back).findSome? (CliOption.valueOf name) := by
  have hflag : isFlag name = true := by
    obtain rfl | rfl := hname <;> decide
  have hlast := @flagValue_wordsOf name [] back hback hname
  rw [List.append_nil, flagValue_nil, Option.or_none] at hlast
  rw [flagValue_wordsOf hfront hname, flagValue_cons, if_neg (ne_of_isFlag horder hflag), hlast,
    List.findSome?_append]

theorem force_mem_options (hfront : ∀ o ∈ front, o.Valid) (hback : ∀ o ∈ back, o.Valid)
    (horder : isFlag orderArg = false) :
    (wordsOf front ++ orderArg :: wordsOf back).contains "--force" =
      (front ++ back).contains .force := by
  have hforce : isFlag "--force" = true := by decide
  have hne : "--force" ≠ orderArg := Ne.symm (ne_of_isFlag horder hforce)
  rw [Bool.eq_iff_iff, List.contains_iff_mem, List.contains_iff_mem, List.mem_append, List.mem_cons,
    force_mem_wordsOf hfront, force_mem_wordsOf hback, List.mem_append]
  simp [hne]

/-- With nothing but options without a value before the order, the options are read back in
whatever order they come, the first of a name first. If one with a value comes before it, that
value is taken for the order. -/
theorem replay_arguments (hvalid : ∀ o ∈ front ++ back, o.Valid)
    (horder : orderGid? orderArg = some gid) :
    ((∀ o ∈ front, o.value = none) →
      (front ++ back).findSome? (CliOption.valueOf "--connection") = some id → id ≠ "" →
      parseArgs (wordsOf front ++ orderArg :: wordsOf back) =
        .ok ⟨gid, id, (front ++ back).contains .force,
          (front ++ back).findSome? (CliOption.valueOf "--topic")⟩) ∧
    ∀ v args, front.findSome? CliOption.value = some v →
      parseArgs (wordsOf front ++ orderArg :: wordsOf back) = .ok args →
      orderGid? v = some args.orderGid := by
  have hfront : ∀ o ∈ front, o.Valid := fun o ho => hvalid o (List.mem_append_left _ ho)
  have hback : ∀ o ∈ back, o.Valid := fun o ho => hvalid o (List.mem_append_right _ ho)
  have hflag := isFlag_of_orderGid? horder
  have hpositional := positional_options hfront hback hflag
  constructor
  · intro hbare hid hne
    have hnil : front.filterMap CliOption.value = [] := List.filterMap_eq_nil_iff.mpr hbare
    rw [hnil, List.nil_append] at hpositional
    unfold parseArgs
    have hfirst : (orderArg :: back.filterMap CliOption.value)[0]?.filter (· ≠ "") =
        some orderArg := by simpa using orderGid?_ne_empty horder
    have hconnection : (some id).filter (· ≠ "") = some id := by simpa using hne
    rw [hpositional, hfirst]
    dsimp only
    rw [horder]
    dsimp only
    rw [flagValue_options hfront hback hflag (.inl rfl), hid, hconnection]
    dsimp only
    rw [flagValue_options hfront hback hflag (.inr rfl), force_mem_options hfront hback hflag]
  · intro v args hv hargs
    have hhead : (positional (wordsOf front ++ orderArg :: wordsOf back))[0]? = some v := by
      rw [hpositional, ← List.head?_eq_getElem?, List.head?_append, List.head?_filterMap, hv]
      rfl
    unfold parseArgs at hargs
    rw [hhead] at hargs
    split at hargs
    · cases hargs
    next orderArg' hfirst =>
      obtain ⟨heq, _⟩ := Option.filter_eq_some_iff.mp hfirst
      obtain rfl := Option.some.inj heq
      split at hargs
      · cases hargs
      next gid' hgid =>
        split at hargs
        · cases hargs
        · cases hargs
          exact hgid

/-- The order 123 is named between options; after a connection that is a number it is not. -/
theorem replay_arguments_forced :
    parseArgs ["--force", "123", "--topic", "orders/create", "--connection", "conn-a"] =
      .ok ⟨"gid://shopify/Order/123", "conn-a", true, some "orders/create"⟩ ∧
    ∀ args, parseArgs ["--connection", "17", "123"] = .ok args →
      orderGid? "17" = some args.orderGid := by
  have hfirst : ∀ o ∈ [CliOption.force] ++ [.topic "orders/create", .connection "conn-a"],
      o.Valid := by
    have htopic : isFlag "orders/create" = false := by decide
    have hid : isFlag "conn-a" = false := by decide
    simp [CliOption.Valid, htopic, hid]
  have hsecond : ∀ o ∈ [CliOption.connection "17"] ++ [], o.Valid := by
    have hid : isFlag "17" = false := by decide
    simp [CliOption.Valid, hid]
  have horder : orderGid? "123" = some "gid://shopify/Order/123" := by decide +kernel
  constructor
  · exact (@replay_arguments "123" _ "conn-a" _ _ hfirst horder).1 (by simp [CliOption.value])
      rfl (by simp)
  · exact fun args => (@replay_arguments "123" _ "" _ _ hsecond horder).2 "17" args rfl

end RoundTrip

end DpIntegrator
