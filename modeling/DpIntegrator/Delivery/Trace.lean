import DpIntegrator.Functions.OrderImport

/-!
# The main calls of a delivery

Of the calls of a delivery most only prepare the payload or leave evidence behind. The
main calls are the others, together with every preparatory call that failed. This file
shows which programs of the pipeline issue no main calls, and that the programs which
prepare an order stop at the first call that fails.
-/

namespace DpIntegrator

open Effects

/-- Calls whose failure is swallowed where they are made. -/
def Call.isBestEffort : Call → Bool
  | .putPayload .. | .recordAttempt .. => true
  | _ => false

/-- Calls that gather what the payload needs: the customer, lookups and item ids. -/
def Call.isPreparatory : Call → Bool
  | .resolveLookup .. | .findByExternalId .. | .getCustomerAddressbook ..
  | .resolveItemId .. => true
  | .upsertByExternalId args => !args.recordType.isOrder
  | _ => false

/-- Preparatory calls go outside. -/
theorem Call.isStore_of_isPreparatory {c : Call} (h : c.isPreparatory = true) :
    c.isStore = false := by
  cases c <;> first | rfl | cases h

/-- A result is an error. -/
def isError {α : Type} : Except Thrown α → Bool
  | .error _ => true
  | .ok _ => false

/-- An answered call that is neither best effort nor a preparatory call that succeeded. -/
def isMain : Ev → Bool
  | ⟨.io c, r⟩ => !c.isBestEffort && (!c.isPreparatory || isError r)
  | _ => false

/-- The main calls of a list, in order. -/
def main (tr : List Ev) : List Ev := tr.filter isMain

section Main

variable {tr tr' : List Ev} {c : Call}

@[simp] theorem main_nil : main [] = [] := rfl

@[simp] theorem main_append : main (tr ++ tr') = main tr ++ main tr' := List.filter_append ..

theorem main_cons_of_main {ev : Ev} (h : isMain ev = true) : main (ev :: tr) = ev :: main tr :=
  List.filter_cons_of_pos h

theorem main_cons_of_not {ev : Ev} (h : isMain ev = false) : main (ev :: tr) = main tr :=
  List.filter_cons_of_neg (by simp [h])

@[simp] theorem main_clock {t : ℤ} : main [⟨Op.clock, t⟩] = [] := rfl

/-- A call that is neither best effort nor preparatory is main, however it is answered. -/
theorem main_single {r : Except Thrown c.Ret} (hbest : c.isBestEffort = false)
    (hprep : c.isPreparatory = false) : main [answered c r] = [answered c r] := by
  simp [main, isMain, hbest, hprep]

theorem mem_of_mem_main {ev : Ev} (h : ev ∈ main tr) : ev ∈ tr := (List.mem_filter.mp h).1

/-- A failed call that is not best effort is main. -/
theorem mem_main_of_error {e : Thrown} (hbest : c.isBestEffort = false)
    (h : answered c (.error e) ∈ tr) : answered c (.error e) ∈ main tr :=
  List.mem_filter.mpr ⟨h, by simp [isMain, hbest, isError]⟩

/-- A call that is neither best effort nor preparatory is among the main calls. -/
theorem mem_main {r : Except Thrown c.Ret} (hbest : c.isBestEffort = false)
    (hprep : c.isPreparatory = false) (h : answered c r ∈ tr) : answered c r ∈ main tr :=
  List.mem_filter.mpr ⟨h, by simp [isMain, hbest, hprep]⟩

end Main

/-! ## Programs without main calls -/

section Quiet

variable {d : Delivery} {tr : List Ev}

theorem Delivery.track_settles {metric : Metric} {res : Except Thrown Unit}
    (h : Settles (d.track metric) tr res) : main tr = [] ∧ res = .ok () := by
  unfold Delivery.track at h
  split at h
  · obtain ⟨rfl, rfl⟩ := settles_track.mp h
    exact ⟨rfl, rfl⟩
  · obtain ⟨rfl, rfl⟩ := settles_pure.mp h
    exact ⟨rfl, rfl⟩

/-- The attempt row is best effort: it never changes how a delivery ends. -/
theorem Delivery.recordAttempt_settles {l : Locals} {res : Except Thrown Unit}
    (h : Settles (d.recordAttempt l) tr res) : main tr = [] ∧ res = .ok () := by
  unfold Delivery.recordAttempt at h
  split at h
  · obtain ⟨e, rfl, hnow⟩ | ⟨t, t₁, t₂, rfl, hnow, hrest⟩ := settles_bind.mp h
    · obtain ⟨_, _, he⟩ := settles_now.mp hnow
      cases he
    · obtain ⟨_, rfl, _⟩ := settles_now.mp hnow
      obtain ⟨e, rfl, hput⟩ | ⟨a, s₁, s₂, rfl, hput, hret⟩ := settles_bind.mp hrest
      · obtain ⟨_, _, he⟩ := settles_quietly.mp hput
        cases he
      · obtain ⟨_, rfl, _⟩ := settles_quietly.mp hput
        obtain ⟨rfl, rfl⟩ := settles_pure.mp hret
        exact ⟨rfl, rfl⟩
  · obtain ⟨rfl, rfl⟩ := settles_pure.mp h
    exact ⟨rfl, rfl⟩

/-- Archiving is best effort too. -/
theorem Delivery.archive_settles {payload : Js.Fields} {kind : PayloadKind}
    {nsAccountId nsRecordType : Option String} {set : Option String → Locals → Locals}
    {l l' : Locals} {res : Except Thrown Unit}
    (h : SettlesFrom (d.archive payload kind nsAccountId nsRecordType set) l tr res l') :
    main tr = [] ∧ res = .ok () := by
  unfold Delivery.archive at h
  split at h
  · obtain ⟨e, rfl, hput⟩ | ⟨a, l₁, t₁, t₂, rfl, hput, hset⟩ := settlesFrom_bind.mp h
    · obtain ⟨hput, _⟩ := settlesFrom_await.mp hput
      obtain ⟨_, _, he⟩ := settles_quietly.mp hput
      cases he
    · obtain ⟨hput, _⟩ := settlesFrom_await.mp hput
      obtain ⟨_, rfl, _⟩ := settles_quietly.mp hput
      obtain ⟨rfl, rfl, _⟩ := settlesFrom_modify.mp hset
      exact ⟨rfl, rfl⟩
  · obtain ⟨rfl, rfl, _⟩ := settlesFrom_pure.mp h
    exact ⟨rfl, rfl⟩

end Quiet

/-! ## Programs that prepare an order -/

/-- A preparatory call, however it was answered. -/
inductive PreparatoryCall : Ev → Prop
  | intro {c : Call} (h : c.isPreparatory = true) (r : Except Thrown c.Ret) :
      PreparatoryCall (answered c r)

/-- `x` issues preparatory calls only, and the first that fails ends it. -/
def Prepares {α : Type} (x : Async α) : Prop :=
  ∀ tr res, Settles x tr res → (∀ ev ∈ tr, PreparatoryCall ev) ∧
    (main tr = [] ∨
      ∃ c e, c.isPreparatory = true ∧ main tr = [answered c (.error e)] ∧ res = .error e)

namespace Prepares

variable {α β : Type}

theorem pure (a : α) : Prepares (pure a : Async α) := by
  intro tr res h
  obtain ⟨rfl, _⟩ := settles_pure.mp h
  exact ⟨by simp, .inl rfl⟩

theorem throw (e : Thrown) : Prepares (throw e : Async α) := by
  intro tr res h
  obtain ⟨rfl, _⟩ := settles_throw.mp h
  exact ⟨by simp, .inl rfl⟩

theorem ofExcept (x : Except Thrown α) : Prepares (Async.ofExcept x) := by
  intro tr res h
  obtain ⟨rfl, _⟩ := settles_ofExcept.mp h
  exact ⟨by simp, .inl rfl⟩

theorem io {c : Call} (hprep : c.isPreparatory = true) : Prepares (Async.io c) := by
  intro tr res h
  obtain rfl := settles_io.mp h
  have hbest : c.isBestEffort = false := by
    cases c <;> simp_all [Call.isPreparatory, Call.isBestEffort]
  constructor
  · intro ev hev
    obtain rfl := List.mem_singleton.mp hev
    exact .intro hprep res
  · cases res with
    | error e => exact .inr ⟨c, e, hprep, by simp [main, isMain, hbest, isError], rfl⟩
    | ok r => exact .inl (by simp [main, isMain, hprep, isError])

/-- What succeeds issued no main call. -/
theorem main_of_ok {x : Async α} (hx : Prepares x) {tr : List Ev} {a : α}
    (h : Settles x tr (.ok a)) : main tr = [] := by
  obtain ⟨_, hquiet | ⟨c, e, _, _, he⟩⟩ := hx _ _ h
  · exact hquiet
  · cases he

theorem bind {x : Async α} {f : α → Async β} (hx : Prepares x) (hf : ∀ a, Prepares (f a)) :
    Prepares (x >>= f) := by
  intro tr res h
  obtain ⟨e, rfl, h₁⟩ | ⟨a, t₁, t₂, rfl, h₁, h₂⟩ := settles_bind.mp h
  · obtain ⟨hcalls, hquiet | ⟨c, e', hprep, hmain, he⟩⟩ := hx _ _ h₁
    · exact ⟨hcalls, .inl hquiet⟩
    · cases he
      exact ⟨hcalls, .inr ⟨c, e, hprep, hmain, rfl⟩⟩
  · obtain ⟨hcalls, hends⟩ := hf a _ _ h₂
    constructor
    · intro ev hev
      obtain hev | hev := List.mem_append.mp hev
      · exact (hx _ _ h₁).1 ev hev
      · exact hcalls ev hev
    · rwa [main_append, hx.main_of_ok h₁, List.nil_append]

end Prepares

/-! ## What a program is built of -/

/-- `x` is built of results, throws and calls that are allowed. -/
inductive Built (allowed : Call → Prop) : {α : Type} → Async α → Prop
  | pure {α : Type} (a : α) : Built allowed (pure a : Async α)
  | throw {α : Type} (e : Thrown) : Built allowed (throw e : Async α)
  | ofExcept {α : Type} (x : Except Thrown α) : Built allowed (Async.ofExcept x)
  | io {c : Call} (h : allowed c) : Built allowed (Async.io c)
  | bind {α β : Type} {x : Async α} {f : α → Async β} (hx : Built allowed x)
      (hf : ∀ a, Built allowed (f a)) : Built allowed (x >>= f)

section Built

variable {α : Type} {allowed : Call → Prop} {x : Async α}

/-- What is built of calls of a kind issues no others. -/
theorem Built.issues (h : Built allowed x) {kind : Ev → Prop}
    (hkind : ∀ c r, allowed c → kind (answered c r)) : Issues kind x := by
  induction h with
  | pure => exact .pure _
  | throw => exact .throw _
  | ofExcept => exact issues_ofExcept _
  | io hc => exact issues_io fun r => hkind _ r hc
  | bind _ _ ih ih' => exact ih.bind ih'

/-- What is built of preparatory calls prepares. -/
theorem Built.prepares (h : Built allowed x) (hprep : ∀ c, allowed c → c.isPreparatory = true) :
    Prepares x := by
  induction h with
  | pure => exact .pure _
  | throw => exact .throw _
  | ofExcept => exact .ofExcept _
  | io hc => exact .io (hprep _ hc)
  | bind _ _ ih ih' => exact ih.bind ih'

end Built

section Preparation

variable {S : Type} [ToJs S] {ctx : EvaluatorContext S} {source : S} {allowed : Call → Prop}

theorem built_applyLookup {table fromKey target : String} {required : Bool} {out : Js.Fields}
    (hlookups : ∀ table key, Built allowed (ctx.lookups table key)) :
    Built allowed (applyLookup source table fromKey target required ctx out) := by
  unfold applyLookup
  dsimp only
  split
  · split
    · exact .pure _
    · exact (Built.ofExcept _).bind fun _ => .pure _
  · refine (hlookups _ _).bind fun found => ?_
    cases found with
    | none =>
      dsimp only
      split
      · exact .pure _
      · exact (Built.ofExcept _).bind fun _ => .pure _
    | some resolved => exact (Built.ofExcept _).bind fun _ => .pure _

/-- Induction on the mapping: a conditional applies one of its branches. -/
theorem built_applyMapping (hlookups : ∀ table key, Built allowed (ctx.lookups table key)) :
    ∀ (m : Mapping) (out : Js.Fields), Built allowed (applyMapping source ctx m out)
  | .direct .., _ => .ofExcept _
  | .constant .., _ => .ofExcept _
  | .lookup .., _ => built_applyLookup hlookups
  | .derive .., _ => .ofExcept _
  | .conditional _ _ then_ none, out => by
    rw [applyMapping]
    split
    · exact built_applyMapping hlookups then_ out
    · exact .pure _
  | .conditional _ _ then_ (some else_), out => by
    rw [applyMapping]
    split
    · exact built_applyMapping hlookups then_ out
    · exact built_applyMapping hlookups else_ out
  | .malformed _, _ => .throw _

theorem built_evaluateFrom (hlookups : ∀ table key, Built allowed (ctx.lookups table key))
    (mappings : List Mapping) (out : Js.Fields) :
    Built allowed (evaluateFrom source ctx mappings out) := by
  induction mappings generalizing out with
  | nil => exact .pure _
  | cons m rest ih =>
    refine (built_applyMapping hlookups m out).bind fun r => ?_
    cases r with
    | ok out => exact ih out
    | parked reason => exact .pure _

theorem built_buildOrderPayload {dates : Dates} {args : BuildOrderPayloadArgs}
    (hlookups : ∀ table key, Built allowed (args.lookups table key)) :
    Built allowed (buildOrderPayload dates args) := by
  have heval (mappings : List Mapping) :
      Built allowed (evaluate args.order mappings
        { lookups := args.lookups, derives := args.derives.getD (defaultDeriveRegistry dates) }) :=
    built_evaluateFrom hlookups mappings []
  refine (heval _).bind fun r => ?_
  cases r with
  | parked reason => exact .pure _
  | ok header =>
    refine (heval _).bind fun r => ?_
    cases r with
    | parked reason => exact .pure _
    | ok lines =>
      dsimp only
      split
      · exact .pure _
      · refine (heval _).bind fun r => ?_
        cases r with
        | parked reason => exact .pure _
        | ok shipping => exact .ofExcept _
      · exact .pure _

variable {nsAccountId : String} (hitem : ∀ sku, allowed (.resolveItemId nsAccountId sku))

include hitem in
theorem built_resolveLine (sublistName : String) (fallback : Option String) (idx : ℕ)
    (line : Js.Value) : Built allowed (resolveLine nsAccountId sublistName fallback idx line) := by
  unfold resolveLine
  split
  · exact .throw _
  · split
    · exact .pure _
    · exact .pure _
    · refine (Built.io (hitem _)).bind fun found => ?_
      cases found with
      | some internalId => exact .pure _
      | none => cases fallback <;> exact .pure _

include hitem in
/-- Induction on the lines, from any index. -/
theorem built_resolveLines (sublistName : String) (fallback : Option String) (idx : ℕ)
    (lines : List Js.Value) :
    Built allowed (resolveLines nsAccountId sublistName fallback idx lines) := by
  induction lines generalizing idx with
  | nil => exact .pure _
  | cons line rest ih =>
    refine (built_resolveLine hitem _ _ _ _).bind fun resolved => ?_
    cases resolved with
    | parked reason => exact .pure _
    | ok line =>
      refine (ih _).bind fun r => ?_
      cases r <;> exact .pure _

include hitem in
theorem built_resolveItemReferences (payload : NsOrderPayload) (fallback : Option String) :
    Built allowed (resolveItemReferences payload nsAccountId fallback) := by
  refine (Built.ofExcept _).bind fun lines => ?_
  refine (built_resolveLines hitem _ _ _ _).bind fun r => ?_
  cases r with
  | parked reason => exact .pure _
  | ok items =>
    dsimp only
    split
    · refine (Built.ofExcept _).bind fun lines => ?_
      refine (built_resolveLines hitem _ _ _ _).bind fun r => ?_
      cases r <;> exact .pure _
    · exact .pure _

/-- The calls that prepare an order of a connection: they look up its tables and ask its
account. -/
inductive PreparatoryFor (connection : Connection) : Call → Prop
  | lookup (table key : String) : PreparatoryFor connection (.resolveLookup connection table key)
  | find {args : FindArgs} (h : args.nsAccountId = connection.nsAccountId) :
      PreparatoryFor connection (.findByExternalId args)
  | addressbook {args : AddressbookArgs} (h : args.nsAccountId = connection.nsAccountId) :
      PreparatoryFor connection (.getCustomerAddressbook args)
  | customer {args : UpsertArgs} (h : args.nsAccountId = connection.nsAccountId)
      (hrecord : args.recordType = .customer) :
      PreparatoryFor connection (.upsertByExternalId args)
  | item (sku : String) : PreparatoryFor connection (.resolveItemId connection.nsAccountId sku)

theorem PreparatoryFor.isPreparatory {connection : Connection} {c : Call}
    (h : PreparatoryFor connection c) : c.isPreparatory = true := by
  cases h with
  | customer _ hrecord => simp [Call.isPreparatory, hrecord, RecordType.isOrder]
  | lookup | find | addressbook | item => rfl

theorem built_resolveCustomer (connection : Connection) (customer : Option ShopifyCustomer)
    (guest : String) (addresses : OrderAddressesForCustomer) :
    Built (PreparatoryFor connection) (resolveCustomer connection customer guest addresses) := by
  cases customer with
  | none => exact .pure _
  | some customer =>
    refine Built.bind ?_ fun existing => (Built.io (.customer rfl rfl)).bind fun result => .pure _
    unfold existingAddressbook
    split
    · exact .pure _
    · refine (Built.io (.find rfl)).bind fun existing => ?_
      dsimp only
      split
      · exact .pure _
      · exact .io (.addressbook rfl)

theorem built_mapOrder (d : Delivery) (order : ShopifyOrder) (customer : CustomerResolution) :
    Built (PreparatoryFor d.connection) (mapOrder d order customer) := by
  refine (built_buildOrderPayload fun table key => .io (.lookup table key)).bind fun r => ?_
  cases r with
  | parked reason => exact .pure _
  | ok draft =>
    refine (Built.ofExcept _).bind fun r => ?_
    cases r with
    | parked reason => exact .pure _
    | ok balanced =>
      refine (built_resolveItemReferences .item _ _).bind fun r => ?_
      cases r <;> exact .pure _

theorem built_prepareOrder (d : Delivery) (order : ShopifyOrder) :
    Built (PreparatoryFor d.connection) (prepareOrder d order) :=
  (built_resolveCustomer _ _ _ _).bind fun _ => built_mapOrder d order _

/-- Preparing an order issues preparatory calls only and stops at the first that fails. -/
theorem prepares_prepareOrder (d : Delivery) (order : ShopifyOrder) :
    Prepares (prepareOrder d order) :=
  (built_prepareOrder d order).prepares fun _ h => h.isPreparatory

end Preparation

end DpIntegrator
