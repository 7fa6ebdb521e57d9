import DpIntegrator.Effects.Memo
import DpIntegrator.NetSuite.SuiteQl

/-!
# The item cache

The gateway of a process looks items up through a cache that it never clears, while operators create
items in NetSuite. What a lookup returns is decided by the first lookup under its cache key that
NetSuite answered, and NetSuite answers it from the items of that time.
-/

namespace DpIntegrator

open Effects SuiteQlGateway

variable {Account : Type} {gateway : SuiteQlGateway Account} {nsAccountId sku : String}

/-- The items of NetSuite: the internal id of the item that an account has for a SKU. -/
abbrev NsItems := String → String → Option String

/-- An item is created in NetSuite, or the process looks one up. -/
inductive ItemStep (Account : Type)
  | create (nsAccountId sku id : String)
  | resolve (gateway : SuiteQlGateway Account) (nsAccountId sku : String)

/-- The items of NetSuite, and the cache of the process. -/
structure ItemState where
  items : NsItems
  cache : ItemCache

namespace ItemState

/-- A process starts with an empty cache. -/
def start (items : NsItems) : ItemState := ⟨items, fun _ => none⟩

def next (st : ItemState) : ItemStep Account → ItemState
  | .create nsAccountId sku id =>
    { st with
      items := Function.update st.items nsAccountId
        (Function.update (st.items nsAccountId) sku (some id)) }
  | .resolve gateway nsAccountId sku =>
    { st with cache := (gateway.resolveItemId nsAccountId sku st.cache).2 }

def after (st : ItemState) (steps : List (ItemStep Account)) : ItemState := steps.foldl next st

end ItemState

/-- The answers that NetSuite gives to lookups are the ids of its items. -/
def SuiteQlGateway.Tells (gateway : SuiteQlGateway Account) (items : NsItems) : Prop :=
  ∀ nsAccountId sku found, gateway.lookupItem nsAccountId sku = .ok found →
    found = items nsAccountId sku

/-- A created item is new, and NetSuite answers from the items it has. -/
inductive ItemStep.Allowed (st : ItemState) : ItemStep Account → Prop
  | create {nsAccountId sku id : String} (h : st.items nsAccountId sku = none) :
      Allowed st (.create nsAccountId sku id)
  | resolve {gateway : SuiteQlGateway Account} {nsAccountId sku : String}
      (h : gateway.Tells st.items) : Allowed st (.resolve gateway nsAccountId sku)

/-- Each step of a run is allowed after the steps before it. -/
def ItemRun (items : NsItems) (steps : List (ItemStep Account)) : Prop :=
  ∀ before step, before ++ [step] <+: steps → step.Allowed ((ItemState.start items).after before)

theorem itemRun_nil (items : NsItems) : ItemRun items ([] : List (ItemStep Account)) := by
  intro before step hfront
  cases List.append_ne_nil_of_right_ne_nil before (List.cons_ne_nil step [])
    (List.prefix_nil.mp hfront)

/-- A run goes on by any step that is allowed at its end. -/
theorem ItemRun.concat {items : NsItems} {steps : List (ItemStep Account)}
    {step : ItemStep Account} (h : ItemRun items steps)
    (hstep : step.Allowed ((ItemState.start items).after steps)) :
    ItemRun items (steps ++ [step]) := by
  intro before step' hfront
  obtain heq | hfront := List.prefix_concat_iff.mp hfront
  · obtain ⟨rfl, hlast⟩ := List.append_inj' heq rfl
    rwa [List.cons.inj hlast |>.1]
  · exact h before step' hfront

/-- A lookup of a run, after the steps `before`. -/
def ItemCall (steps before : List (ItemStep Account)) (gateway : SuiteQlGateway Account)
    (nsAccountId sku : String) : Prop :=
  before ++ [.resolve gateway nsAccountId sku] <+: steps

/-- The lookups of some steps, as questions to NetSuite under their cache keys. -/
def ItemStep.question : ItemStep Account → Option (String × Except Thrown (Option String))
  | .create .. => none
  | .resolve gateway nsAccountId sku =>
    some (itemCacheKey nsAccountId sku, gateway.lookupItem nsAccountId sku)

/-- What NetSuite answered first to the lookups under a cache key. -/
def firstFound (key : String) (steps : List (ItemStep Account)) : Option (Option String) :=
  Memo.firstAnswer key (steps.filterMap ItemStep.question)

/-- A lookup asks the cache, under its key. -/
theorem resolveItemId_eq_ask (gateway : SuiteQlGateway Account) (nsAccountId sku : String)
    (cache : ItemCache) : gateway.resolveItemId nsAccountId sku cache =
      Memo.ask cache (itemCacheKey nsAccountId sku) (gateway.lookupItem nsAccountId sku) := by
  unfold resolveItemId Memo.ask
  cases cache (itemCacheKey nsAccountId sku) with
  | some id => rfl
  | none => cases gateway.lookupItem nsAccountId sku <;> rfl

/-- A step changes the cache by its question. -/
theorem ItemState.next_cache (st : ItemState) (step : ItemStep Account) :
    (st.next step).cache = Memo.after st.cache step.question.toList := by
  cases step with
  | create => rfl
  | resolve gateway nsAccountId sku =>
    exact congrArg Prod.snd (resolveItemId_eq_ask gateway nsAccountId sku st.cache)

/-- The cache holds the answers to the questions of the run. Induction on the steps. -/
theorem ItemState.after_cache (st : ItemState) (steps : List (ItemStep Account)) :
    (st.after steps).cache = Memo.after st.cache (steps.filterMap ItemStep.question) := by
  induction steps generalizing st with
  | nil => rfl
  | cons step steps ih =>
    have hcons : st.after (step :: steps) = (st.next step).after steps := rfl
    have hquestions : (step :: steps).filterMap ItemStep.question =
        step.question.toList ++ steps.filterMap ItemStep.question := by
      cases hstep : step.question <;> simp [hstep]
    rw [hcons, ih, next_cache, hquestions, Memo.after_append]

section Calls

variable {items : NsItems} {steps before : List (ItemStep Account)} {id : String}

/-- The answer of a lookup is the first one under its key, and its own if there is none. -/
theorem resolveItemId_after_eq_ok {found : Option String} :
    (gateway.resolveItemId nsAccountId sku ((ItemState.start items).after before).cache).1 =
        .ok found ↔
      firstFound (itemCacheKey nsAccountId sku) before = some found ∨
        firstFound (itemCacheKey nsAccountId sku) before = none ∧
          gateway.lookupItem nsAccountId sku = .ok found := by
  rw [resolveItemId_eq_ask, ItemState.after_cache]
  exact Memo.ask_after_eq_ok

theorem ItemRun.tells (hrun : ItemRun items steps)
    (hcall : ItemCall steps before gateway nsAccountId sku) :
    gateway.Tells ((ItemState.start items).after before).items := by
  cases hrun before _ hcall with
  | resolve h => exact h

/-- A lookup finds an item that exists if and only if the first answer under its key was that item,
or there was none and NetSuite answers now. -/
theorem ItemRun.resolveItemId_eq_iff (hrun : ItemRun items steps)
    (hcall : ItemCall steps before gateway nsAccountId sku)
    (hexists : ((ItemState.start items).after before).items nsAccountId sku = some id) :
    (gateway.resolveItemId nsAccountId sku ((ItemState.start items).after before).cache).1 =
        .ok (some id) ↔
      firstFound (itemCacheKey nsAccountId sku) before = some (some id) ∨
        firstFound (itemCacheKey nsAccountId sku) before = none ∧
          ∃ found, gateway.lookupItem nsAccountId sku = .ok found := by
  rw [resolveItemId_after_eq_ok]
  have htells := hrun.tells hcall
  constructor
  · rintro (hfirst | ⟨hnone, hfound⟩)
    · exact .inl hfirst
    · exact .inr ⟨hnone, _, hfound⟩
  · rintro (hfirst | ⟨hnone, found, hfound⟩)
    · exact .inl hfirst
    · have hitem := htells _ _ _ hfound
      rw [hexists] at hitem
      exact .inr ⟨hnone, hitem ▸ hfound⟩

end Calls

end DpIntegrator
