import DpIntegrator.Delivery.ReportedOnce
import DpIntegrator.NetSuite.ItemCache
import DpIntegrator.NetSuite.Resolution

/-!
# Orders whose items are missing

An order parks at the item resolution when an item of it was looked up and not found. The item can
be created and the order replayed, but the process answers the lookup as it first did: the replay
finds the item only where no lookup under its cache key was answered before the item was there.
-/

namespace DpIntegrator

open Effects

variable {d : Delivery} {tr : List Ev} {order : ShopifyOrder} {payload : NsOrderPayload}

/-! ## Parks at the item resolution -/

/-- A resolver that parks has looked an item up and not found it. -/
theorem resolveItemReferences_missed {nsAccountId : String} {fallback : Option String}
    {reason : ParkReason}
    (h : Settles (resolveItemReferences payload nsAccountId fallback) tr (.ok (.parked reason))) :
    ∃ sku, lookedUpItem nsAccountId sku (.ok none) ∈ tr := by
  cases hlines : itemLines payload with
  | error e =>
    obtain ⟨lines, t₁, t₂, rfl, hread, _⟩ := settles_bind_ok.mp h
    obtain ⟨_, hread⟩ := settles_ofExcept.mp hread
    rw [hlines] at hread
    cases hread
  | ok lines =>
    obtain ⟨t₁, t₂, r, rfl, hitems, hend⟩ := resolveItemReferences_runs h hlines
    generalize hres : Except.ok (MappingResult.parked reason) = res at hend
    cases hend with
    | failed | unshipped | unreadable => cases hres
    | parked reason' =>
      obtain ⟨sku, _, _, hmiss⟩ := hitems.parked_on
      exact ⟨sku, List.mem_append_left _ hmiss⟩
    | @shipped lines shipping t r _ hship =>
      unfold withShipping at hres
      split at hres
      · cases hres
      · obtain ⟨sku, _, _, hmiss⟩ := hship.parked_on
        exact ⟨sku, List.mem_append_right _ hmiss⟩
      · cases hres

/-- Only the resolver parks an order at the item resolution. -/
theorem prepareOrder_missed {detail : String} {errorClass : ErrorClass}
    (h : Settles (prepareOrder d order) tr (.ok (.parked .itemResolution detail errorClass))) :
    ∃ sku, lookedUpItem d.connection.nsAccountId sku (.ok none) ∈ tr := by
  obtain ⟨customer, t₁, t₂, rfl, _, hmap⟩ := settles_bind_ok.mp h
  obtain ⟨built, t₃, t₄, rfl, _, hbuilt⟩ := settles_bind_ok.mp hmap
  cases built with
  | parked reason => cases (settles_pure.mp hbuilt).2
  | ok draft =>
    obtain ⟨balanced, t₅, t₆, rfl, _, hbalanced⟩ := settles_bind_ok.mp hbuilt
    cases balanced with
    | parked reason => cases (settles_pure.mp hbalanced).2
    | ok balanced =>
      obtain ⟨resolved, t₇, t₈, rfl, hresolve, hresolved⟩ := settles_bind_ok.mp hbalanced
      cases resolved with
      | ok payload => cases (settles_pure.mp hresolved).2
      | parked reason =>
        obtain ⟨sku, hmiss⟩ := resolveItemReferences_missed hresolve
        refine ⟨sku, ?_⟩
        simp only [List.mem_append]
        exact .inr (.inr (.inr (.inl hmiss)))

/-- A report that is made of an error is not at the item resolution. -/
theorem CatchRun.not_itemResolution {err : Thrown} {l : Locals} {connectionId orderGid detail : String}
    {errorClass : ErrorClass}
    (h : CatchRun d err l tr (.ok (.parked connectionId orderGid .itemResolution detail errorClass))) :
    False := by
  generalize hres : (Except.ok (OrderHandlerOutcome.parked connectionId orderGid .itemResolution
    detail errorClass) : Except Thrown OrderHandlerOutcome) = res at h
  cases h with
  | unreadable => cases hres
  | routed _ hroute =>
    cases hroute with
    | retried | authFailed | auth | parkFailed => cases hres
    | parked =>
      have hstage := (OrderHandlerOutcome.parked.inj (Except.ok.inj hres)).2.2.1
      unfold thrownPark at hstage
      dsimp only at hstage
      split at hstage <;> cases hstage

/-- A delivery that parks at the item resolution has looked an item up and not found it. -/
theorem handleOrderMessage_missed {deps : OrderHandlerDeps} {message : Js.Value}
    {attemptCtx : Option AttemptContext} {connectionId orderGid detail : String}
    {errorClass : ErrorClass}
    (h : Settles (handleOrderMessage deps message attemptCtx) tr
      (.ok (.parked connectionId orderGid .itemResolution detail errorClass))) :
    ∃ nsAccountId sku, lookedUpItem nsAccountId sku (.ok none) ∈ tr := by
  obtain hearly | ⟨d, opening, t, _, rfl, himport⟩ := handleOrderMessage_starts h
  · exact absurd rfl (hearly.notParked _ _ _ _ _)
  have hclaimed := claimedRun_of_settles himport
  generalize hres : (Except.ok (OrderHandlerOutcome.parked connectionId orderGid .itemResolution
    detail errorClass) : Except Thrown OrderHandlerOutcome) = res at hclaimed
  cases hclaimed with
  | done hrun => exact absurd hres.symm (pipeline_done_notParked hrun _ _ _ _ _)
  | failed _ _ hcatch | thrown _ hcatch =>
    subst hres
    exact hcatch.not_itemResolution.elim
  | parked hrun =>
    obtain rfl := (OrderHandlerOutcome.parked.inj (Except.ok.inj hres)).2.2.1
    obtain ⟨_, heq, _⟩ | ⟨order, stage, detail', errorClass', t', heq, hsub, hprepare⟩ :=
      pipeline_cases hrun
    · cases heq
    cases heq
    obtain ⟨sku, hmiss⟩ := prepareOrder_missed hprepare
    refine ⟨d.connection.nsAccountId, sku, ?_⟩
    simp only [List.mem_append]
    exact .inr (.inl (hsub hmiss))

/-! ## Replays after the item was created -/

variable {Account : Type} {items : NsItems} {steps : List (ItemStep Account)}

/-- The lookups of a delivery are lookups of the process, each for an item that exists then. -/
def LooksUpExisting (items : NsItems) (steps : List (ItemStep Account)) (tr : List Ev) : Prop :=
  ∀ nsAccountId sku r, lookedUpItem nsAccountId sku r ∈ tr → ∃ before gateway,
    ItemCall steps before gateway nsAccountId sku ∧
    r = (gateway.resolveItemId nsAccountId sku ((ItemState.start items).after before).cache).1 ∧
    (((ItemState.start items).after before).items nsAccountId sku).isSome = true

/-- Every lookup finds the item if it exists, and no delivery whose items exist when they are looked
up parks at the item resolution. -/
structure FindsItems (items : NsItems) (steps : List (ItemStep Account)) : Prop where
  finds : ∀ before gateway nsAccountId sku id, ItemCall steps before gateway nsAccountId sku →
    ((ItemState.start items).after before).items nsAccountId sku = some id →
    (gateway.resolveItemId nsAccountId sku ((ItemState.start items).after before).cache).1 =
      .ok (some id)
  replays : ∀ deps message attemptCtx tr res,
    Settles (handleOrderMessage deps message attemptCtx) tr res → LooksUpExisting items steps tr →
    ∀ connectionId orderGid detail errorClass,
      res ≠ .ok (.parked connectionId orderGid .itemResolution detail errorClass)

/-- What was found first for an item that exists is the item, or nothing was found yet and NetSuite
answers. -/
def FoundFirst (items : NsItems) (steps : List (ItemStep Account)) : Prop :=
  ∀ before gateway nsAccountId sku id, ItemCall steps before gateway nsAccountId sku →
    ((ItemState.start items).after before).items nsAccountId sku = some id →
    firstFound (SuiteQlGateway.itemCacheKey nsAccountId sku) before = some (some id) ∨
      firstFound (SuiteQlGateway.itemCacheKey nsAccountId sku) before = none ∧
        ∃ found, gateway.lookupItem nsAccountId sku = .ok found

/-- Items that exist are found if and only if no earlier lookup under their cache keys was answered
otherwise. -/
theorem findsItems_iff (hrun : ItemRun items steps) :
    FindsItems items steps ↔ FoundFirst items steps := by
  constructor
  · intro h before gateway nsAccountId sku id hcall hexists
    exact (hrun.resolveItemId_eq_iff hcall hexists).mp (h.finds _ _ _ _ _ hcall hexists)
  · intro h
    have hfinds : ∀ before gateway nsAccountId sku id,
        ItemCall steps before gateway nsAccountId sku →
        ((ItemState.start items).after before).items nsAccountId sku = some id →
        (gateway.resolveItemId nsAccountId sku ((ItemState.start items).after before).cache).1 =
          .ok (some id) := by
      intro before gateway nsAccountId sku id hcall hexists
      exact (hrun.resolveItemId_eq_iff hcall hexists).mpr (h _ _ _ _ _ hcall hexists)
    refine ⟨hfinds, ?_⟩
    rintro deps message attemptCtx tr res hsettles hlookups connectionId orderGid detail errorClass rfl
    obtain ⟨nsAccountId, sku, hmiss⟩ := handleOrderMessage_missed hsettles
    obtain ⟨before, gateway, hcall, hanswer, hexists⟩ := hlookups _ _ _ hmiss
    obtain ⟨id, hid⟩ := Option.isSome_iff_exists.mp hexists
    rw [hfinds _ _ _ _ _ hcall hid] at hanswer
    cases hanswer

namespace Catalogue

/-- A gateway whose every account answers from the items it has. -/
def gateway (items : NsItems) : SuiteQlGateway String where
  accounts nsAccountId := some nsAccountId
  suiteql nsAccountId := .ok
    { query := fun _ => .ok []
      queryOne := fun query =>
        .ok ((items nsAccountId query.whereEquals.2).map fun id => [("id", .str id)]) }

theorem lookupItem_gateway (items : NsItems) (nsAccountId sku : String) :
    (gateway items).lookupItem nsAccountId sku = .ok (items nsAccountId sku) := by
  cases hitem : items nsAccountId sku <;>
    simp [SuiteQlGateway.lookupItem, SuiteQlGateway.resolveAccount, gateway,
      SuiteQlGateway.itemQuery, SuiteQlGateway.itemId, SuiteQlGateway.column, hitem, bind,
      Except.bind, pure, Except.pure, Js.Fields.get?, Js.Value.isNullish, Js.Value.toText]

theorem gateway_tells (items : NsItems) : (gateway items).Tells items := by
  intro nsAccountId sku found hfound
  rw [lookupItem_gateway] at hfound
  exact (Except.ok.inj hfound).symm

/-- No items. -/
def none : NsItems := fun _ _ => Option.none

/-- The items after the missing one was created. -/
def fixed : NsItems :=
  Function.update none "TSTDRV1" (Function.update (none "TSTDRV1") "WIDGET-1" (some "17"))

/-- The item is created before it is looked up. -/
def createdFirst : List (ItemStep String) :=
  [.create "TSTDRV1" "WIDGET-1" "17", .resolve (gateway fixed) "TSTDRV1" "WIDGET-1"]

/-- The item is looked up, created, and looked up again. -/
def missedFirst : List (ItemStep String) :=
  [.resolve (gateway none) "TSTDRV1" "WIDGET-1", .create "TSTDRV1" "WIDGET-1" "17",
    .resolve (gateway fixed) "TSTDRV1" "WIDGET-1"]

theorem createdFirst_run : ItemRun none createdFirst :=
  ((itemRun_nil none).concat (.create rfl)).concat (.resolve (gateway_tells fixed))

theorem missedFirst_run : ItemRun none missedFirst :=
  (((itemRun_nil none).concat (.resolve (gateway_tells none))).concat (.create rfl)).concat
    (.resolve (gateway_tells fixed))

theorem findsItems_iff_createdFirst :
    FindsItems none createdFirst ↔ FoundFirst none createdFirst :=
  findsItems_iff createdFirst_run

/-- An item that was missed once is not found after it was created. -/
theorem missedFirst_not_findsItems : ¬∀ (items : NsItems) (steps : List (ItemStep String)),
    ItemRun items steps →
    (∀ before gateway nsAccountId sku, ItemCall steps before gateway nsAccountId sku →
      ∃ found, gateway.lookupItem nsAccountId sku = .ok found) →
    FindsItems items steps := by
  intro hall
  have hanswered : ∀ step ∈ missedFirst, ∀ gateway nsAccountId sku,
      step = .resolve gateway nsAccountId sku →
      ∃ found, gateway.lookupItem nsAccountId sku = .ok found := by
    intro step hstep g nsAccountId sku hresolve
    unfold missedFirst at hstep
    simp only [List.mem_cons, List.not_mem_nil, or_false] at hstep
    obtain rfl | rfl | rfl := hstep
    · cases hresolve
      exact ⟨_, lookupItem_gateway ..⟩
    · cases hresolve
    · cases hresolve
      exact ⟨_, lookupItem_gateway ..⟩
  have hfinds := (hall none missedFirst missedFirst_run fun before g nsAccountId sku hcall =>
    hanswered _ (hcall.subset (by simp)) _ _ _ rfl).finds
  have hfound := hfinds (missedFirst.take 2) (gateway fixed) "TSTDRV1" "WIDGET-1" "17"
    List.prefix_rfl rfl
  rw [resolveItemId_after_eq_ok] at hfound
  have hfirst : firstFound (SuiteQlGateway.itemCacheKey "TSTDRV1" "WIDGET-1")
      (missedFirst.take 2) = some Option.none := by
    simp [firstFound, missedFirst, ItemStep.question, lookupItem_gateway, Memo.firstAnswer,
      Except.toOption, none]
  rw [hfirst] at hfound
  obtain heq | ⟨heq, _⟩ := hfound
  · cases heq
  · cases heq

end Catalogue

end DpIntegrator
