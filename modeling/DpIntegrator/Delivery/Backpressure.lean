import DpIntegrator.Delivery.MainCalls
import DpIntegrator.Functions.GovernorTimeout
import DpIntegrator.Governor.Ceiling
import DpIntegrator.NetSuite.SuiteQl

/-!
# Backpressure

A request that waits too long for a slot of its account is rejected, and the gateway passes the
rejection on. The handler tells it by its text, which it does not know: an order that waited out
the governor is parked, unless the id of the account reads like a failure that is retried.
-/

namespace DpIntegrator

open Effects

variable {d : Delivery} {P : Preparations} {tr t : List Ev} {c : Call} {err e : Thrown}
  {res : Except Thrown OrderHandlerOutcome}

/-! ## Requests that time out -/

section Timeouts

variable {ρ ι : Type} [DecidableEq ι] {ceiling : ℕ} {store : SharedInMemoryGovernorStore ceiling}
  {args : ι → GovernorArgs} {turns : List (ι × Turn ρ)} {p : Process ι ρ ceiling} {i : ι}
  {locals : Acquire} {message : String}

/-- A request that has timed out has the message of its locals. -/
def Request.TellsTimeout (request : Request ρ) : Prop :=
  ∀ locals message, request = .timedOut locals message → message = locals.timeoutMessage

theorem Request.TellsTimeout.turn {turn : Turn ρ} {request request' : Request ρ}
    {shared shared' : Shared ceiling} {args : GovernorArgs}
    (hturn : governorMiddleware args turn request shared = some (request', shared')) :
    request'.TellsTimeout := by
  rintro locals message rfl
  unfold governorMiddleware at hturn
  split at hturn
  · obtain ⟨⟨got, hacquiring⟩, _⟩ := attempt_spec _ _ (Option.some.inj hturn)
    cases hacquiring
  · next now locals' got =>
    obtain ⟨hresume, _⟩ := Prod.mk.inj (Option.some.inj hturn)
    unfold Acquire.resume at hresume
    split at hresume
    · cases hresume
    · split at hresume
      · cases hresume
        rfl
      · cases hresume
  · obtain ⟨⟨got, hacquiring⟩, _⟩ := attempt_spec _ _ (Option.some.inj hturn)
    cases hacquiring
  all_goals cases hturn

/-- A request that has timed out was rejected with the message about its account. -/
theorem timedOut_message {holderSeq : ℕ}
    (hnew : SharedInMemoryGovernorStore.new ceiling = .ok store)
    (hrun : (Process.start store holderSeq).run args turns = some p)
    (htimedOut : p.requests i = .timedOut locals message) :
    message = locals.timeoutMessage ∧ locals.nsAccountId = (args i).nsAccountId := by
  have hshaped := ((Process.consistent_start hnew holderSeq).run hrun).shaped i
  have htells : (p.requests i).TellsTimeout :=
    Process.run_preserves (fun _ _ _ _ _ _ hturn => Request.TellsTimeout.turn hturn) hrun
      fun locals message h => by cases h
  obtain ⟨haccount, _⟩ := hshaped (locals.holder false) (by rw [htimedOut]; rfl)
  exact ⟨htells _ _ htimedOut, haccount⟩

end Timeouts

/-! ## Calls of the gateway -/

/-- The calls of the handler to NetSuite. -/
def Call.isNetSuite : Call → Bool
  | .upsertByExternalId .. | .findByExternalId .. | .getCustomerAddressbook .. | .resolveItemId .. =>
    true
  | _ => false

/-- A call of the gateway fails with `e` when the SDK rejects its request with `err`. -/
inductive Raises (err : Thrown) : Call → Thrown → Prop
  | upsert {Account : Type} {gateway : SdkNetSuiteGateway Account} {account : Account}
      {request : SdkTransport} {args : UpsertArgs} {e : Thrown}
      (haccount : gateway.accounts args.nsAccountId = some account)
      (hclient : gateway.client account = .ok (some request))
      (hreject : ∀ url body, request url body = .error err)
      (h : gateway.upsertByExternalId args = .error e) : Raises err (.upsertByExternalId args) e
  | find {Account : Type} {gateway : SuiteQlGateway Account} {account : Account} {client : SuiteQl}
      {args : FindArgs} {e : Thrown} (haccount : gateway.accounts args.nsAccountId = some account)
      (hclient : gateway.suiteql account = .ok client)
      (hreject : ∀ query, client.queryOne query = .error err)
      (h : gateway.findByExternalId args = .error e) : Raises err (.findByExternalId args) e
  | addressbook {Account : Type} {gateway : SuiteQlGateway Account} {account : Account}
      {client : SuiteQl} {args : AddressbookArgs} {e : Thrown}
      (hfield : SuiteQlGateway.isFieldId args.shopifyIdField = true)
      (haccount : gateway.accounts args.nsAccountId = some account)
      (hclient : gateway.suiteql account = .ok client)
      (hreject : ∀ query, client.query query = .error err)
      (h : gateway.getCustomerAddressbook args = .error e) :
      Raises err (.getCustomerAddressbook args) e
  | item {Account : Type} {gateway : SuiteQlGateway Account} {account : Account} {client : SuiteQl}
      {nsAccountId sku : String} {cache cache' : SuiteQlGateway.ItemCache} {e : Thrown}
      (haccount : gateway.accounts nsAccountId = some account)
      (hclient : gateway.suiteql account = .ok client)
      (hreject : ∀ query, client.queryOne query = .error err)
      (h : gateway.resolveItemId nsAccountId sku cache = (.error e, cache')) :
      Raises err (.resolveItemId nsAccountId sku) e

theorem Raises.isNetSuite (h : Raises err c e) : c.isNetSuite = true := by
  cases h <;> rfl

theorem decorateNsError_of_plain {message context : String} {body : Js.Fields} :
    decorateNsError (newError message) context body = newError message := rfl

section Rejected

variable {Account : Type} {account : Account} {client : SuiteQl} {message : String}

/-- An upsert does not decorate a plain error. -/
theorem upsertByExternalId_rejected {gateway : SdkNetSuiteGateway Account} {request : SdkTransport}
    {args : UpsertArgs} (haccount : gateway.accounts args.nsAccountId = some account)
    (hclient : gateway.client account = .ok (some request))
    (hreject : ∀ url body, request url body = .error (newError message)) :
    gateway.upsertByExternalId args = .error (newError message) := by
  unfold SdkNetSuiteGateway.upsertByExternalId
  simp only [haccount, hclient, hreject, pure, Except.pure, bind, Except.bind,
    decorateNsError_of_plain]
  rfl

variable {gateway : SuiteQlGateway Account} {nsAccountId : String}
  (haccount : gateway.accounts nsAccountId = some account)

include haccount

theorem resolveAccount_eq : gateway.resolveAccount nsAccountId = .ok account := by
  unfold SuiteQlGateway.resolveAccount
  rw [haccount]

variable (hclient : gateway.suiteql account = .ok client)

include hclient

theorem findByExternalId_rejected {args : FindArgs} (hargs : args.nsAccountId = nsAccountId)
    (hreject : ∀ query, client.queryOne query = .error err) :
    gateway.findByExternalId args = .error err := by
  unfold SuiteQlGateway.findByExternalId
  rw [hargs, resolveAccount_eq haccount]
  simp only [hclient, hreject, bind, Except.bind]

theorem getCustomerAddressbook_rejected {args : AddressbookArgs}
    (hargs : args.nsAccountId = nsAccountId)
    (hfield : SuiteQlGateway.isFieldId args.shopifyIdField = true)
    (hreject : ∀ query, client.query query = .error err) :
    gateway.getCustomerAddressbook args = .error err := by
  unfold SuiteQlGateway.getCustomerAddressbook
  rw [hargs, resolveAccount_eq haccount]
  simp [hfield, hclient, hreject, bind, Except.bind]

theorem resolveItemId_rejected {sku : String} {cache : SuiteQlGateway.ItemCache}
    (hmiss : cache (SuiteQlGateway.itemCacheKey nsAccountId sku) = none)
    (hreject : ∀ query, client.queryOne query = .error err) :
    gateway.resolveItemId nsAccountId sku cache = (.error err, cache) := by
  unfold SuiteQlGateway.resolveItemId SuiteQlGateway.lookupItem
  rw [hmiss, resolveAccount_eq haccount]
  simp only [hclient, hreject, bind, Except.bind]

end Rejected

/-- The gateway passes a plain error on. -/
theorem Raises.eq {message : String} (h : Raises (newError message) c e) : e = newError message := by
  cases h with
  | upsert haccount hclient hreject h =>
    exact Except.error.inj (h.symm.trans (upsertByExternalId_rejected haccount hclient hreject))
  | find haccount hclient hreject h =>
    exact Except.error.inj (h.symm.trans (findByExternalId_rejected haccount hclient rfl hreject))
  | addressbook hfield haccount hclient hreject h =>
    exact Except.error.inj
      (h.symm.trans (getCustomerAddressbook_rejected haccount hclient rfl hfield hreject))
  | @item _ _ _ _ nsAccountId sku cache cache' _ haccount hclient hreject h =>
    cases hcached : cache (SuiteQlGateway.itemCacheKey nsAccountId sku) with
    | none =>
      have hrejected := resolveItemId_rejected haccount hclient hcached hreject
      exact Except.error.inj (Prod.mk.inj (h.symm.trans hrejected)).1
    | some id =>
      unfold SuiteQlGateway.resolveItemId at h
      rw [hcached] at h
      cases h

/-- A gateway all of whose queries are rejected. -/
def rejecting (err : Thrown) : SuiteQlGateway Unit where
  accounts _ := some ()
  suiteql _ := .ok ⟨fun _ => .error err, fun _ => .error err⟩

theorem raises_rejecting (err : Thrown) :
    Raises err (.findByExternalId ⟨"", .customer, "", []⟩) err := by
  have hrejected : (rejecting err).findByExternalId ⟨"", .customer, "", []⟩ = .error err :=
    findByExternalId_rejected rfl rfl rfl fun _ => rfl
  exact .find rfl rfl (fun _ => rfl) hrejected

/-! ## Deliveries -/

/-- The message was given back to the queue, and its order was not parked. -/
structure Redelivered (tr : List Ev) (res : Except Thrown OrderHandlerOutcome) : Prop where
  throws : ∃ e, res = .error e
  unparked : ∀ parts r, answered (.recordFailure parts) r ∉ tr

theorem MainCall.pipeline {r : Except Thrown c.Ret} (h : MainCall d (answered c r))
    (hc : c.isNetSuite = true) : PipelineCall d c := by
  cases h with
  | side h => cases h <;> cases hc
  | preparatory hprep => exact .preparatory hprep
  | upsert payload => exact .upsert payload
  | _ => cases hc

/-- An import in which a NetSuite call fails ends with that failure, unparked. -/
theorem ImportExit.fails (h : ImportExit d P t res) (hc : c.isNetSuite = true)
    (hmem : answered c (.error e) ∈ t) :
    res = .error e ∧ ∀ parts r, answered (.recordFailure parts) r ∉ t := by
  have hpipeline := (h.main_calls _ hmem).pipeline hc
  have hfetch {r : Except Thrown ShopifyOrder} : answered c (.error e) ≠ fetched d r := by
    intro heq
    cases heq
    cases hc
  cases h with
  | fetch => exact absurd (List.mem_singleton.mp hmem) hfetch
  | ineligible _ hignore =>
    exact absurd ((List.mem_cons.mp hmem).resolve_left hfetch) (hignore.not_pipeline hpipeline)
  | call _ hprep =>
    have hlast := (List.mem_cons.mp hmem).resolve_left hfetch
    cases List.mem_singleton.mp hlast
    refine ⟨rfl, fun parts r hfailure => ?_⟩
    obtain heq | heq := List.mem_cons.mp hfailure
    · cases heq
    · cases List.mem_singleton.mp heq
      cases hprep
  | threw => exact absurd (List.mem_singleton.mp hmem) hfetch
  | parked _ _ hpark =>
    exact absurd ((List.mem_cons.mp hmem).resolve_left hfetch) (hpark.not_pipeline hpipeline)
  | written _ _ hwrite =>
    have hwritten := (List.mem_cons.mp hmem).resolve_left hfetch
    obtain ⟨r, t', rfl, ht'⟩ := hwrite.calls
    obtain hupsert | hlater := List.mem_cons.mp hwritten
    · cases hupsert
      cases hwrite with
      | upsert =>
        refine ⟨rfl, fun parts r hfailure => ?_⟩
        simp only [List.mem_cons, List.not_mem_nil, or_false] at hfailure
        obtain heq | heq := hfailure <;> cases heq
    · obtain rfl | ⟨u, r', t'', rfl, hside⟩ := ht'
      · cases hlater
      · obtain heq | hlater := List.mem_cons.mp hlater
        · cases heq
          cases hc
        · exact absurd hlater (hside.not_pipeline hpipeline)

/-- A failure that is retried gives the message back. -/
theorem RouteExit.redelivers (h : RouteExit d e t res)
    (hretry : shouldRetry (classifyHandlerError d.deps.sdk e) = true) : Redelivered t res := by
  cases h with
  | unreadable | transient => exact ⟨⟨_, rfl⟩, by simp⟩
  | authUnrecorded _ hrecord | auth _ hrecord =>
    refine ⟨⟨_, rfl⟩, fun parts r hfailure => ?_⟩
    cases hrecord.side _ hfailure
  | parked hnot =>
    rw [hretry] at hnot
    cases hnot

theorem ClaimedExit.redelivers (h : ClaimedExit d P t res) (hc : c.isNetSuite = true)
    (hmem : answered c (.error e) ∈ t)
    (hretry : shouldRetry (classifyHandlerError d.deps.sdk e) = true) : Redelivered t res := by
  have hpipeline := (h.main_calls _ hmem).pipeline hc
  cases h with
  | returned himport => cases (himport.fails hc hmem).1
  | thrown himport hroute =>
    have hleft := (List.mem_append.mp hmem).resolve_right (hroute.not_pipeline hpipeline)
    obtain ⟨heq, hunparked⟩ := himport.fails hc hleft
    cases heq
    obtain ⟨hthrows, hrouted⟩ := hroute.redelivers hretry
    refine ⟨hthrows, fun parts r hfailure => ?_⟩
    obtain hfailure | hfailure := List.mem_append.mp hfailure
    · exact hunparked parts r hfailure
    · exact hrouted parts r hfailure

theorem DeliverExit.redelivers (h : DeliverExit d P t res) (hc : c.isNetSuite = true)
    (hmem : answered c (.error e) ∈ t)
    (hretry : shouldRetry (classifyHandlerError d.deps.sdk e) = true) : Redelivered t res := by
  have hpipeline := (h.main_calls _ hmem).pipeline hc
  have hcons {ev : Ev} {t : List Ev} (h : Redelivered t res)
      (hev : ∀ parts r, answered (.recordFailure parts) r ≠ ev) : Redelivered (ev :: t) res :=
    ⟨h.throws, fun parts r hfailure =>
      h.unparked parts r ((List.mem_cons.mp hfailure).resolve_left (hev parts r))⟩
  have hother {c' : Call} {r : Except Thrown c'.Ret} (hc' : c'.isNetSuite = false) :
      answered c (.error e) ≠ answered c' r := by
    intro heq
    cases heq
    rw [hc] at hc'
    cases hc'
  have hclaim {t : List Ev} (h : ClaimExit d P t res) (hmem : answered c (.error e) ∈ t) :
      Redelivered t res := by
    cases h with
    | failed | held => exact absurd (List.mem_singleton.mp hmem) (hother rfl)
    | claimed _ hclaimed =>
      have hrest := (List.mem_cons.mp hmem).resolve_left (hother rfl)
      refine hcons (hclaimed.redelivers hc hrest hretry) fun parts r heq => ?_
      cases heq
  cases h with
  | direct _ h => exact hclaim h hmem
  | lookup => exact absurd (List.mem_singleton.mp hmem) (hother rfl)
  | unknown _ hignore =>
    exact absurd ((List.mem_cons.mp hmem).resolve_left (hother rfl)) (hignore.not_pipeline hpipeline)
  | known _ h =>
    have hrest := (List.mem_cons.mp hmem).resolve_left (hother rfl)
    refine hcons (hclaim h hrest) fun parts r heq => ?_
    cases heq

/-- A message of which a NetSuite call fails with an error that is retried is given back. -/
theorem handleOrderMessage_redelivers {deps : OrderHandlerDeps} {message : Js.Value}
    {attemptCtx : Option AttemptContext}
    (h : Settles (handleOrderMessage deps message attemptCtx) tr res) (hc : c.isNetSuite = true)
    (hmem : answered c (.error e) ∈ tr)
    (hretry : shouldRetry (classifyHandlerError deps.sdk e) = true) : Redelivered tr res := by
  have hother {id : String} {r : Except Thrown (Option Connection)} :
      answered c (.error e) ≠ connectionFound deps id r := by
    intro heq
    cases heq
    cases hc
  cases handlerRun_of_settles h with
  | rejected ht =>
    obtain rfl | ⟨id, r, rfl, _⟩ := ht
    · cases hmem
    · exact absurd (List.mem_singleton.mp hmem) hother
  | failed => exact absurd (List.mem_singleton.mp hmem) hother
  | delivered _ _ _ hdeliver =>
    have hrest := (List.mem_cons.mp hmem).resolve_left hother
    have hbest : c.isBestEffort = false := by
      cases c <;> first | rfl | cases hc
    obtain ⟨hthrows, hunparked⟩ :=
      (deliver_exit hdeliver).redelivers hc (mem_main_of_error hbest hrest) hretry
    refine ⟨hthrows, fun parts r hfailure => ?_⟩
    obtain heq | hfailure := List.mem_cons.mp hfailure
    · cases heq
    · exact hunparked parts r (mem_main rfl rfl hfailure)

/-! ## Backpressure -/

/-- An error that a request was rejected with is retried from whichever call of the gateway it
comes, and no message that meets it parks its order. -/
structure NeverParks (sdk : NetSuiteSdk) (err : Thrown) : Prop where
  retried : ∀ c e, Raises err c e → shouldRetry (classifyHandlerError sdk e) = true
  redelivered : ∀ deps message attemptCtx tr res c e, deps.sdk = sdk →
    Settles (handleOrderMessage deps message attemptCtx) tr res → Raises err c e →
    answered c (.error e) ∈ tr → Redelivered tr res

/-- The rejection of a request that waited too long never parks an order if and only if the id of
its account reads like a failure that is retried. -/
theorem timeout_neverParks_iff {ρ ι : Type} [DecidableEq ι] {ceiling holderSeq : ℕ}
    {store : SharedInMemoryGovernorStore ceiling} {args : ι → GovernorArgs}
    {turns : List (ι × Turn ρ)} {p : Process ι ρ ceiling} {i : ι} {locals : Acquire}
    {message : String} (hnew : SharedInMemoryGovernorStore.new ceiling = .ok store)
    (hrun : (Process.start store holderSeq).run args turns = some p)
    (htimedOut : p.requests i = .timedOut locals message) (sdk : NetSuiteSdk) :
    NeverParks sdk (newError message) ↔ readsAsRetryable (args i).nsAccountId = true := by
  obtain ⟨hmessage, haccount⟩ := timedOut_message hnew hrun htimedOut
  have hclass : shouldRetry (classifyHandlerError sdk (newError message)) =
      readsAsRetryable (args i).nsAccountId := by
    rw [← haccount, ← shouldRetry_timeout, ← hmessage]
    rfl
  rw [← hclass]
  constructor
  · intro hnever
    exact hnever.retried _ _ (raises_rejecting _)
  · intro hretry
    constructor
    · intro c e hraises
      rw [hraises.eq]
      exact hretry
    · rintro deps m attemptCtx tr res c e rfl hsettles hraises hmem
      refine handleOrderMessage_redelivers hsettles hraises.isNetSuite hmem ?_
      rw [hraises.eq]
      exact hretry

namespace Burst

theorem exists_timedOut : ∃ store p locals message,
    SharedInMemoryGovernorStore.new 1 = .ok store ∧
    (Process.start store 0).run args turns = some p ∧
    p.requests false = .timedOut locals message := by
  obtain ⟨store, hnew⟩ : ∃ store, SharedInMemoryGovernorStore.new 1 = .ok store := ⟨_, rfl⟩
  have hany : ((Process.start store 0).run args turns).any (fun p =>
      decide (p.requests false).IsTimedOut) = true := by
    cases hnew
    decide +kernel
  obtain ⟨p, hrun, hgaveUp⟩ := (Option.any_eq_true ..).mp hany
  have hgaveUp := of_decide_eq_true hgaveUp
  cases hrequest : p.requests false with
  | timedOut locals message => exact ⟨store, p, locals, message, hnew, hrun, hrequest⟩
  | _ =>
    rw [hrequest] at hgaveUp
    cases hgaveUp

/-- The id of the account does not read like a failure that is retried. -/
theorem not_readsAsRetryable : readsAsRetryable (args false).nsAccountId = false := by
  decide +kernel

/-- The request that gave up parks the orders of its account. -/
theorem timeout_neverParks_iff_burst : ∃ store p locals message,
    SharedInMemoryGovernorStore.new 1 = .ok store ∧
    (Process.start store 0).run args turns = some p ∧
    p.requests false = .timedOut locals message ∧
    ∀ sdk, NeverParks sdk (newError message) ↔ readsAsRetryable "1234567" = true := by
  obtain ⟨store, p, locals, message, hnew, hrun, htimedOut⟩ := exists_timedOut
  exact ⟨store, p, locals, message, hnew, hrun, htimedOut,
    fun sdk => timeout_neverParks_iff hnew hrun htimedOut sdk⟩

theorem timeout_parks : ¬∀ (ceiling holderSeq : ℕ) (store : SharedInMemoryGovernorStore ceiling)
    (args : Bool → GovernorArgs) (turns : List (Bool × Turn Unit)) (p : Process Bool Unit ceiling)
    (i : Bool) (locals : Acquire) (message : String) (sdk : NetSuiteSdk),
    SharedInMemoryGovernorStore.new ceiling = .ok store →
    (Process.start store holderSeq).run args turns = some p →
    p.requests i = .timedOut locals message → NeverParks sdk (newError message) := by
  intro hall
  obtain ⟨store, p, locals, message, hnew, hrun, htimedOut⟩ := exists_timedOut
  have hnever := hall 1 0 store args turns p false locals message ⟨fun _ => false, fun _ => false⟩
    hnew hrun htimedOut
  have hretry := hnever.retried _ _ (raises_rejecting _)
  obtain ⟨hmessage, haccount⟩ := timedOut_message hnew hrun htimedOut
  have hclass := shouldRetry_timeout locals
  rw [haccount, not_readsAsRetryable, ← hmessage] at hclass
  exact absurd (hclass.symm.trans hretry) (by decide)

end Burst

end DpIntegrator
