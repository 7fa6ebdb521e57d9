import DpIntegrator.Delivery.Import

/-!
# Deliveries in another order, and again

What becomes of an order whose messages are delivered more than once, each time one at a
time: when an update overtakes the creation, and when a delivery fails and is retried.
-/

namespace DpIntegrator

open Effects

variable {A : Answers} {d : Delivery} {P : Preparations} {t tr : List Ev} {w w' : World}
  {key : String} {res : Except Thrown OrderHandlerOutcome} {message : Js.Value}

/-! ## Updates that overtake the creation -/

/-- A live webhook delivery about a created or updated order. -/
structure Delivery.Live (d : Delivery) : Prop where
  source : d.msg.source = none ∨ d.msg.source = some .webhook
  topic : d.msg.topic = "orders/create" ∨ d.msg.topic = "orders/updated"

/-- The gate stops exactly the live updates. -/
theorem Delivery.Live.isLiveUpdate_eq (h : d.Live) :
    d.isLiveUpdate = decide (d.msg.topic = "orders/updated") := by
  unfold Delivery.isLiveUpdate
  obtain hsource | hsource := h.source <;> simp [hsource]

theorem Delivery.Live.isLiveUpdate_of_create (h : d.Live) (hcreate : d.msg.topic = "orders/create") :
    d.isLiveUpdate = false := by
  rw [h.isLiveUpdate_eq, hcreate]
  rfl

theorem Delivery.Live.isLiveUpdate_of_ne (h : d.Live) (hne : d.msg.topic ≠ "orders/create") :
    d.isLiveUpdate = true := by
  rw [h.isLiveUpdate_eq, h.topic.resolve_left hne]
  rfl

/-- A live delivery of the order of `key`, which is eligible and mappable; all calls
succeeded. -/
structure LiveDelivery (A : Answers) (key : String) (w : World) (d : Delivery)
    (ev : Event Activity Activity.Record) : Prop where
  smooth : SmoothDelivery A key w d ev
  live : d.Live
  importable : Importable A d

/-- From an absent row, live deliveries import their order, with one upsert, if and only if
the first of them is the creation. -/
theorem imported_iff_create_first {first : Event Activity Activity.Record} {history : History}
    (hpasses : w.Passes (first :: history) w') (hfirst : LiveDelivery A key w d first)
    (hlater : ∀ ev ∈ history, ∃ d', LiveDelivery A key w d' ev) (habsent : w.xref key = none) :
    (w'.status key = some .synced ∧
        (orderUpserts (History.calls (first :: history))).length = 1) ↔
      d.msg.topic = "orders/create" := by
  obtain ⟨⟨hdelivers, hkey, hsmooth⟩, hlive, himp⟩ := hfirst
  obtain ⟨w₁, hperforms, hrest⟩ := steps_cons.mp hpasses
  have hconn : w₁.connections = w.connections := World.Steps.connections_eq hperforms.steps
  have hsmooths : ∀ ev ∈ history, ∃ d, SmoothDelivery A key w₁ d ev := by
    intro ev hev
    obtain ⟨d', hd'⟩ := hlater ev hev
    exact ⟨d', hd'.smooth.of_connections hconn⟩
  -- Whatever the first delivery leaves stays.
  have hstays {status : XrefStatus} (hstatus : w₁.status key = some status) :
      w'.status key = some status ∧ orderUpserts history.calls = [] := by
    obtain ⟨row, hrow, _⟩ := Option.map_eq_some_iff.mp hstatus
    obtain ⟨hforget, hnone⟩ := held_history hrest hsmooths hrow
    rw [← World.forget_status w', hforget]
    exact ⟨hstatus, hnone⟩
  by_cases hcreate : d.msg.topic = "orders/create"
  · obtain ⟨_, hsynced⟩ := hdelivers.imports hkey (hlive.isLiveUpdate_of_create hcreate) himp
      hsmooth habsent hperforms
    obtain ⟨hstatus, hnone⟩ := hstays hsynced.status_eq
    obtain ⟨_, _, _, _, _, _, honce⟩ := hsynced
    simp [hcreate, hstatus, honce, hnone]
  · obtain ⟨hignored, hnone⟩ := hdelivers.ignores hkey (hlive.isLiveUpdate_of_ne hcreate)
      hsmooth.stores habsent hperforms
    obtain ⟨hstatus, _⟩ := hstays hignored
    simp [hcreate, hstatus]

theorem Shop.liveDelivery {topic : String} (htopic : topic = "orders/create" ∨
      topic = "orders/updated") {w v : World} (hconn : w.connections = Shop.world.connections)
    (hok : ∀ ev ∈ (Shop.up.perform ((Shop.delivery (Shop.message none topic)).handling
      (Shop.message none topic).toJs) v).1.1, isFailedCall ev = false) :
    LiveDelivery Shop.admits Shop.key w (Shop.delivery (Shop.message none topic))
      ⟨(Shop.delivery (Shop.message none topic)).handling (Shop.message none topic).toJs,
        (Shop.up.perform ((Shop.delivery (Shop.message none topic)).handling
          (Shop.message none topic).toJs) v).1⟩ where
  smooth := by
    refine Shop.smoothDelivery ?_ hconn rfl hok
    obtain rfl | rfl := htopic <;> decide
  live := ⟨.inl rfl, htopic⟩
  importable := Shop.importable _

/-- The creation first, then an update: imported, with one upsert. -/
theorem imported_iff_create_first_shop :
    let m (topic : String) := Shop.message none topic
    let create := (Shop.delivery (m "orders/create")).handling (m "orders/create").toJs
    let update := (Shop.delivery (m "orders/updated")).handling (m "orders/updated").toJs
    let first := Shop.up.perform create Shop.world
    let second := Shop.up.perform update first.2
    (second.2.status Shop.key = some .synced ∧
      (orderUpserts (History.calls [⟨create, first.1⟩, ⟨update, second.1⟩])).length = 1) ↔
      "orders/create" = "orders/create" := by
  intro m create update first second
  have hpasses : Shop.world.Passes [⟨create, first.1⟩, ⟨update, second.1⟩] second.2 :=
    .cons (Shop.up.performs _ _) (.cons (Shop.up.performs _ _) (.nil _))
  refine imported_iff_create_first hpasses
    (Shop.liveDelivery (.inl rfl) rfl (by decide +kernel)) (fun ev hev => ?_) rfl
  obtain rfl := List.mem_singleton.mp hev
  exact ⟨_, Shop.liveDelivery (.inr rfl) rfl (by decide +kernel)⟩

/-- An update that overtakes the creation: the order of the shop stays ignored. -/
theorem update_before_create_loses_order :
    ¬∀ (A : Answers) (key : String) (w w' : World) (history : History), w.Passes history w' →
      (∀ ev ∈ history, ∃ d, LiveDelivery A key w d ev) →
      (∃ ev ∈ history, ∃ d, LiveDelivery A key w d ev ∧ d.msg.topic = "orders/create") →
      w.xref key = none →
      w'.status key = some .synced ∧ (orderUpserts history.calls).length = 1 := by
  intro h
  let m (topic : String) := Shop.message none topic
  let update := (Shop.delivery (m "orders/updated")).handling (m "orders/updated").toJs
  let create := (Shop.delivery (m "orders/create")).handling (m "orders/create").toJs
  let first := Shop.up.perform update Shop.world
  let second := Shop.up.perform create first.2
  have hpasses : Shop.world.Passes [⟨update, first.1⟩, ⟨create, second.1⟩] second.2 :=
    .cons (Shop.up.performs _ _) (.cons (Shop.up.performs _ _) (.nil _))
  have hupdate : LiveDelivery Shop.admits Shop.key Shop.world
      (Shop.delivery (m "orders/updated")) ⟨update, first.1⟩ :=
    Shop.liveDelivery (.inr rfl) rfl (by decide +kernel)
  have hcreate : LiveDelivery Shop.admits Shop.key Shop.world
      (Shop.delivery (m "orders/create")) ⟨create, second.1⟩ :=
    Shop.liveDelivery (.inl rfl) rfl (by decide +kernel)
  have hall : ∀ ev ∈ [⟨update, first.1⟩, ⟨create, second.1⟩],
      ∃ d, LiveDelivery Shop.admits Shop.key Shop.world d ev := by
    intro ev hev
    obtain rfl | hev := List.mem_cons.mp hev
    · exact ⟨_, hupdate⟩
    · obtain rfl := List.mem_singleton.mp hev
      exact ⟨_, hcreate⟩
  have hsynced := (h _ _ _ _ _ hpasses hall ⟨_, by simp, _, hcreate, rfl⟩ rfl).1
  have hignored : second.2.status Shop.key = some .ignored := by decide +kernel
  simp [hignored] at hsynced

/-! ## Deliveries that failed -/

/-- A call of the pipeline failed with `e`, which is to be retried. -/
def FailsRetryably (d : Delivery) (tr : List Ev) : Prop :=
  ∃ c e, PipelineCall d c ∧ answered c (.error e) ∈ tr ∧
    shouldRetry (classifyHandlerError d.deps.sdk e) = true

section Failures

/-- A write whose upsert or record failed ends there, and leaves the stores as they were. -/
theorem WriteExit.of_failed {customer : CustomerResolution} {payload : NsOrderPayload} {c : Call}
    {e : Thrown} (h : WriteExit d customer payload t res) (hc : PipelineCall d c)
    (hmem : answered c (.error e) ∈ t) : res = .error e ∧ ∀ w w', World.Steps w t w' → w' = w := by
  have hafter {u : UpsertResult} {row : XrefRow} {t' : List Ev} (hside : Only (SideCall d) t')
      (hmem : answered c (.error e) ∈ upserted d payload (.ok u) :: succeeded d u (.ok row) :: t') :
      False := by
    obtain heq | hmem := List.mem_cons.mp hmem
    · cases heq
    obtain heq | hmem := List.mem_cons.mp hmem
    · cases heq
    · exact hside.not_pipeline hc hmem
  cases h with
  | upsert e' =>
    cases List.mem_singleton.mp hmem
    refine ⟨rfl, fun w w' hsteps => ?_⟩
    obtain ⟨w₁, hstep, hrest⟩ := steps_cons.mp hsteps
    obtain rfl := steps_nil.mp hrest
    exact World.Step.eq_of_error hstep
  | recordSuccess u e' =>
    obtain heq | hmem := List.mem_cons.mp hmem
    · cases heq
    cases List.mem_singleton.mp hmem
    refine ⟨rfl, fun w w' hsteps => ?_⟩
    obtain ⟨w₁, hstep, hrest⟩ := steps_cons.mp hsteps
    obtain ⟨w₂, hsuccess, hnil⟩ := steps_cons.mp hrest
    obtain rfl := steps_nil.mp hnil
    exact (World.Step.eq_of_error hsuccess).trans (World.Step.eq_of_outside hstep rfl)
  | after h => exact (hafter h.side hmem).elim
  | imported h => exact (hafter h.side hmem).elim

/-- A body in which a call of the pipeline failed throws its error, and leaves the stores
as they were. -/
theorem ImportExit.of_failed {c : Call} {e : Thrown} (h : ImportExit d P t res)
    (hc : PipelineCall d c) (hmem : answered c (.error e) ∈ t) :
    res = .error e ∧ ∀ w w', World.Steps w t w' → w' = w := by
  have hfetched {o : ShopifyOrder} {t' : List Ev}
      (hmem : answered c (.error e) ∈ fetched d (.ok o) :: t') : answered c (.error e) ∈ t' := by
    obtain heq | hmem := List.mem_cons.mp hmem
    · cases heq
    · exact hmem
  cases h with
  | fetch e' =>
    cases List.mem_singleton.mp hmem
    refine ⟨rfl, fun w w' hsteps => ?_⟩
    obtain ⟨w₁, hstep, hrest⟩ := steps_cons.mp hsteps
    obtain rfl := steps_nil.mp hrest
    exact World.Step.eq_of_error hstep
  | ineligible _ hignore => exact (hignore.not_pipeline hc (hfetched hmem)).elim
  | call =>
    cases List.mem_singleton.mp (hfetched hmem)
    refine ⟨rfl, fun w w' hsteps => ?_⟩
    obtain ⟨w₁, hstep, hrest⟩ := steps_cons.mp hsteps
    obtain ⟨w₂, hcall, hnil⟩ := steps_cons.mp hrest
    obtain rfl := steps_nil.mp hnil
    exact (World.Step.eq_of_error hcall).trans (World.Step.eq_of_outside hstep rfl)
  | threw => cases hfetched hmem
  | parked _ _ hpark => exact (hpark.not_pipeline hc (hfetched hmem)).elim
  | written _ _ hwrite =>
    obtain ⟨hres, hframe⟩ := hwrite.of_failed hc (hfetched hmem)
    refine ⟨hres, fun w w' hsteps => ?_⟩
    obtain ⟨w₁, hstep, hrest⟩ := steps_cons.mp hsteps
    exact (hframe _ _ hrest).trans (World.Step.eq_of_outside hstep rfl)

/-- An error that is to be retried is thrown again, with side calls only. -/
theorem RouteExit.throws {err : Thrown} (h : RouteExit d err t res)
    (hclass : shouldRetry (classifyHandlerError d.deps.sdk err) = true) :
    (∃ e, res = .error e) ∧ Only (SideCall d) t := by
  cases h with
  | unreadable | transient => exact ⟨⟨_, rfl⟩, .nil⟩
  | authUnrecorded _ hrecord => exact ⟨⟨_, rfl⟩, hrecord.side⟩
  | auth _ hrecord => exact ⟨⟨_, rfl⟩, hrecord.side⟩
  | parked h => simp [hclass] at h

theorem ClaimedExit.throws (h : ClaimedExit d P t res) (hfails : FailsRetryably d t)
    (hsteps : w.Steps t w') : (∃ e, res = .error e) ∧ w'.xref = w.xref := by
  obtain ⟨c, e, hc, hmem, hclass⟩ := hfails
  cases h with
  | returned himport => cases (himport.of_failed hc hmem).1
  | thrown himport hroute =>
    obtain hmem | hmem := List.mem_append.mp hmem
    · obtain ⟨he, hframe⟩ := himport.of_failed hc hmem
      cases he
      obtain ⟨hthrows, hside⟩ := hroute.throws hclass
      obtain ⟨w₁, hbody, hcatch⟩ := steps_append.mp hsteps
      obtain rfl := hframe _ _ hbody
      exact ⟨hthrows, hside.xref_eq hcatch⟩
    · exact (hroute.not_pipeline hc hmem).elim

theorem ClaimExit.throws (h : ClaimExit d P t res) (hkey : dedupKey d.parts = .ok key)
    (hfails : FailsRetryably d t) (hsteps : w.Steps t w') :
    w.xref key = none ∧ (∃ e, res = .error e) ∧ w'.status key = some .pending := by
  obtain ⟨c, e, hc, hmem, hclass⟩ := hfails
  have hnot {r : Except Thrown ClaimResult} : answered c (.error e) ≠ claimedBy d r := by
    intro heq
    cases heq
    cases hc with
    | preparatory hprep => cases hprep
  cases h with
  | failed | held => exact (hnot (List.mem_singleton.mp hmem)).elim
  | claimed houtcome hclaimed =>
    obtain heq | hmem := List.mem_cons.mp hmem
    · exact (hnot heq).elim
    obtain ⟨w₁, hstep, hrest⟩ := steps_cons.mp hsteps
    obtain ⟨key', hkey', ⟨row, _, rfl, _⟩ | ⟨habsent, _, rfl⟩⟩ := World.Step.claim_ok hstep
    · exact absurd houtcome row.claimOutcome_ne_claimed
    · obtain rfl : key' = key := Except.ok.inj (hkey'.symm.trans hkey)
      obtain ⟨hthrows, hxref⟩ := hclaimed.throws ⟨c, e, hc, hmem, hclass⟩ hrest
      exact ⟨habsent, hthrows, by simp [World.status, hxref, ClaimInput.newRow]⟩

/-- A delivery in which a call of the pipeline failed, with an error to be retried, had
found no row; it throws, and leaves the row pending. -/
theorem DeliverExit.throws (h : DeliverExit d P t res) (hkey : dedupKey d.parts = .ok key)
    (hfails : FailsRetryably d t) (hsteps : w.Steps t w') :
    w.xref key = none ∧ (∃ e, res = .error e) ∧ w'.status key = some .pending := by
  obtain ⟨c, e, hc, hmem, hclass⟩ := hfails
  have hnot {r : Except Thrown (Option XrefRow)} : answered c (.error e) ≠ lookedUp d r := by
    intro heq
    cases heq
    cases hc with
    | preparatory hprep => cases hprep
  cases h with
  | direct _ hclaim => exact hclaim.throws hkey ⟨c, e, hc, hmem, hclass⟩ hsteps
  | lookup => exact (hnot (List.mem_singleton.mp hmem)).elim
  | unknown _ hignore =>
    obtain heq | hmem := List.mem_cons.mp hmem
    · exact (hnot heq).elim
    · exact (hignore.not_pipeline hc hmem).elim
  | known _ hclaim =>
    obtain heq | hmem := List.mem_cons.mp hmem
    · exact (hnot heq).elim
    obtain ⟨w₁, hstep, hrest⟩ := steps_cons.mp hsteps
    obtain ⟨_, _, _, rfl⟩ := World.Step.lookupXref_ok hstep
    exact hclaim.throws hkey ⟨c, e, hc, hmem, hclass⟩ hrest

end Failures

/-- The same message again, in another delivery. -/
def Delivery.again (d : Delivery) (attemptCtx : Option AttemptContext) : Delivery :=
  { d with attemptCtx }

/-- A delivery of the message in which a call of the pipeline failed. -/
inductive FailedDelivery (d : Delivery) (message : Js.Value) :
    Event Activity Activity.Record → Prop
  | intro {attemptCtx : Option AttemptContext} {tr : List Ev}
      {res : Except Thrown OrderHandlerOutcome} (h : FailsRetryably d tr) :
      FailedDelivery d message ⟨(d.again attemptCtx).handling message, (tr, res)⟩

section Again

variable {attemptCtx : Option AttemptContext}

theorem Delivery.Delivers.again (h : d.Delivers message w) (attemptCtx : Option AttemptContext) :
    (d.again attemptCtx).Delivers message w :=
  ⟨h.parsed, h.environment, h.found, h.enabled⟩

theorem Importable.again (h : Importable A d) (attemptCtx : Option AttemptContext) :
    Importable A (d.again attemptCtx) := ⟨h.eligible, h.mappable⟩

theorem PipelineCall.again {c : Call} (h : PipelineCall d c) :
    PipelineCall (d.again attemptCtx) c := by
  cases h with
  | fetch => exact .fetch
  | preparatory hprep => exact .preparatory hprep
  | upsert payload => exact .upsert payload
  | recordSuccess targetId => exact .recordSuccess targetId

/-- A failed delivery throws, so that the message is delivered again, and leaves the row
pending. -/
theorem Delivery.Delivers.fails (hd : d.Delivers message w) (hkey : dedupKey d.parts = .ok key)
    (hfails : FailsRetryably d tr)
    (h : ((d.again attemptCtx).handling message).Performs w (tr, res) w') :
    w.xref key = none ∧ (∃ e, res = .error e) ∧ w'.status key = some .pending := by
  obtain ⟨c, e, hc, hmem, hclass⟩ := hfails
  have hnot {r : Except Thrown (Option Connection)} :
      answered c (.error e) ≠ connectionFound d.deps d.msg.connectionId r := by
    intro heq
    cases heq
    cases hc with
    | preparatory hprep => cases hprep
  obtain ⟨e', rfl, _⟩ | ⟨t, rfl, hdeliver, hsteps⟩ := (hd.again attemptCtx).performs h
  · exact (hnot (List.mem_singleton.mp hmem)).elim
  · obtain heq | hmem := List.mem_cons.mp hmem
    · exact (hnot heq).elim
    have hmain : FailsRetryably (d.again attemptCtx) (main t) :=
      ⟨c, e, hc.again, mem_main_of_error hc.not_bestEffort hmem, hclass⟩
    have hthrows := (deliver_exit hdeliver).throws hkey hmain hsteps.main
    exact hthrows

/-- Failed deliveries of an order without a row throw, and if there was one the row is
pending. -/
theorem failures_throw {failures : History} (hpasses : w.Passes failures w')
    (hd : d.Delivers message w) (hkey : dedupKey d.parts = .ok key)
    (hfailures : ∀ ev ∈ failures, FailedDelivery d message ev) :
    (∀ ev ∈ failures, ∃ e, ev.2.2 = .error e) ∧
      (failures ≠ [] → w'.status key = some .pending) := by
  induction hpasses with
  | nil => simp
  | @cons a r w w₁ w' failures hperforms hrest ih =>
    have hconn : w₁.connections = w.connections := World.Steps.connections_eq hperforms.steps
    obtain ⟨hthrow, hpending⟩ := ih (hd.of_connections hconn) fun ev hev =>
      hfailures ev (List.mem_cons_of_mem _ hev)
    obtain ⟨hfails⟩ := hfailures _ (List.mem_cons_self ..)
    obtain ⟨_, hres, hstatus⟩ := hd.fails hkey hfails hperforms
    refine ⟨List.forall_mem_cons.mpr ⟨hres, hthrow⟩, fun _ => ?_⟩
    by_cases hnil : failures = []
    · subst hnil
      obtain rfl := steps_nil.mp hrest
      exact hstatus
    · exact hpending hnil

/-- An importable order is imported by a smooth delivery if and only if no delivery failed
before. Failed deliveries do throw, but after one of them the order is never imported:
every later delivery answers that it is already claimed. -/
theorem retry_imports_iff {failures : History} {w₁ w₂ : World} (hd : d.Delivers message w)
    (hkey : dedupKey d.parts = .ok key) (hlive : d.isLiveUpdate = false) (himp : Importable A d)
    (habsent : w.xref key = none) (hpasses : w.Passes failures w₁)
    (hfailures : ∀ ev ∈ failures, FailedDelivery d message ev)
    (hlast : ((d.again attemptCtx).handling message).Performs w₁ (tr, res) w₂)
    (hsmooth : Smooth A tr) :
    (∀ ev ∈ failures, ∃ e, ev.2.2 = .error e) ∧
      ((Imported d res ∧ w₂.status key = some .synced) ↔ failures = []) ∧
      (failures ≠ [] →
        res = .ok (.alreadyClaimed d.connection.connectionId d.msg.orderGid) ∧
          ∀ later w₃, w₂.Passes later w₃ → (∀ ev ∈ later, ∃ d', SmoothDelivery A key w₂ d' ev) →
            w₃.status key = some .pending ∧ orderUpserts (History.calls later) = []) := by
  obtain ⟨hthrow, hpending⟩ := failures_throw hpasses hd hkey hfailures
  have hd₁ := (hd.of_connections hpasses.connections_eq).again attemptCtx
  have hheld (hne : failures ≠ []) : w₂.forget = w₁.forget ∧
      res = .ok (.alreadyClaimed d.connection.connectionId d.msg.orderGid) := by
    obtain ⟨row, hrow, hstatus⟩ := Option.map_eq_some_iff.mp (hpending hne)
    obtain ⟨hforget, _, hres⟩ := hd₁.held hkey hsmooth.stores hrow hlast
    refine ⟨hforget, hres.trans ?_⟩
    simp [XrefRow.claimOutcome, hstatus, Delivery.held, Delivery.again]
  refine ⟨hthrow, ⟨fun himported => ?_, fun hnil => ?_⟩, fun hne => ⟨(hheld hne).2, ?_⟩⟩
  · by_contra hne
    obtain ⟨⟨_, _, _, hres⟩, _⟩ := himported
    rw [(hheld hne).2] at hres
    cases hres
  · subst hnil
    obtain rfl := steps_nil.mp hpasses
    obtain ⟨hres, hsynced⟩ :=
      hd₁.imports hkey hlive (himp.again attemptCtx) hsmooth habsent hlast
    exact ⟨hres, hsynced.status_eq⟩
  · intro later w₃ hlater hdeliveries
    obtain ⟨row, hrow, hstatus⟩ := Option.map_eq_some_iff.mp (hpending hne)
    have hrow₂ : w₂.xref key = some row := by
      rw [← World.forget_xref, (hheld hne).1]
      exact hrow
    obtain ⟨hforget, hnone⟩ := held_history hlater hdeliveries hrow₂
    refine ⟨?_, hnone⟩
    rw [← World.forget_status, hforget]
    simp [World.status, hrow₂, hstatus]

end Again

/-! ## The shop while NetSuite is unavailable -/

/-- A preparatory call failed, with an error to be retried. -/
def failsPreparation (d : Delivery) : Ev → Bool
  | ⟨.io c, .error e⟩ => c.isPreparatory && shouldRetry (classifyHandlerError d.deps.sdk e)
  | _ => false

theorem failsRetryably_of_any (h : tr.any (failsPreparation d) = true) : FailsRetryably d tr := by
  obtain ⟨ev, hev, hfails⟩ := List.any_eq_true.mp h
  obtain ⟨_ | _ | _, r⟩ := ev
  case io c =>
    cases r with
    | ok r => cases hfails
    | error e =>
      obtain ⟨hprep, hclass⟩ := Bool.and_eq_true_iff.mp hfails
      exact ⟨c, e, .preparatory hprep, hev, hclass⟩
  all_goals cases hfails

namespace Shop

/-- Services of which the item lookup of NetSuite is unavailable. -/
def withoutItems : Responder :=
  down (fun c => match c with
    | .resolveItemId .. => true
    | _ => false) (newError "GET item returned 503: unavailable")

/-- The creation of the order. -/
def created : Delivery := delivery (Shop.message none "orders/create")

/-- The handling of the creation. -/
def creation : Activity := created.handling (Shop.message none "orders/create").toJs

/-- The creation, delivered while items cannot be looked up. -/
def failed : creation.Record × World := withoutItems.perform creation world

/-- The creation, delivered again. -/
def retried : creation.Record × World := up.perform creation failed.2

theorem created_delivers : created.Delivers (Shop.message none "orders/create").toJs world :=
  delivers (message_wellFormed _ (by decide)) rfl rfl rfl

/-- The history up to the retry. -/
def failures : History := [⟨creation, failed.1⟩]

theorem failed_passes : world.Passes failures failed.2 :=
  .cons (withoutItems.performs _ _) (.nil _)

theorem retried_performs :
    ((created.again created.attemptCtx).handling (Shop.message none "orders/create").toJs).Performs
      failed.2 (retried.1.1, retried.1.2) retried.2 := up.performs _ _

theorem failed_fails : ∀ ev ∈ failures,
    FailedDelivery created (Shop.message none "orders/create").toJs ev := by
  intro ev hev
  obtain rfl := List.mem_singleton.mp hev
  exact .intro (failsRetryably_of_any (by decide +kernel))

theorem retried_smooth : Smooth admits retried.1.1 := smooth rfl (by decide +kernel)

end Shop

/-- The failed delivery throws, and its retry answers that the order is claimed. -/
theorem retry_imports_iff_shop :
    (∀ ev ∈ Shop.failures, ∃ e, ev.2.2 = .error e) ∧
      ((Imported Shop.created Shop.retried.1.2 ∧
        Shop.retried.2.status Shop.key = some .synced) ↔ Shop.failures = []) := by
  obtain ⟨hthrow, hiff, _⟩ := retry_imports_iff Shop.created_delivers (Shop.dedupKey_parts rfl)
    rfl (Shop.importable _) rfl Shop.failed_passes Shop.failed_fails Shop.retried_performs
    Shop.retried_smooth
  exact ⟨hthrow, hiff⟩

/-- A delivery that failed is not made up for: the order of the shop stays pending. -/
theorem failed_delivery_loses_order :
    ¬∀ (A : Answers) (d : Delivery) (message : Js.Value) (attemptCtx : Option AttemptContext)
      (key : String) (w w₁ w₂ : World) (failures : History) (tr : List Ev)
      (res : Except Thrown OrderHandlerOutcome), d.Delivers message w →
      dedupKey d.parts = .ok key → d.isLiveUpdate = false → Importable A d →
      w.xref key = none → w.Passes failures w₁ →
      (∀ ev ∈ failures, FailedDelivery d message ev) →
      ((d.again attemptCtx).handling message).Performs w₁ (tr, res) w₂ → Smooth A tr →
      (∀ ev ∈ failures, ∃ e, ev.2.2 = .error e) ∧ Imported d res ∧
        w₂.status key = some .synced := by
  intro h
  have hsynced := (h Shop.admits Shop.created _ Shop.created.attemptCtx Shop.key Shop.world
    Shop.failed.2 Shop.retried.2 _ _ _ Shop.created_delivers (Shop.dedupKey_parts rfl) rfl
    (Shop.importable _) rfl Shop.failed_passes Shop.failed_fails Shop.retried_performs
    Shop.retried_smooth).2.2
  have hpending : Shop.retried.2.status Shop.key = some .pending := by decide +kernel
  simp [hpending] at hsynced

end DpIntegrator
