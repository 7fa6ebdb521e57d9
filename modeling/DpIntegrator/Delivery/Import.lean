import DpIntegrator.Delivery.StateMachine

/-!
# Deliveries whose calls all succeed

An order that is eligible and mappable is imported by a delivery whose calls all
succeed, provided that it has no row and the message is no live update. In the other
cases the delivery ignores the order, or only answers about the row.
-/

namespace DpIntegrator

open Effects

/-- What the calls outside may return when they succeed. -/
abbrev Answers := (c : Call) → c.Ret → Prop

variable {A : Answers} {d : Delivery} {P : Preparations} {t t' tr T : List Ev} {w w' : World}
  {key : String} {res : Except Thrown OrderHandlerOutcome} {message : Js.Value}

/-- No call failed, and the services outside answered as they may. -/
structure Smooth (A : Answers) (tr : List Ev) : Prop where
  succeed : ∀ (c : Call) (e : Thrown), answered c (.error e) ∉ tr
  admitted : ∀ (c : Call) (r : c.Ret), c.isStore = false → answered c (.ok r) ∈ tr → A c r

namespace Smooth

theorem of_subset (h : Smooth A t) (hsub : t' ⊆ t) : Smooth A t' :=
  ⟨fun c e hmem => h.succeed c e (hsub hmem), fun c r hout hmem => h.admitted c r hout (hsub hmem)⟩

/-- Calls that were answered in a further way. -/
theorem also {B : Answers} (h : Smooth A tr) (hB : ∀ c r, answered c (.ok r) ∈ tr → B c r) :
    Smooth (fun c r => A c r ∧ B c r) tr :=
  ⟨h.succeed, fun c r hout hmem => ⟨h.admitted c r hout hmem, hB c r hmem⟩⟩

theorem mono {B : Answers} (h : Smooth A tr) (hAB : ∀ c r, A c r → B c r) : Smooth B tr :=
  ⟨h.succeed, fun c r hout hmem => hAB c r (h.admitted c r hout hmem)⟩

theorem main_calls (h : Smooth A tr) : Smooth A (main tr) :=
  h.of_subset fun _ hev => mem_of_mem_main hev

theorem tail {ev : Ev} (h : Smooth A (ev :: t)) : Smooth A t :=
  h.of_subset (List.subset_cons_self ..)

theorem left (h : Smooth A (t ++ t')) : Smooth A t := h.of_subset (List.subset_append_left ..)

theorem right (h : Smooth A (t ++ t')) : Smooth A t' := h.of_subset (List.subset_append_right ..)

theorem stores (h : Smooth A tr) : StoresSucceed tr := fun c e _ => h.succeed c e

theorem head_ne_error {c : Call} {e : Thrown} (h : Smooth A (answered c (.error e) :: t)) :
    False := h.succeed c e (List.mem_cons_self ..)

end Smooth

/-- Preparing the order, with calls that all succeed, yields a payload. -/
def Mappable (A : Answers) (d : Delivery) (order : ShopifyOrder) : Prop :=
  ∀ t r, Settles (prepareOrder d order) t r → Smooth A t →
    ∃ customer payload, r = .ok (.ready customer payload)

/-- Every order that the fetch may return is eligible and mappable. -/
structure Importable (A : Answers) (d : Delivery) : Prop where
  eligible : ∀ order, A (.getOrder d.connection d.msg.orderGid) order →
    checkEligibility order d.msg.topic {} = .eligible
  mappable : ∀ order, A (.getOrder d.connection d.msg.orderGid) order → Mappable A d order

theorem Importable.mono {B : Answers} (h : Importable B d) (hAB : ∀ c r, A c r → B c r) :
    Importable A d where
  eligible order ho := h.eligible order (hAB _ _ ho)
  mappable order ho t r hsettles hsmooth :=
    h.mappable order (hAB _ _ ho) t r hsettles (hsmooth.mono hAB)

/-- The delivery returned `imported`. -/
def Imported (d : Delivery) (res : Except Thrown OrderHandlerOutcome) : Prop :=
  ∃ targetId created customer,
    res = .ok (.imported d.connection.connectionId d.msg.orderGid targetId created customer)

section Smooth

theorem WriteExit.ok_of_smooth {customer : CustomerResolution} {payload : NsOrderPayload}
    (h : WriteExit d customer payload t res) (hkey : dedupKey d.parts = .ok key)
    (hsmooth : Smooth A t) : ∃ o, res = .ok o := by
  cases h with
  | upsert => exact hsmooth.head_ne_error.elim
  | recordSuccess => exact hsmooth.tail.head_ne_error.elim
  | after hafter => cases hafter.eq_ok hkey hsmooth.tail.tail.stores
  | imported => exact ⟨_, rfl⟩

/-- With calls that all succeed, an importable order that was claimed is fetched and written:
no other exit is left. -/
theorem ImportExit.written_of_smooth (h : ImportExit d (PreparedIn d T) t res)
    (himp : Importable A d) (hT : Smooth A T) (hsmooth : Smooth A t) :
    ∃ order customer payload t', t = fetched d (.ok order) :: t' ∧
      WriteExit d customer payload t' res := by
  have hadmitted {order t'} (ht : t = fetched d (.ok order) :: t') :
      A (.getOrder d.connection d.msg.orderGid) order :=
    hsmooth.admitted _ order rfl (by rw [ht]; exact List.mem_cons_self ..)
  have hready {order r} (hA : A (.getOrder d.connection d.msg.orderGid) order)
      (hP : PreparedIn d T order r) : ∃ customer payload, r = .ok (.ready customer payload) := by
    obtain ⟨t', ht', hprep⟩ := hP
    exact himp.mappable order hA t' r hprep (hT.of_subset ht')
  cases h with
  | fetch => exact hsmooth.head_ne_error.elim
  | ineligible helig _ =>
    rw [himp.eligible _ (hadmitted rfl)] at helig
    cases helig
  | call => exact hsmooth.tail.head_ne_error.elim
  | threw _ hP =>
    obtain ⟨_, _, hr⟩ := hready (hadmitted rfl) hP
    cases hr
  | parked _ hP _ =>
    obtain ⟨_, _, hr⟩ := hready (hadmitted rfl) hP
    cases hr
  | written _ _ hwrite => exact ⟨_, _, _, _, rfl, hwrite⟩

/-- After a new claim, an importable order is imported. -/
theorem ClaimedExit.imports (h : ClaimedExit d (PreparedIn d T) t res)
    (himp : Importable A d) (hkey : dedupKey d.parts = .ok key) (hT : Smooth A T)
    (hsub : t ⊆ T) (hsteps : w.Steps t w') : Imported d res ∧ SyncedByUpsert d key t w' := by
  have hsmooth : Smooth A t := hT.of_subset hsub
  cases h with
  | returned himport =>
    obtain ⟨order, customer, payload, t', rfl, hw⟩ := himport.written_of_smooth himp hT hsmooth
    obtain ⟨w₁, hstep, hrest⟩ := steps_cons.mp hsteps
    obtain ⟨_, e, he⟩ | ⟨u, row, hres, hrow, hstatus, htarget, honce⟩ :=
      hw.ending hkey hsmooth.tail.stores hrest
    · cases he
    · refine ⟨⟨_, _, _, hres⟩, row, payload, u, hrow, hstatus, htarget, ?_⟩
      rw [orderUpserts_cons_of_not rfl, honce]
  | thrown himport _ =>
    obtain ⟨order, customer, payload, t', rfl, hw⟩ :=
      himport.written_of_smooth himp hT hsmooth.left
    obtain ⟨o, ho⟩ := hw.ok_of_smooth hkey hsmooth.left.tail
    cases ho

/-- Without a row, a delivery that is no live update claims the row, and what follows
the claim is left. -/
theorem DeliverExit.claimed_of_absent (h : DeliverExit d P t res)
    (hlive : d.isLiveUpdate = false) (hkey : dedupKey d.parts = .ok key)
    (hstores : StoresSucceed t) (habsent : w.xref key = none) (hsteps : w.Steps t w') :
    ∃ t', t = claimedBy d (.ok ⟨.claimed, d.claimInput.newRow⟩) :: t' ∧ ClaimedExit d P t' res ∧
      World.Steps { w with xref := w.xref.put key d.claimInput.newRow } t' w' := by
  cases h with
  | lookup h | unknown h | known h => simp [hlive] at h
  | direct _ hclaim =>
    cases hclaim with
    | failed => exact (hstores.head_ne_error rfl).elim
    | held hne =>
      obtain ⟨w₁, hstep, _⟩ := steps_cons.mp hsteps
      obtain ⟨key', hkey', ⟨row, hrow, _⟩ | ⟨_, rfl, _⟩⟩ := World.Step.claim_ok hstep
      · obtain rfl : key' = key := Except.ok.inj (hkey'.symm.trans hkey)
        simp [habsent] at hrow
      · exact absurd rfl hne
    | claimed _ hclaimed =>
      obtain ⟨w₁, hstep, hrest⟩ := steps_cons.mp hsteps
      obtain ⟨key', hkey', ⟨row, hrow, _⟩ | ⟨_, rfl, rfl⟩⟩ := World.Step.claim_ok hstep
      all_goals obtain rfl : key' = key := Except.ok.inj (hkey'.symm.trans hkey)
      · simp [habsent] at hrow
      · exact ⟨_, rfl, hclaimed, hrest⟩

/-- An importable order without a row is imported by a delivery that is no live update. -/
theorem deliver_imports (h : Settles (deliver d) tr res) (hlive : d.isLiveUpdate = false)
    (himp : Importable A d) (hkey : dedupKey d.parts = .ok key) (hsmooth : Smooth A tr)
    (habsent : w.xref key = none) (hsteps : w.Steps tr w') :
    Imported d res ∧ SyncedByUpsert d key tr w' := by
  have hforget : w.forget.xref key = none := habsent
  obtain ⟨t', hmain, hclaimed, hrest⟩ := (deliver_exit h).claimed_of_absent hlive hkey
    hsmooth.main_calls.stores hforget hsteps.main
  have hsub : t' ⊆ tr := fun ev hev => mem_of_mem_main (by rw [hmain]; simp [hev])
  obtain ⟨hres, row, payload, u, hrow, hstatus, htarget, honce⟩ :=
    hclaimed.imports himp hkey hsmooth hsub hrest
  refine ⟨hres, row, payload, u, hrow, hstatus, htarget, ?_⟩
  rw [← orderUpserts_main, hmain, orderUpserts_cons_of_not rfl, honce]

/-- A live update of an order without a row ignores it. -/
theorem DeliverExit.ignored_of_live (h : DeliverExit d P t res) (hlive : d.isLiveUpdate = true)
    (hkey : dedupKey d.parts = .ok key) (hstores : StoresSucceed t) (habsent : w.xref key = none)
    (hsteps : w.Steps t w') :
    res = .ok (updateIgnored d) ∧ w'.status key = some .ignored ∧ orderUpserts t = [] := by
  cases h with
  | direct h => simp [hlive] at h
  | lookup => exact (hstores.head_ne_error rfl).elim
  | known =>
    obtain ⟨w₁, hstep, _⟩ := steps_cons.mp hsteps
    obtain ⟨key', hkey', hfound, _⟩ := World.Step.lookupXref_ok hstep
    obtain rfl : key' = key := Except.ok.inj (hkey'.symm.trans hkey)
    simp [habsent] at hfound
  | @unknown t _ _ hignore =>
    obtain ⟨w₁, hstep, hrest⟩ := steps_cons.mp hsteps
    have hnone : orderUpserts (lookedUp d (.ok none) :: t) = [] := by
      rw [orderUpserts_cons_of_not rfl, hignore.no_upserts]
    have hending := hignore.ending hkey hstores.tail hrest hnone
    cases hignore with
    | row => exact (hstores.tail.head_ne_error rfl).elim
    | log hlog => cases hlog.eq_ok hstores.tail.tail
    | ignored => exact ⟨rfl, hending.iffs.2.2.1.mp ⟨_, _, rfl⟩⟩

/-- A live update of an order without a row leaves it ignored, with no upsert. -/
theorem deliver_ignores (h : Settles (deliver d) tr res) (hlive : d.isLiveUpdate = true)
    (hkey : dedupKey d.parts = .ok key) (hstores : StoresSucceed tr) (habsent : w.xref key = none)
    (hsteps : w.Steps tr w') :
    res = .ok (updateIgnored d) ∧ w'.status key = some .ignored ∧ orderUpserts tr = [] := by
  have hforget : w.forget.xref key = none := habsent
  obtain ⟨hres, hstatus, hnone⟩ :=
    (deliver_exit h).ignored_of_live hlive hkey hstores.main_calls hforget hsteps.main
  exact ⟨hres, hstatus, by rw [← orderUpserts_main, hnone]⟩

end Smooth

/-! ## Smooth deliveries in a history -/

/-- What a history says of a delivery of the order of `key`, all of whose calls succeeded. -/
inductive SmoothDelivery (A : Answers) (key : String) (w : World) (d : Delivery) :
    Event Activity Activity.Record → Prop
  | intro {message : Js.Value} {tr : List Ev} {res : Except Thrown OrderHandlerOutcome}
      (hdelivers : d.Delivers message w) (hkey : dedupKey d.parts = .ok key)
      (hsmooth : Smooth A tr) : SmoothDelivery A key w d ⟨d.handling message, (tr, res)⟩

/-- The calls of a history. -/
def History.calls (history : History) : List Ev := history.flatMap fun ev => ev.2.1

@[simp] theorem History.calls_cons (ev : Event Activity Activity.Record) (history : History) :
    History.calls (ev :: history) = ev.2.1 ++ History.calls history := List.flatMap_cons

theorem SmoothDelivery.of_connections {ev : Event Activity Activity.Record}
    (h : SmoothDelivery A key w d ev) (hconn : w'.connections = w.connections) :
    SmoothDelivery A key w' d ev := by
  obtain ⟨hdelivers, hkey, hsmooth⟩ := h
  exact .intro (hdelivers.of_connections hconn) hkey hsmooth

section Performs

variable {a : Activity} {r : a.Record} {row : XrefRow}

theorem StoreCall.not_orderUpsert {ev : Ev} (h : StoreCall ev) : isOrderUpsert ev = false := by
  cases h with
  | @store c h r =>
    cases c with
    | upsertByExternalId => cases h
    | _ => rfl
  | clock | track => rfl

theorem Only.no_upserts_of_stores (h : Only StoreCall t) : orderUpserts t = [] :=
  List.filter_eq_nil_iff.mpr fun ev hev => by simp [(h ev hev).not_orderUpsert]

/-- With a row, a delivery whose store calls succeed changes nothing but attempt rows. -/
theorem Delivery.Delivers.held (hd : d.Delivers message w) (hkey : dedupKey d.parts = .ok key)
    (hstores : StoresSucceed tr) (hrow : w.xref key = some row)
    (h : (d.handling message).Performs w (tr, res) w') :
    w'.forget = w.forget ∧ orderUpserts tr = [] ∧ res = .ok (d.held row.claimOutcome) := by
  obtain ⟨e, rfl, _⟩ | ⟨t, rfl, hdeliver, hsteps⟩ := hd.performs h
  · exact (hstores.head_ne_error rfl).elim
  · obtain ⟨hcalls, hforget, hres⟩ := deliver_held hdeliver hkey hstores.tail hrow hsteps
    refine ⟨hforget, ?_, hres⟩
    rw [orderUpserts_cons_of_not rfl, hcalls.no_upserts_of_stores]

theorem Delivery.Delivers.imports (hd : d.Delivers message w)
    (hkey : dedupKey d.parts = .ok key) (hlive : d.isLiveUpdate = false) (himp : Importable A d)
    (hsmooth : Smooth A tr) (habsent : w.xref key = none)
    (h : (d.handling message).Performs w (tr, res) w') :
    Imported d res ∧ SyncedByUpsert d key tr w' := by
  obtain ⟨e, rfl, _⟩ | ⟨t, rfl, hdeliver, hsteps⟩ := hd.performs h
  · exact hsmooth.head_ne_error.elim
  · obtain ⟨hres, row, payload, u, hrow, hstatus, htarget, honce⟩ :=
      deliver_imports hdeliver hlive himp hkey hsmooth.tail habsent hsteps
    refine ⟨hres, row, payload, u, hrow, hstatus, htarget, ?_⟩
    rw [orderUpserts_cons_of_not rfl, honce]

theorem Delivery.Delivers.ignores (hd : d.Delivers message w)
    (hkey : dedupKey d.parts = .ok key) (hlive : d.isLiveUpdate = true)
    (hstores : StoresSucceed tr) (habsent : w.xref key = none)
    (h : (d.handling message).Performs w (tr, res) w') :
    w'.status key = some .ignored ∧ orderUpserts tr = [] := by
  obtain ⟨e, rfl, _⟩ | ⟨t, rfl, hdeliver, hsteps⟩ := hd.performs h
  · exact (hstores.head_ne_error rfl).elim
  · obtain ⟨_, hstatus, hnone⟩ :=
      deliver_ignores hdeliver hlive hkey hstores.tail habsent hsteps
    exact ⟨hstatus, by rw [orderUpserts_cons_of_not rfl, hnone]⟩

/-- Induction on the history: deliveries of an order with a row change nothing but
attempt rows. -/
theorem held_history {history : History} (hpasses : w.Passes history w')
    (hdeliveries : ∀ ev ∈ history, ∃ d, SmoothDelivery A key w d ev)
    (hrow : w.xref key = some row) :
    w'.forget = w.forget ∧ orderUpserts history.calls = [] := by
  induction hpasses with
  | nil => exact ⟨rfl, rfl⟩
  | @cons a r w w₁ w' history hperforms _ ih =>
    have hconn : w₁.connections = w.connections := World.Steps.connections_eq hperforms.steps
    obtain ⟨d, ⟨hdelivers, hkey, hsmooth⟩⟩ := hdeliveries _ (List.mem_cons_self ..)
    obtain ⟨hforget, hnone, _⟩ := hdelivers.held hkey hsmooth.stores hrow hperforms
    have hrow₁ : w₁.xref key = some row := by
      rw [← World.forget_xref, hforget]
      exact hrow
    obtain ⟨hforget', hnone'⟩ := ih (fun ev hev => by
      obtain ⟨d', hd'⟩ := hdeliveries ev (List.mem_cons_of_mem _ hev)
      exact ⟨d', hd'.of_connections hconn⟩) hrow₁
    refine ⟨hforget'.trans hforget, ?_⟩
    rw [History.calls_cons, orderUpserts_append, hnone, List.nil_append, hnone']

end Performs

/-! ## The shop -/

/-- A call that failed. -/
def isFailedCall : Ev → Bool
  | ⟨.io _, .error _⟩ => true
  | _ => false

/-- Calls of a responder none of which failed are smooth, for what its services return. -/
theorem Responder.smooth_of_respond {r : Responder}
    (hrespond : ∀ ev ∈ tr, ∃ v, ev.2 = (r.respond ev.1 v).1)
    (hok : ∀ ev ∈ tr, isFailedCall ev = false) : Smooth (fun c value => r.answers c = .ok value) tr where
  succeed c e hmem := by
    have hfailed : true = false := hok _ hmem
    cases hfailed
  admitted c value hout hmem := by
    obtain ⟨v, hv⟩ := hrespond _ hmem
    unfold Responder.respond at hv
    dsimp only at hv
    split at hv
    · cases hv
    · next out hserve => simp [World.isStore_of_serve hserve] at hout
    · exact hv.symm

/-- A run none of whose calls failed is smooth. -/
theorem Responder.smooth {a : Activity} {w : World} (r : Responder)
    (hok : ∀ ev ∈ (r.perform a w).1.1, isFailedCall ev = false) :
    Smooth (fun c value => r.answers c = .ok value) (r.perform a w).1.1 :=
  r.smooth_of_respond (fun _ => r.mem_perform) hok

namespace Shop

/-- What the services of the shop return. -/
def admits : Answers := fun c r => answers c = .ok r

/-- A run in the shop none of whose calls failed is smooth. -/
theorem smooth {a : Activity} {w : World} {r : Responder} (hr : r.answers = answers)
    (hok : ∀ ev ∈ (r.perform a w).1.1, isFailedCall ev = false) :
    Smooth admits (r.perform a w).1.1 := by
  have hsmooth := r.smooth hok
  rw [hr] at hsmooth
  exact hsmooth

/-- Every call to prepare the order, answered by the services. -/
def oracle : (o : Op) → o.Resp
  | .io c => answers c
  | .clock => 0
  | .track _ => ()

def isReady : Except Thrown PreparedOrder → Bool
  | .ok (.ready ..) => true
  | _ => false

/-- The order can be imported. -/
theorem importable (msg : OrderWebhookMessage) : Importable admits (delivery msg) where
  eligible o ho := by
    obtain rfl : order = o := Except.ok.inj ho
    exact checkEligibility_eq_eligible.mpr ⟨rfl, rfl, by decide, by decide⟩
  mappable o ho t r h hsmooth := by
    obtain rfl : order = o := Except.ok.inj ho
    have horacle : ∀ ev ∈ t, ev.2 = oracle ev.1 := by
      intro ev hev
      obtain ⟨hprep, r⟩ := (prepares_prepareOrder _ _ _ _ h).1 ev hev
      cases r with
      | error e => exact (hsmooth.succeed _ e hev).elim
      | ok value =>
        exact (hsmooth.admitted _ value (Call.isStore_of_isPreparatory hprep) hev).symm
    have hready : isReady ((prepareOrder (delivery (Shop.message none "orders/create"))
        order).run.eval oracle).2 = true := by decide +kernel
    have heval : (prepareOrder (delivery (Shop.message none "orders/create"))
        order).run.eval oracle = (t, r) := Runs.eq_eval h horacle
    rw [heval] at hready
    cases r with
    | error e => cases hready
    | ok prepared =>
      cases prepared with
      | parked => cases hready
      | ready customer payload => exact ⟨customer, payload, rfl⟩

theorem dedupKey_parts {msg : OrderWebhookMessage} (h : msg.orderGid = order.id) :
    dedupKey (delivery msg).parts = .ok Shop.key := by
  have hparts : (delivery msg).parts = (delivery (Shop.message none "")).parts := by
    simp [Delivery.parts, delivery, OrderWebhookMessage.received, h, Shop.message]
  have hvalid : ∀ v ∈ (delivery (Shop.message none "")).parts.values,
      v ≠ "" ∧ Js.includes v "|" = false := by decide +kernel
  rw [hparts]
  exact dedupKeyWith_eq_ok.mpr ⟨hvalid, by decide +kernel⟩

/-- A delivery to the shop none of whose calls failed is a smooth delivery of its order. -/
theorem smoothDelivery {source : Option Source} {topic : String} (htopic : topic ≠ "")
    {w v : World} (hconn : w.connections = world.connections) {r : Responder}
    (hr : r.answers = answers)
    (hok : ∀ ev ∈ (r.perform ((delivery (Shop.message source topic)).handling
      (Shop.message source topic).toJs) v).1.1, isFailedCall ev = false) :
    SmoothDelivery admits Shop.key w (delivery (Shop.message source topic))
      ⟨(delivery (Shop.message source topic)).handling (Shop.message source topic).toJs,
        (r.perform ((delivery (Shop.message source topic)).handling (Shop.message source topic).toJs) v).1⟩ :=
  .intro (delivers (message_wellFormed _ htopic) rfl rfl hconn) (dedupKey_parts rfl)
    (smooth hr hok)

end Shop

end DpIntegrator
