import DpIntegrator.Delivery.Catchup
import DpIntegrator.Delivery.Replays

/-!
# Orders that were once ineligible

The first delivery of an ineligible order marks its row as ignored. From then on
deliveries and polls leave the order alone, whatever becomes of it, until an operator
replays it: the replay drops the row, and its message is handled as a first delivery.
-/

namespace DpIntegrator

open Effects

variable {A : Answers} {d : Delivery} {P : Preparations} {t tr : List Ev} {w w' : World}
  {key : String} {res : Except Thrown OrderHandlerOutcome} {message : Js.Value}

/-! ## Rows of other orders -/

/-- A main call writes the row of its own order, or none. -/
theorem MainCall.rowOf_eq {ev : Ev} (h : MainCall d ev) :
    World.rowOf ev = none ∨ World.rowOf ev = some d.parts := by
  cases h with
  | side h => exact .inl h.rowOf_eq
  | @preparatory c hprep e =>
    left
    cases c <;> first | rfl | cases hprep
  | lookup | fetch | upsert => exact .inl rfl
  | claim | success | failure | ignore => exact .inr rfl

/-- A delivery leaves the rows of other orders as they are. -/
theorem Delivery.Delivers.row_eq (hd : d.Delivers message w)
    (h : (d.handling message).Performs w (tr, res) w') (hkey : dedupKey d.parts ≠ .ok key) :
    w'.xref key = w.xref key := by
  obtain ⟨e, rfl, _, rfl⟩ | ⟨t, rfl, hdeliver, hsteps⟩ := hd.performs h
  · rfl
  · change w'.forget.xref key = w.forget.xref key
    refine hsteps.main.row_eq fun ev hev parts hparts => ?_
    obtain hnone | hown := ((deliver_exit hdeliver).main_calls ev hev).rowOf_eq
    · simp [hnone] at hparts
    · rw [hown] at hparts
      cases hparts
      exact hkey

/-! ## The ineligible delivery -/

section Ineligible

variable {connectionId orderGid : String} {reason : EligibilityReason} {detail : Option String}

theorem IgnoreExit.status_eq {shape : SyncLogShape} {o o' : OrderHandlerOutcome}
    (h : IgnoreExit d shape o t (.ok o')) (hkey : dedupKey d.parts = .ok key)
    (hsteps : w.Steps t w') : w'.status key = some .ignored := by
  cases h with
  | ignored hlog =>
    obtain ⟨w₁, hstep, hrest⟩ := steps_cons.mp hsteps
    obtain ⟨key', hkey', hstatus, rfl⟩ := World.Step.markIgnored_ok hstep
    obtain rfl : key' = key := Except.ok.inj (hkey'.symm.trans hkey)
    simp [World.status, hlog.side.xref_eq hrest, hstatus]

theorem ClaimExit.status_of_ignored
    (h : ClaimExit d P t (.ok (.ignoredByEligibility connectionId orderGid reason detail)))
    (hkey : dedupKey d.parts = .ok key) (hsteps : w.Steps t w') :
    w'.status key = some .ignored := by
  generalize hres : Except.ok (OrderHandlerOutcome.ignoredByEligibility connectionId orderGid
    reason detail) = res at h
  cases h with
  | failed => cases hres
  | @held r h =>
    cases houtcome : r.outcome <;> simp [Delivery.held, houtcome] at hres
  | claimed _ hclaimed =>
    subst hres
    obtain ⟨w₁, _, hrest⟩ := steps_cons.mp hsteps
    cases hclaimed with
    | returned himport =>
      generalize hres : Except.ok (OrderHandlerOutcome.ignoredByEligibility connectionId orderGid
        reason detail) = res at himport
      cases himport with
      | fetch | call | threw => cases hres
      | ineligible _ hignore =>
        subst hres
        obtain ⟨w₂, _, hrest₁⟩ := steps_cons.mp hrest
        exact hignore.status_eq hkey hrest₁
      | parked _ _ hpark => cases hpark <;> cases hres
      | written _ _ hwrite => cases hwrite <;> cases hres
    | thrown _ hroute =>
      generalize hres : Except.ok (OrderHandlerOutcome.ignoredByEligibility connectionId orderGid
        reason detail) = res at hroute
      cases hroute with
      | unreadable | transient | authUnrecorded | auth => cases hres
      | parked _ _ hpark => cases hpark <;> cases hres

/-- A delivery that found its order ineligible leaves the row ignored. -/
theorem DeliverExit.status_of_ignored
    (h : DeliverExit d P t (.ok (.ignoredByEligibility connectionId orderGid reason detail)))
    (hkey : dedupKey d.parts = .ok key) (hsteps : w.Steps t w') :
    w'.status key = some .ignored := by
  cases h with
  | direct _ hclaim => exact hclaim.status_of_ignored hkey hsteps
  | unknown _ hignore =>
    obtain ⟨w₁, _, hrest⟩ := steps_cons.mp hsteps
    exact hignore.status_eq hkey hrest
  | known _ hclaim =>
    obtain ⟨w₁, _, hrest⟩ := steps_cons.mp hsteps
    exact hclaim.status_of_ignored hkey hrest

theorem Delivery.Delivers.status_of_ignored (hd : d.Delivers message w)
    (hkey : dedupKey d.parts = .ok key)
    (h : (d.handling message).Performs w
      (tr, .ok (.ignoredByEligibility connectionId orderGid reason detail)) w') :
    w'.status key = some .ignored := by
  obtain ⟨e, _, he, _⟩ | ⟨t, rfl, hdeliver, hsteps⟩ := hd.performs h
  · cases he
  · have hstatus := (deliver_exit hdeliver).status_of_ignored hkey hsteps.main
    exact hstatus

end Ineligible

/-! ## Deliveries and polls -/

/-- A delivery of some order, or a poll, all of whose calls succeeded. -/
inductive Routine (A : Answers) (w : World) : Event Activity Activity.Record → Prop
  | delivery {key : String} {d : Delivery} {ev : Event Activity Activity.Record}
      (h : SmoothDelivery A key w d ev) : Routine A w ev
  | poll {deps : CatchupDeps} {config : CatchupConfig} {connectionId : String} {tr : List Ev}
      {out : Except Thrown ConnectionCatchupOutcome} (h : Smooth A tr) :
      Routine A w ⟨.poll deps config connectionId, (tr, out)⟩

/-- The activity answered that the order of `key` is ignored, without an upsert, or was no
delivery of that order; and it enqueued no message about it. -/
inductive LeavesAlone (key : String) : Event Activity Activity.Record → Prop
  | delivery {d : Delivery} {message : Js.Value} {tr : List Ev}
      {res : Except Thrown OrderHandlerOutcome}
      (h : dedupKey d.parts = .ok key → orderUpserts tr = [] ∧
        res = .ok (.ignored d.connection.connectionId d.msg.orderGid)) :
      LeavesAlone key ⟨d.handling message, (tr, res)⟩
  | poll {deps : CatchupDeps} {config : CatchupConfig} {connectionId : String} {tr : List Ev}
      {out : Except Thrown ConnectionCatchupOutcome}
      (h : ∀ sessionId msg r, answered (.enqueue sessionId msg) r ∈ tr →
        dedupKey (orderParts deps.environment connectionId msg.orderGid) ≠ .ok key) :
      LeavesAlone key ⟨.poll deps config connectionId, (tr, out)⟩

theorem Routine.of_connections {ev : Event Activity Activity.Record} (h : Routine A w ev)
    (hconn : w'.connections = w.connections) : Routine A w' ev := by
  cases h with
  | delivery h => exact .delivery (h.of_connections hconn)
  | poll h => exact .poll h

/-- Deliveries and polls leave an ignored order alone. -/
theorem Routine.leavesAlone {a : Activity} {r : a.Record} {row : XrefRow}
    (h : Routine A w ⟨a, r⟩) (hperforms : a.Performs w r w') (hrow : w.xref key = some row)
    (hstatus : row.status = .ignored) : w'.xref key = some row ∧ LeavesAlone key ⟨a, r⟩ := by
  cases h with
  | delivery h =>
    obtain ⟨hdelivers, hkey', hsmooth⟩ := h
    next key' d message tr res =>
    by_cases hkey : key' = key
    · subst hkey
      obtain ⟨hforget, hnone, hres⟩ := hdelivers.held hkey' hsmooth.stores hrow hperforms
      refine ⟨?_, .delivery fun _ => ⟨hnone, (held_iffs row hres).2.1.mpr hstatus⟩⟩
      rw [← World.forget_xref, hforget]
      exact hrow
    · have hne : dedupKey d.parts ≠ .ok key := by
        rw [hkey']
        intro heq
        exact hkey (Except.ok.inj heq)
      exact ⟨(hdelivers.row_eq hperforms hne).trans hrow, .delivery fun hkey => absurd hkey hne⟩
  | poll h =>
    obtain ⟨hxref, hmissing, _⟩ := pollOneConnection_enqueues hperforms.runs hperforms.steps
    refine ⟨by rw [hxref]; exact hrow, .poll fun sessionId msg r hmem hkey => ?_⟩
    obtain ⟨connection, now, gid, rfl, hmiss⟩ := hmissing _ _ _ hmem
    obtain hstatus' | hstatus' := hmiss.not_terminal hkey hrow <;> simp [hstatus] at hstatus'

/-- Induction on the history. -/
theorem ignored_history {history : History} {row : XrefRow} (hpasses : w.Passes history w')
    (hroutine : ∀ ev ∈ history, Routine A w ev) (hrow : w.xref key = some row)
    (hstatus : row.status = .ignored) :
    w'.xref key = some row ∧ ∀ ev ∈ history, LeavesAlone key ev := by
  induction hpasses with
  | nil => exact ⟨hrow, by simp⟩
  | @cons a r w w₁ w' history hperforms _ ih =>
    have hconn : w₁.connections = w.connections := World.Steps.connections_eq hperforms.steps
    obtain ⟨hrow₁, hhead⟩ :=
      (hroutine _ (List.mem_cons_self ..)).leavesAlone hperforms hrow hstatus
    obtain ⟨hrow', htail⟩ := ih (fun ev hev =>
      (hroutine ev (List.mem_cons_of_mem _ hev)).of_connections hconn) hrow₁
    exact ⟨hrow', List.forall_mem_cons.mpr ⟨hhead, htail⟩⟩

/-! ## The replay -/

section Replay

variable {req : ReplayRequest} {connection : Connection} {out : Except Thrown ReplayOutcome}

/-- A replay of an order whose row is not synced drops the row and publishes the order. -/
theorem requestReplay_replays {row : XrefRow} (h : Settles (requestReplay req) tr out)
    (hsteps : w.Steps tr w') (hsmooth : Smooth A tr)
    (hfound : w.findById req.environment req.connectionId = some connection)
    (hkey : dedupKey req.parts = .ok key) (hrow : w.xref key = some row)
    (hstatus : row.status ≠ .synced) : w'.xref key = none ∧ ∃ sessionId now,
      out = .ok (.replayed (some row.status) sessionId) ∧
        answered (.enqueue sessionId (req.body connection now)) (.ok ()) ∈ tr := by
  have hends := requestReplay_ends hkey h hsteps
  cases hends with
  | failed _ _ hmem => exact (hsmooth.succeed _ _ hmem).elim
  | refused _ hwhy =>
    obtain hnone | hrefused := hwhy
    · rw [hfound] at hnone
      cases hnone
    · refine absurd (fun row' hrow' hsynced => ?_) hrefused
      obtain rfl : row' = row := Option.some.inj (hrow'.symm.trans hrow)
      exact absurd hsynced hstatus
  | @sent t found now r _ hfound' _ _ hsend =>
    obtain rfl : found = connection := Option.some.inj (hfound'.symm.trans hfound)
    cases r with
    | error e =>
      exact hsmooth.right.head_ne_error.elim
    | ok u =>
      obtain ⟨_, rfl⟩ := World.Step.enqueue_ok hsend
      refine ⟨XrefRows.drop_self .., req.sessionId, now, by simp [hrow, Except.map], ?_⟩
      exact List.mem_append_right _ (List.mem_singleton.mpr rfl)

/-- The delivery of a replayed order is about that order, and the gate lets it through. -/
theorem Delivery.Delivers.of_replay {now : ℤ}
    (hd : d.Delivers (req.body connection now).toJs w) :
    d.parts = req.parts ∧ d.isLiveUpdate = false := by
  have hmsg := received_of_parse hd.parsed
  have henv : d.deps.environment = req.environment := by
    have htext : d.deps.environment.text = req.environment.text := by
      rw [← hd.environment, hmsg]
      rfl
    have hread := congrArg Environment.ofText? htext
    simpa using hread
  have hid : d.connection.connectionId = req.connectionId := by
    rw [hd.connectionId_eq, hmsg]
    rfl
  have hgid : d.msg.orderGid = req.orderGid := by
    rw [hmsg]
    rfl
  constructor
  · rw [Delivery.parts, ReplayRequest.parts, henv, hid, hgid]
  · rw [Delivery.isLiveUpdate, hmsg]
    rfl

end Replay

/-! ## An unpaid order of the shop -/

/-- A recovery of the order of `key`: a live update of it, a poll, or the handling of a
message of the poller, at a time when the order is eligible and mappable. -/
inductive Recovery (A : Answers) (key : String) (w : World) :
    Event Activity Activity.Record → Prop
  | update {d : Delivery} {ev : Event Activity Activity.Record} (h : LiveDelivery A key w d ev)
      (htopic : d.msg.topic = "orders/updated") : Recovery A key w ev
  | poll {deps : CatchupDeps} {config : CatchupConfig} {connectionId : String} {tr : List Ev}
      {out : Except Thrown ConnectionCatchupOutcome} (h : Smooth A tr) :
      Recovery A key w ⟨.poll deps config connectionId, (tr, out)⟩
  | handled {d : Delivery} {ev : Event Activity Activity.Record}
      (h : SmoothDelivery A key w d ev) (himp : Importable A d)
      (hsource : d.msg.source = some .catchup) : Recovery A key w ev

/-- The messages that polls of a history enqueued are handled in it. -/
def Handled (history : History) : Prop :=
  ∀ deps config connectionId tr out sessionId msg,
    ⟨.poll deps config connectionId, (tr, out)⟩ ∈ history →
    answered (.enqueue sessionId msg) (.ok ()) ∈ tr →
    ∃ (d : Delivery) (r : (d.handling msg.toJs).Record), ⟨d.handling msg.toJs, r⟩ ∈ history

theorem eq_ok_of_toOption {o : OrderHandlerOutcome} (h : res.toOption = some o) : res = .ok o := by
  cases res with
  | ok o' =>
    cases h
    rfl
  | error e => cases h

namespace Shop

/-- Services that have the order, still unpaid. -/
def unpaid : Responder where
  answers
    | .getOrder .. => .ok { order with financialStatus := .pending }
    | c => answers c

/-- The creation of the order, handled while it is unpaid. -/
def ignored : creation.Record × World := unpaid.perform creation world

theorem ignored_performs : creation.Performs world (ignored.1.1, .ok (.ignoredByEligibility
    "conn-a" order.id .pendingPayment
    (some "financialStatus=pending not in [\"paid\",\"authorized\",\"partially_paid\"]")))
    ignored.2 := by
  have hres : ignored.1.2 = .ok (.ignoredByEligibility "conn-a" order.id .pendingPayment
      (some "financialStatus=pending not in [\"paid\",\"authorized\",\"partially_paid\"]")) :=
    eq_ok_of_toOption (by decide +kernel)
  rw [← hres]
  exact unpaid.performs _ _

/-- An update of the order, which is paid by now. -/
def paid : Activity :=
  (delivery (Shop.message none "orders/updated")).handling (Shop.message none "orders/updated").toJs

/-- The handling of the update. -/
def updated : paid.Record × World := up.perform paid ignored.2

theorem updated_passes : ignored.2.Passes [⟨paid, updated.1⟩] updated.2 :=
  .cons (up.performs _ _) (.nil _)

theorem updated_live : LiveDelivery admits Shop.key world
    (delivery (Shop.message none "orders/updated")) ⟨paid, updated.1⟩ :=
  liveDelivery (.inr rfl) rfl (by decide +kernel)

end Shop

end DpIntegrator
