import DpIntegrator.Delivery.Producers
import DpIntegrator.Delivery.Redelivery

/-!
# Messages that are queued ahead of a replay

A replay drops the row at once, but its message is handled after those that are on the
session already. The first of them that can be read meets an order without a row.
-/

namespace DpIntegrator

open Effects

variable {A : Answers} {req : ReplayRequest} {connection : Connection} {deps : OrderHandlerDeps}
  {attemptCtx : Option AttemptContext} {message : Js.Value} {tr : List Ev} {w w' : World}
  {key : String} {res : Except Thrown OrderHandlerOutcome}

/-- A live update, for which the gate creates no order. -/
def ReceivedMessage.isLiveUpdate (m : ReceivedMessage) : Bool :=
  m.source.getD .webhook = .webhook && m.topic = "orders/updated"

/-- The message that a handling reads, if it can read its body. -/
def Activity.received : Activity → Option ReceivedMessage
  | handle _ message _ => (parseOrderWebhookMessage message).toOption
  | poll .. | replay .. => none

/-- The messages that the handlings of a history read, in order. -/
def History.received (history : History) : List ReceivedMessage :=
  history.filterMap fun ev => ev.1.received

/-- The handling of a body on the session of a replayed order, with calls that all succeed.
If the body can be read, it is a message about the order, which is eligible and mappable. -/
inductive Queued (A : Answers) (req : ReplayRequest) (connection : Connection) :
    Event Activity Activity.Record → Prop
  | intro {deps : OrderHandlerDeps} {message : Js.Value} {attemptCtx : Option AttemptContext}
      {tr : List Ev} {res : Except Thrown OrderHandlerOutcome}
      (henv : deps.environment = req.environment)
      (habout : ∀ m, parseOrderWebhookMessage message = .ok m →
        m.environment = req.environment.text ∧ m.connectionId = req.connectionId ∧
          m.orderGid = req.orderGid)
      (himp : ∀ m, parseOrderWebhookMessage message = .ok m →
        Importable A ⟨deps, connection, m, attemptCtx⟩)
      (hsmooth : Smooth A tr) :
      Queued A req connection ⟨.handle deps message attemptCtx, (tr, res)⟩

section Bodies

/-- A body that cannot be read is rejected before any call. -/
theorem handle_unread {detail : String} (hparse : parseOrderWebhookMessage message = .error detail)
    (h : (Activity.handle deps message attemptCtx).Performs w (tr, res) w') : tr = [] ∧ w' = w := by
  obtain ⟨hruns, hsteps⟩ := h
  have hsettles : Settles (handleOrderMessage deps message attemptCtx) tr res := hruns
  simp only [handleOrderMessage, hparse] at hsettles
  obtain ⟨rfl, _⟩ := settles_pure.mp hsettles
  exact ⟨rfl, steps_nil.mp hsteps⟩

/-- A message for a disabled connection is rejected after the connection was looked up. -/
theorem handle_disabled {m : ReceivedMessage} (hparse : parseOrderWebhookMessage message = .ok m)
    (henv : m.environment = deps.environment.text)
    (hfound : w.findById deps.environment m.connectionId = some connection)
    (hdisabled : connection.enabled = false)
    (h : (Activity.handle deps message attemptCtx).Performs w (tr, res) w') : w' = w := by
  obtain ⟨hruns, hsteps⟩ := h
  have hsettles : Settles (handleOrderMessage deps message attemptCtx) tr res := hruns
  simp only [handleOrderMessage, hparse, henv, ne_eq, not_true_eq_false, if_false] at hsettles
  obtain ⟨e, rfl, hfind⟩ | ⟨found, t₁, t₂, rfl, hfind, hrest⟩ := settles_bind.mp hsettles
  · obtain rfl := settles_io.mp hfind
    obtain ⟨w₁, hstep, hnil⟩ := steps_cons.mp hsteps
    obtain rfl := steps_nil.mp hnil
    exact World.Step.eq_of_error hstep
  · obtain rfl := settles_io.mp hfind
    obtain ⟨w₁, hstep, hrun⟩ := steps_cons.mp hsteps
    obtain ⟨hfound', rfl⟩ := World.Step.findConnection_ok hstep
    obtain rfl : found = some connection := hfound'.trans hfound
    simp only [hdisabled] at hrest
    obtain ⟨rfl, _⟩ := settles_pure.mp hrest
    exact steps_nil.mp hrun

end Bodies

/-- The connection of a request is found. -/
def Connects (req : ReplayRequest) (connection : Connection) (w : World) : Prop :=
  w.findById req.environment req.connectionId = some connection

theorem Connects.of_connections (h : Connects req connection w)
    (hconn : w'.connections = w.connections) : Connects req connection w' := by
  unfold Connects World.findById at h ⊢
  rw [hconn]
  exact h

/-- A queued body that was read is a smooth delivery of the order, if the connection is
enabled. -/
theorem Queued.delivery {a : Activity} {r : a.Record} {m : ReceivedMessage}
    (h : Queued A req connection ⟨a, r⟩) (hkey : dedupKey req.parts = .ok key)
    (hconnects : Connects req connection w) (henabled : connection.enabled = true)
    (hread : a.received = some m) : ∃ d : Delivery, d.msg = m ∧ Importable A d ∧
      SmoothDelivery A key w d ⟨a, r⟩ := by
  obtain ⟨henv, habout, himp, hsmooth⟩ := h
  next deps message attemptCtx tr res =>
  have hparse : parseOrderWebhookMessage message = .ok m := by
    cases hparse : parseOrderWebhookMessage message with
    | error detail => simp [Activity.received, hparse, Except.toOption] at hread
    | ok m' =>
      simp only [Activity.received, hparse, Except.toOption, Option.some.injEq] at hread
      rw [hread]
  obtain ⟨htext, hid, hgid⟩ := habout m hparse
  obtain ⟨_, hconnection⟩ := findById_connectionId hconnects
  have hdelivers : Delivery.Delivers ⟨deps, connection, m, attemptCtx⟩ message w :=
    ⟨hparse, by rw [henv]; exact htext, by rw [henv, hid]; exact hconnects, henabled⟩
  have hparts : Delivery.parts ⟨deps, connection, m, attemptCtx⟩ = req.parts := by
    rw [Delivery.parts, ReplayRequest.parts, henv, hconnection, hgid]
  exact ⟨_, rfl, himp m hparse, .intro hdelivers (by rw [hparts]; exact hkey) hsmooth⟩

/-- A queued body that was not read left the stores as they were. -/
theorem Queued.unread {a : Activity} {r : a.Record} (h : Queued A req connection ⟨a, r⟩)
    (hread : a.received = none) (hperforms : a.Performs w r w') :
    orderUpserts r.1 = [] ∧ w' = w := by
  obtain ⟨henv, habout, himp, hsmooth⟩ := h
  next deps message attemptCtx tr res =>
  cases hparse : parseOrderWebhookMessage message with
  | error detail =>
    obtain ⟨rfl, hw⟩ := handle_unread hparse hperforms
    exact ⟨rfl, hw⟩
  | ok m => simp [Activity.received, hparse, Except.toOption] at hread

/-- A queued body for a disabled connection left the stores as they were. -/
theorem Queued.disabled {a : Activity} {r : a.Record} (h : Queued A req connection ⟨a, r⟩)
    (hconnects : Connects req connection w) (hdisabled : connection.enabled = false)
    (hperforms : a.Performs w r w') : w' = w := by
  obtain ⟨henv, habout, himp, hsmooth⟩ := h
  next deps message attemptCtx tr res =>
  cases hparse : parseOrderWebhookMessage message with
  | error detail => exact (handle_unread hparse hperforms).2
  | ok m =>
    obtain ⟨htext, hid, _⟩ := habout m hparse
    refine handle_disabled hparse (by rw [henv]; exact htext) ?_ hdisabled hperforms
    rw [henv, hid]
    exact hconnects

section Histories

variable {history : History}

/-- With a row, queued bodies change nothing but attempt rows. Induction on the history. -/
theorem queued_held {row : XrefRow} (hpasses : w.Passes history w')
    (hqueued : ∀ ev ∈ history, Queued A req connection ev) (hkey : dedupKey req.parts = .ok key)
    (hconnects : Connects req connection w) (henabled : connection.enabled = true)
    (hrow : w.xref key = some row) : w'.xref key = some row := by
  induction hpasses with
  | nil => exact hrow
  | @cons a r w w₁ w' history hperforms _ ih =>
    have hconn : w₁.connections = w.connections := World.Steps.connections_eq hperforms.steps
    have hfirst := hqueued _ (List.mem_cons_self ..)
    refine ih (fun ev hev => hqueued ev (List.mem_cons_of_mem _ hev))
      (hconnects.of_connections hconn) ?_
    cases hread : a.received with
    | none =>
      obtain ⟨_, rfl⟩ := hfirst.unread hread hperforms
      exact hrow
    | some m =>
      obtain ⟨d, _, _, hdelivery⟩ := hfirst.delivery hkey hconnects henabled hread
      obtain ⟨hdelivers, hkey', hsmooth⟩ := hdelivery
      obtain ⟨hforget, _⟩ := hdelivers.held hkey' hsmooth.stores hrow hperforms
      rw [← World.forget_xref, hforget]
      exact hrow

/-- Messages for a disabled connection change nothing. Induction on the history. -/
theorem queued_disabled (hpasses : w.Passes history w')
    (hqueued : ∀ ev ∈ history, Queued A req connection ev)
    (hconnects : Connects req connection w) (hdisabled : connection.enabled = false) :
    w' = w := by
  induction hpasses with
  | nil => rfl
  | @cons a r w w₁ w' history hperforms _ ih =>
    have hfirst := hqueued _ (List.mem_cons_self ..)
    obtain rfl := hfirst.disabled hconnects hdisabled hperforms
    exact ih (fun ev hev => hqueued ev (List.mem_cons_of_mem _ hev)) hconnects

/-- Without a row, the order is imported if and only if the first message that is read is no
live update. Induction on the history. -/
theorem first_read_decides (hpasses : w.Passes history w')
    (hqueued : ∀ ev ∈ history, Queued A req connection ev) (hkey : dedupKey req.parts = .ok key)
    (hconnects : Connects req connection w) (henabled : connection.enabled = true)
    (habsent : w.xref key = none) :
    (w'.status key = some .synced ∧ orderUpserts history.calls ≠ []) ↔
      ∃ first, (History.received history).head? = some first ∧ first.isLiveUpdate = false := by
  induction hpasses with
  | nil w => simp [World.status, habsent, History.received]
  | @cons a r w w₁ w' history hperforms hrest ih =>
    have hconn : w₁.connections = w.connections := World.Steps.connections_eq hperforms.steps
    have hfirst := hqueued _ (List.mem_cons_self ..)
    have hlater : ∀ ev ∈ history, Queued A req connection ev :=
      fun ev hev => hqueued ev (List.mem_cons_of_mem _ hev)
    have hconnects₁ := hconnects.of_connections hconn
    rw [History.calls_cons, orderUpserts_append]
    cases hread : a.received with
    | none =>
      obtain ⟨hnone, rfl⟩ := hfirst.unread hread hperforms
      have hreceived : History.received (⟨a, r⟩ :: history) = History.received history :=
        List.filterMap_cons_none hread
      rw [hnone, List.nil_append, hreceived]
      exact ih hlater hconnects₁ habsent
    | some m =>
      have hreceived : History.received (⟨a, r⟩ :: history) = m :: History.received history :=
        List.filterMap_cons_some hread
      rw [hreceived]
      obtain ⟨d, rfl, himp, hdelivery⟩ := hfirst.delivery hkey hconnects henabled hread
      obtain ⟨hdelivers, hkey', hsmooth⟩ := hdelivery
      next message tr res =>
      -- Whatever the first delivery leaves stays.
      have hstays {status : XrefStatus} (hstatus : w₁.status key = some status) :
          w'.status key = some status := by
        obtain ⟨row, hrow, _⟩ := Option.map_eq_some_iff.mp hstatus
        have hrow' := queued_held hrest hlater hkey hconnects₁ henabled hrow
        rw [World.status, hrow', ← hrow]
        exact hstatus
      by_cases hlive : d.isLiveUpdate = true
      · obtain ⟨hignored, _⟩ := hdelivers.ignores hkey' hlive hsmooth.stores habsent hperforms
        have hlive' : d.msg.isLiveUpdate = true := hlive
        simp [hstays hignored, hlive']
      · have hlive' : d.msg.isLiveUpdate = false := Bool.eq_false_iff.mpr hlive
        obtain ⟨_, hsynced⟩ := hdelivers.imports hkey' hlive' himp hsmooth habsent hperforms
        have hstatus := hstays hsynced.status_eq
        obtain ⟨_, payload, u, _, _, _, honce⟩ := hsynced
        simp [hstatus, honce, hlive']

end Histories

/-! ## The replay and what is queued ahead -/

section Replay

variable {previous : Option XrefStatus} {sessionId : String} {msg : OrderWebhookMessage}
  {w₁ w₂ : World} {ahead : History}

/-- A replay that publishes its message has dropped the row. -/
theorem replayed_absent (hkey : dedupKey req.parts = .ok key)
    (h : (Activity.replay req).Performs w (tr, .ok (.replayed previous sessionId)) w₁) :
    w₁.xref key = none := by
  have hends := requestReplay_ends hkey h.runs h.steps
  generalize hout : (Except.ok (ReplayOutcome.replayed previous sessionId) :
    Except Thrown ReplayOutcome) = out at hends
  cases hends with
  | failed => cases hout
  | refused _ _ ho =>
    cases hout
    exact absurd rfl (ho _ _)
  | @sent _ _ _ r _ _ _ _ hsend =>
    cases r with
    | error e => cases hout
    | ok u =>
      obtain ⟨_, rfl⟩ := World.Step.enqueue_ok hsend
      exact XrefRows.drop_self ..

/-- The message of a replay can be read if and only if the topic is not empty. -/
theorem received_replayed (hconf : Configured w.connections)
    (h : (Activity.replay req).Performs w (tr, .ok (.replayed previous sessionId)) w₁)
    (hsent : answered (.enqueue sessionId msg) (.ok ()) ∈ tr)
    (hconnects : Connects req connection w) (henabled : connection.enabled = true) :
    (Activity.handle deps msg.toJs attemptCtx).received =
      if req.topic = some "" then none else some msg.received := by
  have hsends := replay_sends hconf h.runs h.steps hsent
  have hchecked : ∀ connection', w.findById req.environment req.connectionId = some connection' →
      connection'.enabled = true := by
    intro connection' hfound
    obtain rfl := Option.some.inj (hfound.symm.trans hconnects)
    exact henabled
  by_cases htopic : req.topic = some ""
  · rw [if_pos htopic]
    cases hparse : parseOrderWebhookMessage msg.toJs with
    | error detail => simp [Activity.received, hparse, Except.toOption]
    | ok m =>
      have hwf := wellFormed_of_parse hparse
      have hfound : Acceptable w msg := by
        obtain ⟨connection', existing, now, _, _, _, rfl⟩ := requestReplay_of_mem_enqueue h.runs hsent
        exact ⟨hwf, connection, hconnects, henabled⟩
      exact absurd htopic (hsends.acceptable.mp hfound).2
  · rw [if_neg htopic]
    obtain ⟨hwf, _⟩ := hsends.acceptable.mpr ⟨hchecked, htopic⟩
    simp [Activity.received, parseOrderWebhookMessage_toJs hwf, Except.toOption]

/-- After a replay, the messages that were queued ahead and the message of the replay import
the order if and only if its connection is enabled, the message that is read first ahead, if
any, is no live update, and the replay's own message can be read where it has to be. -/
theorem replay_reimports_iff {r : (Activity.handle deps msg.toJs attemptCtx).Record}
    (hconf : Configured w.connections) (hkey : dedupKey req.parts = .ok key)
    (hfound : w.findById req.environment req.connectionId = some connection)
    (hreplay : (Activity.replay req).Performs w (tr, .ok (.replayed previous sessionId)) w₁)
    (hsent : answered (.enqueue sessionId msg) (.ok ()) ∈ tr)
    (hqueued : ∀ ev ∈ ahead, Queued A req connection ev)
    (henv : deps.environment = req.environment)
    (himp : Importable A ⟨deps, connection, msg.received, attemptCtx⟩) (hsmooth : Smooth A r.1)
    (hpasses : w₁.Passes (ahead ++ [⟨.handle deps msg.toJs attemptCtx, r⟩]) w₂) :
    (w₂.status key = some .synced ∧
        orderUpserts (History.calls (ahead ++ [⟨.handle deps msg.toJs attemptCtx, r⟩])) ≠ []) ↔
      connection.enabled = true ∧
        (∀ first, (History.received ahead).head? = some first → first.isLiveUpdate = false) ∧
        (History.received ahead = [] → req.topic ≠ some "") := by
  have habsent := replayed_absent hkey hreplay
  have hconn : w₁.connections = w.connections := World.Steps.connections_eq hreplay.steps
  have hconnects : Connects req connection w₁ := Connects.of_connections hfound hconn
  obtain ⟨connection', existing, now, _, _, _, hmsg⟩ :=
    requestReplay_of_mem_enqueue hreplay.runs hsent
  have hlast : Queued A req connection ⟨.handle deps msg.toJs attemptCtx, r⟩ := by
    refine @Queued.intro A req connection deps msg.toJs attemptCtx r.1 r.2 henv ?_ ?_ hsmooth
    · intro m hparse
      rw [received_of_parse hparse, hmsg]
      exact ⟨rfl, rfl, rfl⟩
    · intro m hparse
      rw [received_of_parse hparse]
      exact himp
  have hall : ∀ ev ∈ ahead ++ [⟨.handle deps msg.toJs attemptCtx, r⟩],
      Queued A req connection ev := by
    intro ev hev
    obtain hev | hev := List.mem_append.mp hev
    · exact hqueued ev hev
    · rw [List.mem_singleton.mp hev]
      exact hlast
  by_cases henabled : connection.enabled = true
  · have hread : History.received [⟨.handle deps msg.toJs attemptCtx, r⟩] =
        (if req.topic = some "" then none else some msg.received).toList := by
      rw [← received_replayed hconf hreplay hsent hfound henabled]
      rfl
    have hlive : msg.received.isLiveUpdate = false := by
      rw [hmsg]
      rfl
    have hreceived : History.received (ahead ++ [⟨.handle deps msg.toJs attemptCtx, r⟩]) =
        History.received ahead ++ (if req.topic = some "" then none else some msg.received).toList := by
      rw [← hread]
      exact List.filterMap_append
    rw [first_read_decides hpasses hall hkey hconnects henabled habsent, hreceived]
    cases History.received ahead with
    | nil => by_cases htopic : req.topic = some "" <;> simp [htopic, hlive, henabled]
    | cons first rest => simp [henabled]
  · have hdisabled : connection.enabled = false := Bool.eq_false_iff.mpr henabled
    obtain rfl := queued_disabled hpasses hall hconnects hdisabled
    simp [World.status, habsent, hdisabled]

end Replay

/-! ## A webhook queued ahead of a replay in the shop -/

namespace Shop

/-- The handling of the message that the replay published. -/
def lastHandling : Activity := .handle Shop.deps republished.toJs none

/-- The handling of a live message under a topic. -/
def liveHandling (topic : String) : Activity :=
  (delivery (Shop.message none topic)).handling (Shop.message none topic).toJs

/-- The live message is handled first after the replay. -/
def handledFirst (topic : String) : (liveHandling topic).Record × World :=
  up.perform (liveHandling topic) (replayed up).2

/-- The message of the replay is handled next. -/
def handledLast (topic : String) : lastHandling.Record × World :=
  up.perform lastHandling (handledFirst topic).2

theorem replayed_performs : (Activity.replay Shop.replay).Performs parked
    ((replayed up).1.1, .ok (.replayed (some .error) replay.sessionId)) (replayed up).2 := by
  have hout : (replayed up).1.2.toOption = some (.replayed (some .error) replay.sessionId) := by
    decide +kernel
  have hok : (replayed up).1.2 = .ok (.replayed (some .error) replay.sessionId) := by
    cases hres : (replayed up).1.2 with
    | error e => simp [hres, Except.toOption] at hout
    | ok o => simpa [hres, Except.toOption] using hout
  rw [← hok]
  exact up.performs _ _

/-- What was queued ahead of the replay. -/
def aheadOf (topic : String) : History := [⟨liveHandling topic, (handledFirst topic).1⟩]

theorem handled_passes (topic : String) : (replayed up).2.Passes
    (aheadOf topic ++ [⟨lastHandling, (handledLast topic).1⟩]) (handledLast topic).2 :=
  .cons (up.performs _ _) (.cons (up.performs _ _) (.nil _))

theorem queued_live {topic : String}
    (hok : ∀ ev ∈ (handledFirst topic).1.1, isFailedCall ev = false) :
    Queued admits Shop.replay Shop.connection ⟨liveHandling topic, (handledFirst topic).1⟩ := by
  refine @Queued.intro admits Shop.replay Shop.connection Shop.deps
    (Shop.message none topic).toJs (delivery (Shop.message none topic)).attemptCtx _ _ rfl ?_ ?_
    (smooth rfl hok)
  · intro m hparse
    rw [received_of_parse hparse]
    exact ⟨rfl, rfl, rfl⟩
  · intro m hparse
    rw [received_of_parse hparse]
    exact importable _

theorem importable_republished :
    Importable admits ⟨Shop.deps, Shop.connection, republished.received, none⟩ := by
  have himp := (importable republished).again none
  exact himp

theorem smooth_last {topic : String}
    (hok : ∀ ev ∈ (handledLast topic).1.1, isFailedCall ev = false) :
    Smooth admits (handledLast topic).1.1 := smooth rfl hok

end Shop

/-- A creation that was queued ahead of the replay imports the order. -/
theorem replay_reimports_iff_shop :
    (Shop.handledLast "orders/create").2.status Shop.key = some .synced := by
  have hwf : (Shop.message none "orders/create").WellFormed := Shop.message_wellFormed _ (by decide)
  have hreceived : History.received (Shop.aheadOf "orders/create") =
      [(Shop.message none "orders/create").received] := by
    simp [History.received, Shop.aheadOf, Shop.liveHandling, Delivery.handling, Activity.received,
      Except.toOption, parseOrderWebhookMessage_toJs hwf]
  refine ((replay_reimports_iff Shop.configured_parked Shop.dedupKey_replay rfl
    Shop.replayed_performs Shop.republished_sent (fun ev hev => ?_) rfl
    Shop.importable_republished (@Shop.smooth_last "orders/create" (by decide +kernel))
    (Shop.handled_passes "orders/create")).mpr ⟨rfl, ?_, ?_⟩).1
  · obtain rfl := List.mem_singleton.mp hev
    exact Shop.queued_live (by decide +kernel)
  · intro first hfirst
    rw [hreceived] at hfirst
    obtain rfl := Option.some.inj hfirst
    decide
  · simp [hreceived]

/-- An update that was queued ahead of the replay ignores the order again, and the message of
the replay only answers that it is ignored. -/
theorem update_queued_ahead_defeats_replay :
    ¬∀ (A : Answers) (req : ReplayRequest) (connection : Connection) (deps : OrderHandlerDeps)
      (attemptCtx : Option AttemptContext) (key : String) (tr : List Ev) (w w₁ w₂ : World)
      (previous : Option XrefStatus) (sessionId : String) (msg : OrderWebhookMessage)
      (ahead : History) (r : (Activity.handle deps msg.toJs attemptCtx).Record),
      Configured w.connections → dedupKey req.parts = .ok key →
      w.findById req.environment req.connectionId = some connection → connection.enabled = true →
      (Activity.replay req).Performs w (tr, .ok (.replayed previous sessionId)) w₁ →
      answered (.enqueue sessionId msg) (.ok ()) ∈ tr →
      (∀ ev ∈ ahead, Queued A req connection ev) → deps.environment = req.environment →
      Importable A ⟨deps, connection, msg.received, attemptCtx⟩ → Smooth A r.1 →
      w₁.Passes (ahead ++ [⟨.handle deps msg.toJs attemptCtx, r⟩]) w₂ →
      w₂.status key = some .synced ∧
        orderUpserts (History.calls (ahead ++ [⟨.handle deps msg.toJs attemptCtx, r⟩])) ≠ [] := by
  intro h
  have hsynced := (h Shop.admits Shop.replay Shop.connection Shop.deps none Shop.key _ _ _ _ _ _ _
    (Shop.aheadOf "orders/updated") _
    Shop.configured_parked Shop.dedupKey_replay rfl rfl Shop.replayed_performs
    Shop.republished_sent (fun ev hev => by
      obtain rfl := List.mem_singleton.mp hev
      exact Shop.queued_live (by decide +kernel)) rfl
    Shop.importable_republished (@Shop.smooth_last "orders/updated" (by decide +kernel))
    (Shop.handled_passes "orders/updated")).1
  have hignored : (Shop.handledLast "orders/updated").2.status Shop.key = some .ignored := by
    decide +kernel
  simp [hignored] at hsynced

end DpIntegrator
