import DpIntegrator.Delivery.CursorProgress
import DpIntegrator.Delivery.Ineligible
import DpIntegrator.Delivery.Producers

/-!
# Dropped webhooks

An order whose webhook was dropped is listed by a poll, perhaps by several, and every message
that the polls enqueue for it is handled at some time after. The first message that is handled
imports the order, and the others meet its row.
-/

namespace DpIntegrator

open Effects

variable {A : Answers} {read : String → ℤ} {deps : CatchupDeps} {config : CatchupConfig}
  {connectionId since key : String} {connection : Connection} {shop : List OrderSummary}
  {o : OrderSummary} {tr : List Ev} {w w' : World} {history : History}

/-! ## Handlings about a row -/

/-- The handling of a message about the row of `key`. -/
def Activity.isAbout (key : String) : Activity → Bool
  | handle deps message _ =>
    match parseOrderWebhookMessage message with
    | .ok msg =>
      (dedupKey (orderParts deps.environment msg.connectionId msg.orderGid)).toOption = some key
    | .error _ => false
  | poll .. | replay .. => false

/-- The calls of the handlings about a row. -/
def History.callsAbout (key : String) (history : History) : List Ev :=
  History.calls (history.filter fun ev => ev.1.isAbout key)

theorem History.callsAbout_cons_of_about {ev : Event Activity Activity.Record}
    (h : ev.1.isAbout key = true) :
    History.callsAbout key (ev :: history) = ev.2.1 ++ History.callsAbout key history := by
  simp [callsAbout, h]

theorem History.callsAbout_cons_of_not {ev : Event Activity Activity.Record}
    (h : ev.1.isAbout key = false) :
    History.callsAbout key (ev :: history) = History.callsAbout key history := by
  simp [callsAbout, h]

section Other

variable {hdeps : OrderHandlerDeps} {message : Js.Value} {attemptCtx : Option AttemptContext}
  {res : Except Thrown OrderHandlerOutcome}

theorem Activity.isAbout_iff {msg : ReceivedMessage}
    (hmsg : parseOrderWebhookMessage message = .ok msg) :
    (Activity.handle hdeps message attemptCtx).isAbout key = true ↔
      dedupKey (orderParts hdeps.environment msg.connectionId msg.orderGid) = .ok key := by
  simp only [isAbout, hmsg, decide_eq_true_eq]
  refine ⟨toOption_eq_some, fun hkey => ?_⟩
  rw [hkey]
  rfl

/-- Whatever is handled about other rows, the row stays. -/
theorem handle_row_eq (h : (Activity.handle hdeps message attemptCtx).Performs w (tr, res) w')
    (habout : (Activity.handle hdeps message attemptCtx).isAbout key = false) :
    w'.xref key = w.xref key := by
  have hruns : Settles (handleOrderMessage hdeps message attemptCtx) tr res := h.runs
  have hsteps : w.Steps tr w' := h.steps
  cases handlerRun_of_settles hruns with
  | rejected ht =>
    apply hsteps.row_eq
    obtain rfl | ⟨id, r', rfl, _⟩ := ht <;> simp [World.rowOf]
  | failed id e =>
    apply hsteps.row_eq
    simp [World.rowOf]
  | @delivered msg connection t _ hmsg henv henabled hdeliver =>
    obtain ⟨w₁, hfind, _⟩ := steps_cons.mp hsteps
    obtain ⟨hfound, _⟩ := World.Step.findConnection_ok hfind
    have hd : Delivery.Delivers ⟨hdeps, connection, msg, attemptCtx⟩ message w :=
      ⟨hmsg, henv, hfound.symm, henabled⟩
    apply hd.row_eq h
    have hid : connection.connectionId = msg.connectionId := hd.connectionId_eq
    intro hkey
    rw [Delivery.parts, hid] at hkey
    rw [(Activity.isAbout_iff hmsg).mpr hkey] at habout
    cases habout

end Other

/-- An activity that is not about the row leaves it as it is. -/
theorem PollOrHandling.row_eq {a : Activity} {r : a.Record}
    (h : PollOrHandling A deps config connectionId ⟨a, r⟩) (hperforms : a.Performs w r w')
    (habout : a.isAbout key = false) : w'.xref key = w.xref key := by
  cases h with
  | poll => exact congrFun (pollOneConnection_enqueues hperforms.runs hperforms.steps).1 key
  | handling => exact handle_row_eq hperforms habout

/-! ## Once is enough -/

/-- A handling that imports its order if there is no row. -/
def Rescues (A : Answers) (key : String) (w : World) (ev : Event Activity Activity.Record) : Prop :=
  ∃ d, Importable A d ∧ d.isLiveUpdate = false ∧ SmoothDelivery A key w d ev

theorem Rescues.of_connections {ev : Event Activity Activity.Record} (h : Rescues A key w ev)
    (hconn : w'.connections = w.connections) : Rescues A key w' ev := by
  obtain ⟨d, himp, hlive, hdelivery⟩ := h
  exact ⟨d, himp, hlive, hdelivery.of_connections hconn⟩

/-- With a row, the history changes nothing about it. Induction on the history. -/
theorem rescues_held {row : XrefRow} (h : w.Passes history w')
    (hevents : ∀ ev ∈ history, PollOrHandling A deps config connectionId ev)
    (hrescues : ∀ ev ∈ history, ev.1.isAbout key = true → Rescues A key w ev)
    (hrow : w.xref key = some row) :
    w'.xref key = some row ∧ orderUpserts (History.callsAbout key history) = [] := by
  induction h with
  | nil => exact ⟨hrow, rfl⟩
  | @cons a r w w₁ w' history hperforms _ ih =>
    have hconn : w₁.connections = w.connections := World.Steps.connections_eq hperforms.steps
    have hlater : ∀ ev ∈ history, ev.1.isAbout key = true → Rescues A key w₁ ev :=
      fun ev hev habout => (hrescues ev (List.mem_cons_of_mem _ hev) habout).of_connections hconn
    have hrest := ih (fun ev hev => hevents ev (List.mem_cons_of_mem _ hev)) hlater
    by_cases habout : a.isAbout key = true
    · obtain ⟨d, _, _, hdelivers, hkey, hsmooth⟩ := hrescues _ (List.mem_cons_self ..) habout
      obtain ⟨hforget, hnone, _⟩ := hdelivers.held hkey hsmooth.stores hrow hperforms
      have hrow₁ : w₁.xref key = some row := by
        rw [← World.forget_xref, hforget]
        exact hrow
      obtain ⟨hkept, hnone'⟩ := hrest hrow₁
      refine ⟨hkept, ?_⟩
      rw [History.callsAbout_cons_of_about habout, orderUpserts_append, hnone, hnone']
      rfl
    · have hother : a.isAbout key = false := by simpa using habout
      have hsame := (hevents _ (List.mem_cons_self ..)).row_eq hperforms hother
      rw [History.callsAbout_cons_of_not hother]
      exact hrest (hsame.trans hrow)

/-- Without a row, the first handling about it imports the order, and the rest of the history
changes nothing about it. Induction on the history. -/
theorem rescues_once (h : w.Passes history w')
    (hevents : ∀ ev ∈ history, PollOrHandling A deps config connectionId ev)
    (hrescues : ∀ ev ∈ history, ev.1.isAbout key = true → Rescues A key w ev)
    (hsome : ∃ ev ∈ history, ev.1.isAbout key = true) (habsent : w.xref key = none) :
    w'.status key = some .synced ∧
      (orderUpserts (History.callsAbout key history)).length = 1 := by
  induction h with
  | nil =>
    obtain ⟨ev, hev, _⟩ := hsome
    cases hev
  | @cons a r w w₁ w' history hperforms hpasses ih =>
    have hconn : w₁.connections = w.connections := World.Steps.connections_eq hperforms.steps
    have hlater : ∀ ev ∈ history, ev.1.isAbout key = true → Rescues A key w₁ ev :=
      fun ev hev habout => (hrescues ev (List.mem_cons_of_mem _ hev) habout).of_connections hconn
    have hevents' : ∀ ev ∈ history, PollOrHandling A deps config connectionId ev :=
      fun ev hev => hevents ev (List.mem_cons_of_mem _ hev)
    by_cases habout : a.isAbout key = true
    · obtain ⟨d, himp, hlive, hdelivers, hkey, hsmooth⟩ := hrescues _ (List.mem_cons_self ..) habout
      obtain ⟨_, row, payload, u, hrow, hstatus, _, honce⟩ :=
        hdelivers.imports hkey hlive himp hsmooth habsent hperforms
      obtain ⟨hkept, hnone⟩ := rescues_held hpasses hevents' hlater hrow
      refine ⟨by simp [World.status, hkept, hstatus], ?_⟩
      rw [History.callsAbout_cons_of_about habout, orderUpserts_append, honce, hnone]
      rfl
    · have hother : a.isAbout key = false := by simpa using habout
      have hsame := (hevents _ (List.mem_cons_self ..)).row_eq hperforms hother
      rw [History.callsAbout_cons_of_not hother]
      refine ih hevents' hlater ?_ (hsame.trans habsent)
      obtain ⟨ev, hev, habout'⟩ := hsome
      obtain rfl | hev := List.mem_cons.mp hev
      · exact absurd habout' habout
      · exact ⟨ev, hev, habout'⟩

/-! ## Messages of polls, handled later -/

/-- The handling of a message that was enqueued, where it was enqueued and with calls that all
succeed, for an order that is eligible and mappable. -/
inductive HandledAfter (A : Answers) (deps : CatchupDeps) (connection : Connection)
    (enqueued : List Ev) : Event Activity Activity.Record → Prop
  | intro {hdeps : OrderHandlerDeps} {msg : OrderWebhookMessage} {sessionId : String}
      {attemptCtx : Option AttemptContext} {tr : List Ev} {res : Except Thrown OrderHandlerOutcome}
      (henqueued : answered (.enqueue sessionId msg) (.ok ()) ∈ enqueued)
      (henv : hdeps.environment = deps.environment)
      (himp : Importable A ⟨hdeps, connection, msg.received, attemptCtx⟩) (hsmooth : Smooth A tr) :
      HandledAfter A deps connection enqueued ⟨.handle hdeps msg.toJs attemptCtx, (tr, res)⟩

/-- Every message that is enqueued is handled afterwards. -/
def EachHandled (deps : CatchupDeps) (history : History) : Prop :=
  ∀ before ev after sessionId msg, history = before ++ ev :: after →
    answered (.enqueue sessionId msg) (.ok ()) ∈ ev.2.1 →
    ∃ hdeps attemptCtx, ∃ r : (Activity.handle hdeps msg.toJs attemptCtx).Record,
      hdeps.environment = deps.environment ∧ ⟨.handle hdeps msg.toJs attemptCtx, r⟩ ∈ after

/-- An activity of a history was performed, under the same connections. -/
theorem World.Passes.exists_performs {before after : History} {ev : Event Activity Activity.Record}
    (h : w.Passes (before ++ ev :: after) w') :
    ∃ v v', w.Passes before v ∧ ev.1.Performs v ev.2 v' ∧ v.connections = w.connections := by
  obtain ⟨v, hbefore, hrest⟩ := steps_append.mp h
  obtain ⟨v', hperforms, _⟩ := steps_cons.mp hrest
  exact ⟨v, v', hbefore, hperforms, World.Passes.connections_eq hbefore⟩

/-- The handler enqueues nothing. -/
theorem handle_not_enqueue {hdeps : OrderHandlerDeps} {message : Js.Value}
    {attemptCtx : Option AttemptContext} {res : Except Thrown OrderHandlerOutcome}
    {sessionId : String} {msg : OrderWebhookMessage} {r : Except Thrown Unit}
    (h : Settles (handleOrderMessage hdeps message attemptCtx) tr res) :
    answered (.enqueue sessionId msg) r ∉ tr := by
  intro hmem
  obtain ⟨_, _, hc⟩ | ⟨d, hmain⟩ := handle_main_call h hmem rfl rfl
  · cases hc
  · cases hmain with
    | side hside => cases hside
    | preparatory hprep => cases hprep

/-- What is enqueued in a history of polls are well-formed messages of the poller. -/
theorem exists_catchupMessage {sessionId : String} {msg : OrderWebhookMessage}
    (hconf : Configured w.connections)
    (hfound : w.findById deps.environment connectionId = some connection)
    (henabled : connection.enabled = true) (h : w.Passes history w')
    (hevents : ∀ ev ∈ history, PollOrHandling A deps config connectionId ev)
    (hmem : answered (.enqueue sessionId msg) (.ok ()) ∈ History.calls history) :
    msg.WellFormed ∧ ∃ connection now gid, msg = catchupMessage deps connectionId connection now gid := by
  obtain ⟨ev, hev, hcall⟩ := List.mem_flatMap.mp hmem
  have hevent := hevents ev hev
  obtain ⟨before, after, rfl⟩ := List.append_of_mem hev
  obtain ⟨v, v', _, hperforms, hconn⟩ := h.exists_performs
  cases hevent with
  | poll =>
    have hends := pollOneConnection_ends hperforms.runs
    have hsends := poll_sends (hconn ▸ hconf) hends hperforms.steps hcall
    have hchecked : ∀ connection', v.findById deps.environment connectionId = some connection' →
        connection'.enabled = true := by
      intro connection' hfound'
      rw [World.findById, hconn] at hfound'
      obtain rfl := Option.some.inj (hfound'.symm.trans hfound)
      exact henabled
    obtain ⟨hwf, _⟩ := hsends.acceptable.mpr hchecked
    obtain ⟨connection', now, _, _, _, summary, _, _, _, _, hmsg, _⟩ := hends.of_mem_enqueue hcall
    exact ⟨hwf, connection', now, summary.id, hmsg⟩
  | handling => exact absurd hcall (handle_not_enqueue hperforms.runs)

/-- Handling a message of the poller imports its order if there is no row. -/
theorem HandledAfter.rescues {enqueued : List Ev} {ev : Event Activity Activity.Record}
    (h : HandledAfter A deps connection enqueued ev)
    (hmessages : ∀ sessionId msg, answered (.enqueue sessionId msg) (.ok ()) ∈ enqueued →
      msg.WellFormed ∧ ∃ connection now gid, msg = catchupMessage deps connectionId connection now gid)
    (hfound : w.findById deps.environment connectionId = some connection)
    (henabled : connection.enabled = true) (habout : ev.1.isAbout key = true) :
    Rescues A key w ev := by
  obtain ⟨henqueued, henv, himp, hsmooth⟩ := h
  next hdeps msg sessionId attemptCtx tr res =>
  obtain ⟨hwf, connection', now, gid, rfl⟩ := hmessages sessionId msg henqueued
  have hparsed := parseOrderWebhookMessage_toJs hwf
  have hdelivers : Delivery.Delivers ⟨hdeps, connection, _, attemptCtx⟩ _ w :=
    ⟨hparsed, by rw [henv]; rfl, by rw [henv]; exact hfound, henabled⟩
  refine ⟨_, himp, hdelivers.not_live, .intro hdelivers ?_ hsmooth⟩
  rw [Delivery.parts, hdelivers.connectionId_eq]
  exact (Activity.isAbout_iff hparsed).mp habout

/-- A history that is not about the row leaves it as it is. Induction on the history. -/
theorem quiet_row_eq (h : w.Passes history w')
    (hevents : ∀ ev ∈ history, PollOrHandling A deps config connectionId ev)
    (hnone : ∀ ev ∈ history, ev.1.isAbout key = false) : w'.xref key = w.xref key := by
  induction h with
  | nil => rfl
  | @cons a r w w₁ w' history hperforms _ ih =>
    have hfirst := (hevents _ (List.mem_cons_self ..)).row_eq hperforms
      (hnone _ (List.mem_cons_self ..))
    have hrest := ih (fun ev hev => hevents ev (List.mem_cons_of_mem _ hev)) fun ev hev =>
      hnone ev (List.mem_cons_of_mem _ hev)
    exact hrest.trans hfirst

/-- An order without a row that a poll observes is handled: the poll found no row, so that it
enqueued a message. -/
theorem exists_about (hconf : Configured w.connections)
    (hfound : w.findById deps.environment connectionId = some connection)
    (henabled : connection.enabled = true)
    (hkey : dedupKey (orderParts deps.environment connectionId o.id) = .ok key)
    (habsent : w.xref key = none) (h : w.Passes history w')
    (hevents : ∀ ev ∈ history, PollOrHandling A deps config connectionId ev)
    (heach : EachHandled deps history) (hobs : Observed deps connectionId history o) :
    ∃ ev ∈ history, ev.1.isAbout key = true := by
  obtain ⟨ev, hev, ⟨connection', since', limit, page, hlisted, _⟩, hattended⟩ := hobs
  obtain ⟨before, after, rfl⟩ := List.append_of_mem hev
  obtain ⟨msg, hgid, hmem⟩ | ⟨row, _, hlookup⟩ := hattended
  · have hcall : answered (.enqueue (connectionId ++ ":" ++ o.id) msg) (.ok ()) ∈
        History.calls (before ++ ev :: after) := List.mem_flatMap.mpr ⟨ev, hev, hmem⟩
    obtain ⟨hwf, connection'', now, gid, rfl⟩ :=
      exists_catchupMessage hconf hfound henabled h hevents hcall
    obtain ⟨hdeps, attemptCtx, r, henv, hafter⟩ := heach before ev after _ _ rfl hmem
    refine ⟨_, List.mem_append_right _ (List.mem_cons_of_mem _ hafter), ?_⟩
    apply (Activity.isAbout_iff (parseOrderWebhookMessage_toJs hwf)).mpr
    obtain rfl : gid = o.id := hgid
    rw [henv]
    exact hkey
  · by_contra hnone
    push Not at hnone
    have hbefore : ∀ ev' ∈ before, ev'.1.isAbout key = false := by
      intro ev' hev'
      simpa using hnone ev' (List.mem_append_left _ hev')
    obtain ⟨v, v', hpasses, hperforms, _⟩ := h.exists_performs
    have hrow := quiet_row_eq hpasses
      (fun ev' hev' => hevents ev' (List.mem_append_left _ hev')) hbefore
    have hevent := hevents ev hev
    cases hevent with
    | poll =>
      obtain ⟨key', hkey', hfound'⟩ := poll_lookup hperforms.runs hperforms.steps hlookup
      obtain rfl : key' = key := Except.ok.inj (hkey'.symm.trans hkey)
      rw [hrow, habsent] at hfound'
      cases hfound'
    | handling => exact (handle_quiet hperforms.runs).2 _ _ _ _ hlisted

/-- While the orders stay and no page can be filled by orders of one time, polls of the
connection and the handlings of what they enqueue import every order of the first cursor or
later that had no row, exactly once, wherever the handlings stand. -/
theorem rescued_exactly_once (hties : ∀ v, Paging.ties (OrderSummary.time read) shop v < config.pageSize)
    (hlist : ∀ connection since page,
      A (.listOrdersUpdatedSince connection since config.pageSize) page →
        Paging.IsPage (OrderSummary.time read) shop (read since) config.pageSize page)
    (hconf : Configured w.connections)
    (hfound : w.findById deps.environment connectionId = some connection)
    (henabled : connection.enabled = true) (h : w.Passes history w')
    (hevents : ∀ ev ∈ history, PollOrHandling A deps config connectionId ev)
    (hpolls : shop.length ≤ history.countP fun ev => ev.1.isPoll)
    (hfirst : FirstCursor history since) (ho : o ∈ shop) (hsince : read since ≤ o.time read)
    (hkey : dedupKey (orderParts deps.environment connectionId o.id) = .ok key)
    (habsent : w.xref key = none) (heach : EachHandled deps history)
    (honly : ∀ before ev after, history = before ++ ev :: after → ev.1.isAbout key = true →
      HandledAfter A deps connection (History.calls before) ev) :
    w'.status key = some .synced ∧
      (orderUpserts (History.callsAbout key history)).length = 1 := by
  have hsome : w.findById deps.environment connectionId ≠ none := by simp [hfound]
  obtain ⟨pages, hlength, _, hwalk, hobserved⟩ := exists_walk
    (fun since page => Paging.IsPage (OrderSummary.time read) shop since config.pageSize page)
    hlist h hsome hevents
  have hremaining : Paging.remaining (OrderSummary.time read) shop (read since) ≤ shop.length :=
    List.countP_le_length
  have hpage := (hwalk since hfirst).covers (fun v _ => .inl (hties v)) (by omega) ho hsince
  have habout := exists_about hconf hfound henabled hkey habsent h hevents heach
    ((hobserved o).mpr hpage)
  refine rescues_once h hevents (fun ev hev hev' => ?_) habout habsent
  obtain ⟨before, after, rfl⟩ := List.append_of_mem hev
  obtain ⟨v, v', hbefore, _, _⟩ := h.exists_performs
  refine (honly before ev after rfl hev').rescues (fun sessionId msg hmem => ?_) hfound henabled hev'
  exact exists_catchupMessage hconf hfound henabled hbefore
    (fun ev' hev' => hevents ev' (List.mem_append_left _ hev')) hmem

/-! ## The order of the shop -/

/-- The answers that list pages of `shop`. -/
def ListsPages (read : String → ℤ) (shop : List OrderSummary) : Answers
  | .listOrdersUpdatedSince _ since limit, page =>
    Paging.IsPage (OrderSummary.time read) shop (read since) limit page
  | _, _ => True

theorem Smooth.listsPages (h : Smooth A tr)
    (hlist : ∀ connection since limit page,
      answered (.listOrdersUpdatedSince connection since limit) (.ok page) ∈ tr →
        Paging.IsPage (OrderSummary.time read) shop (read since) limit page) :
    Smooth (fun c r => A c r ∧ ListsPages read shop c r) tr := by
  refine h.also fun c r hmem => ?_
  cases c
  case listOrdersUpdatedSince connection since limit => exact hlist connection since limit r hmem
  all_goals trivial

theorem cases_of_three {α : Type*} {a b c x : α} {before after : List α}
    (h : [a, b, c] = before ++ x :: after) :
    (before = [] ∧ x = a ∧ after = [b, c]) ∨ (before = [a] ∧ x = b) ∨ x = c := by
  rcases before with - | ⟨a', - | ⟨b', - | ⟨c', before⟩⟩⟩ <;> simp_all

namespace Shop

/-- What the services of the shop return when it lists the one order. -/
def listsOne : Answers := fun c r => admits c r ∧ ListsPages readTime [older] c r

/-- A poll, the handling of what it enqueued, and another poll. -/
def again : poll.Record × World := polled (rescued world).2

def threeRuns : History :=
  [⟨poll, (polled world).1⟩, ⟨(delivery rescue).handling rescue.toJs, (rescued world).1⟩,
    ⟨poll, again.1⟩]

theorem threeRuns_passes : world.Passes threeRuns again.2 :=
  .cons (polled_performs world) (.cons (rescued_performs world)
    (.cons (polled_performs _) (.nil _)))

/-- Where an element of the history stands. -/
theorem threeRuns_cases {before after : History} {ev : Event Activity Activity.Record}
    (h : threeRuns = before ++ ev :: after) :
    (before = [] ∧ ev = ⟨poll, (polled world).1⟩ ∧
        ⟨(delivery rescue).handling rescue.toJs, (rescued world).1⟩ ∈ after) ∨
      (before = [⟨poll, (polled world).1⟩] ∧
        ev = ⟨(delivery rescue).handling rescue.toJs, (rescued world).1⟩) ∨
      ev = ⟨poll, again.1⟩ := by
  obtain ⟨rfl, rfl, rfl⟩ | ⟨rfl, rfl⟩ | rfl := cases_of_three h
  · exact .inl ⟨rfl, rfl, List.mem_cons_self ..⟩
  · exact .inr (.inl ⟨rfl, rfl⟩)
  · exact .inr (.inr rfl)

/-- The shop lists its order from the start and from the order on. -/
theorem isPage_older {since : String}
    (h : since = "1969-12-31T00:00:00.000Z" ∨ since = older.updatedAt) :
    Paging.IsPage (OrderSummary.time readTime) [older] (readTime since) 50 [older] := by
  have hpage : Paging.pageOf (OrderSummary.time readTime) [older] (readTime since) 50 = [older] := by
    obtain rfl | rfl := h <;> decide +kernel
  have hsorted : [older].Pairwise fun a b => a.time readTime ≤ b.time readTime := by decide +kernel
  have hall : Paging.IsPage (OrderSummary.time readTime) [older] (readTime since) 50
      (Paging.pageOf (OrderSummary.time readTime) [older] (readTime since) 50) :=
    Paging.isPage_pageOf hsorted
  rwa [hpage] at hall

/-- What the calls of a poll of the shop show. -/
structure PollShows (tr : List Ev) (messages : List (String × OrderWebhookMessage)) : Prop where
  succeed : ∀ ev ∈ tr, isFailedCall ev = false
  listed : ∀ p ∈ tr.filterMap listedBy,
    (p.1 = "1969-12-31T00:00:00.000Z" ∨ p.1 = older.updatedAt) ∧ p.2 = 50
  enqueued : tr.filterMap enqueuedBy = messages

theorem polled_shows :
    PollShows (polled world).1.1 [("conn-a:gid://shopify/Order/1", rescue)] := by
  have h : (∀ ev ∈ (polled world).1.1, isFailedCall ev = false) ∧
      (∀ p ∈ (polled world).1.1.filterMap listedBy,
        (p.1 = "1969-12-31T00:00:00.000Z" ∨ p.1 = older.updatedAt) ∧ p.2 = 50) ∧
      (polled world).1.1.filterMap enqueuedBy = [("conn-a:gid://shopify/Order/1", rescue)] := by
    decide +kernel
  exact ⟨h.1, h.2.1, h.2.2⟩

theorem again_shows : PollShows again.1.1 [] := by
  have h : (∀ ev ∈ again.1.1, isFailedCall ev = false) ∧
      (∀ p ∈ again.1.1.filterMap listedBy,
        (p.1 = "1969-12-31T00:00:00.000Z" ∨ p.1 = older.updatedAt) ∧ p.2 = 50) ∧
      again.1.1.filterMap enqueuedBy = [] := by decide +kernel
  exact ⟨h.1, h.2.1, h.2.2⟩

theorem PollShows.smooth {w : World} {messages : List (String × OrderWebhookMessage)}
    (h : PollShows (polled w).1.1 messages) : Smooth listsOne (polled w).1.1 := by
  have hsmooth : Smooth admits (polled w).1.1 := Shop.smooth rfl h.succeed
  refine hsmooth.listsPages fun connection since limit page hmem => ?_
  obtain ⟨hsince, hlimit⟩ := h.listed (since, limit) (List.mem_filterMap.mpr ⟨_, hmem, rfl⟩)
  obtain rfl : [older] = page := Except.ok.inj (hsmooth.admitted _ page rfl hmem)
  obtain rfl : limit = 50 := hlimit
  exact isPage_older hsince

theorem rescued_settles : Settles (handleOrderMessage Shop.deps rescue.toJs (delivery rescue).attemptCtx)
    (rescued world).1.1 (rescued world).1.2 := (rescued_performs world).runs

theorem rescued_smooth : Smooth listsOne (rescued world).1.1 := by
  have hsmooth : Smooth admits (rescued world).1.1 := smooth rfl (by decide +kernel)
  refine hsmooth.listsPages fun connection since limit page hmem => ?_
  exact absurd hmem ((handle_quiet rescued_settles).2 connection since limit _)

theorem threeRuns_events :
    ∀ ev ∈ threeRuns, PollOrHandling listsOne catchup {} "conn-a" ev := by
  intro ev hev
  obtain ⟨before, after, h⟩ := List.append_of_mem hev
  obtain ⟨_, rfl, _⟩ | ⟨_, rfl⟩ | rfl := threeRuns_cases h
  · exact .poll polled_shows.smooth
  · exact .handling
  · exact .poll again_shows.smooth

theorem threeRuns_eachHandled : EachHandled catchup threeRuns := by
  intro before ev after sessionId msg h hmem
  have henqueued := enqueuedBy_of_mem hmem
  obtain ⟨_, rfl, hafter⟩ | ⟨_, rfl⟩ | rfl := threeRuns_cases h
  · rw [polled_shows.enqueued] at henqueued
    obtain ⟨_, rfl⟩ := Prod.mk.inj (List.mem_singleton.mp henqueued)
    exact ⟨deps, _, _, rfl, hafter⟩
  · exact absurd hmem (handle_not_enqueue rescued_settles)
  · rw [again_shows.enqueued] at henqueued
    cases henqueued

theorem threeRuns_handledAfter (before : History) (ev : Event Activity Activity.Record)
    (after : History) (h : threeRuns = before ++ ev :: after)
    (habout : ev.1.isAbout Shop.key = true) :
    HandledAfter listsOne catchup Shop.connection (History.calls before) ev := by
  obtain ⟨_, rfl, _⟩ | ⟨rfl, rfl⟩ | rfl := threeRuns_cases h
  · cases habout
  · have hcall : answered (.enqueue "conn-a:gid://shopify/Order/1" rescue) (.ok ()) ∈
        History.calls [⟨poll, (polled world).1⟩] :=
      List.mem_flatMap.mpr ⟨_, List.mem_cons_self .., rescue_enqueued⟩
    exact .intro hcall rfl ((importable rescue).mono fun c r (hr : listsOne c r) => hr.1) rescued_smooth
  · cases habout

end Shop

/-- The webhook of the order of the shop was dropped. A poll enqueues it, the handling of the
message imports it, and the next poll finds it imported. -/
theorem rescued_exactly_once_shop : Shop.again.2.status Shop.key = some .synced ∧
    (orderUpserts (History.callsAbout Shop.key Shop.threeRuns)).length = 1 := by
  obtain ⟨connection, limit, page, hlisted⟩ :=
    exists_listed (by decide +kernel : ("1969-12-31T00:00:00.000Z", 50) ∈
      (Shop.polled Shop.world).1.1.filterMap listedBy)
  have hfirst : FirstCursor Shop.threeRuns "1969-12-31T00:00:00.000Z" := .poll hlisted
  have hconf : Configured Shop.world.connections :=
    ⟨by decide +kernel, by decide +kernel, by simp [Shop.world]⟩
  have hties (v : ℤ) : Paging.ties (OrderSummary.time Shop.readTime) [Shop.older] v < 50 :=
    Nat.lt_of_le_of_lt List.countP_le_length (by decide)
  have hfound : Shop.world.findById Shop.catchup.environment "conn-a" = some Shop.connection := by
    rfl
  have hkey : dedupKey (orderParts Shop.catchup.environment "conn-a" Shop.older.id) =
      .ok Shop.key := @Shop.dedupKey_parts Shop.rescue rfl
  have hpolls : [Shop.older].length ≤ Shop.threeRuns.countP fun ev => ev.1.isPoll := by decide +kernel
  have hsince : Shop.readTime "1969-12-31T00:00:00.000Z" ≤ Shop.older.time Shop.readTime := by
    decide +kernel
  exact rescued_exactly_once hties (fun _ _ _ hpage => hpage.2) hconf hfound rfl
    Shop.threeRuns_passes Shop.threeRuns_events hpolls hfirst (List.mem_singleton_self _)
    hsince hkey rfl Shop.threeRuns_eachHandled Shop.threeRuns_handledAfter

end DpIntegrator
