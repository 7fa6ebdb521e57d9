import DpIntegrator.Functions.Receiver
import DpIntegrator.Delivery.Polls
import DpIntegrator.Delivery.Replays

/-!
# Producers and consumer

Three functions put messages on the order queue: the webhook receiver, the catch-up poller
and the replay. One handler takes them off. What the handler accepts is decided by the
message and the connection table; each producer checks a part of that.
-/

namespace DpIntegrator

open Effects

variable {d : Delivery} {message : Js.Value} {t tr : List Ev} {w w' : World}
  {sessionId : String} {msg : OrderWebhookMessage} {r : Except Thrown Unit}

/-! ## The consumer -/

/-- The dedup key that a call to the xref store is about. -/
def xrefParts : Ev → Option DedupKeyParts
  | ⟨.io (.lookupXref parts), _⟩ | ⟨.io (.recordSuccess parts _ _), _⟩
  | ⟨.io (.recordFailure parts), _⟩ | ⟨.io (.markIgnored parts), _⟩
  | ⟨.io (.deleteXref parts), _⟩ => some parts
  | ⟨.io (.claim input), _⟩ => some input.parts
  | _ => none

/-- A run of the handler accepts its message, and acts on one dedup key. -/
structure ActsOn (parts : DedupKeyParts) (tr : List Ev)
    (out : Except Thrown OrderHandlerOutcome) : Prop where
  accepted : ∀ reason detail, out ≠ .ok (.rejected reason detail)
  only : ∀ ev ∈ tr, ∀ parts', xrefParts ev = some parts' → parts' = parts
  some : (∃ o, out = .ok o) → ∃ ev ∈ tr, xrefParts ev = some parts

section Consumer

variable {P : Preparations} {res : Except Thrown OrderHandlerOutcome} {reason : RejectReason}
  {detail : String}

theorem isMain_of_xrefParts {ev : Ev} {parts : DedupKeyParts} (h : xrefParts ev = some parts) :
    isMain ev = true := by
  unfold xrefParts at h
  split at h <;> first | rfl | cases h

theorem MainCall.xrefParts_eq {ev : Ev} {parts : DedupKeyParts} (h : MainCall d ev)
    (hparts : xrefParts ev = some parts) : parts = d.parts := by
  cases h with
  | side hside => cases hside <;> cases hparts
  | @preparatory c hprep =>
    cases c <;> first | exact absurd hprep Bool.false_ne_true | simp [xrefParts] at hparts
  | fetch | upsert => cases hparts
  | lookup | success | failure | ignore | claim => exact (Option.some.inj hparts).symm

theorem ParkExit.accepted {park : ParkInput} (h : ParkExit d park t res) :
    res ≠ .ok (.rejected reason detail) := by
  cases h <;> simp

theorem RouteExit.accepted {err : Thrown} (h : RouteExit d err t res) :
    res ≠ .ok (.rejected reason detail) := by
  cases h with
  | parked _ _ hpark => exact hpark.accepted
  | unreadable | transient | authUnrecorded | auth => simp

theorem IgnoreExit.accepted {shape : SyncLogShape} {o : OrderHandlerOutcome}
    (h : IgnoreExit d shape o t res) (ho : o ≠ .rejected reason detail) :
    res ≠ .ok (.rejected reason detail) := by
  cases h with
  | row | log => simp
  | ignored => simpa using ho

theorem ImportExit.accepted (h : ImportExit d P t res) : res ≠ .ok (.rejected reason detail) := by
  cases h with
  | fetch | call | threw => simp
  | ineligible _ hignore => exact hignore.accepted (by intro ho; cases ho)
  | parked _ _ hpark => exact hpark.accepted
  | written _ _ hwrite => cases hwrite <;> simp

theorem ClaimExit.accepted (h : ClaimExit d P t res) : res ≠ .ok (.rejected reason detail) := by
  cases h with
  | failed => simp
  | @held r _ => cases houtcome : r.outcome <;> simp [Delivery.held]
  | claimed _ hclaimed =>
    cases hclaimed with
    | returned himport => exact himport.accepted
    | thrown _ hroute => exact hroute.accepted

theorem DeliverExit.accepted (h : DeliverExit d P t res) : res ≠ .ok (.rejected reason detail) := by
  cases h with
  | direct _ hclaim => exact hclaim.accepted
  | lookup => simp
  | unknown _ hignore => exact hignore.accepted (by simp [updateIgnored])
  | known _ hclaim => exact hclaim.accepted

theorem ClaimExit.exists_xref (h : ClaimExit d P t res) : ∃ ev ∈ t, xrefParts ev = some d.parts := by
  cases h with
  | failed | held | claimed => exact ⟨_, List.mem_cons_self .., rfl⟩

/-- Every delivery looks up or claims the row of its order first. -/
theorem DeliverExit.exists_xref (h : DeliverExit d P t res) :
    ∃ ev ∈ t, xrefParts ev = some d.parts := by
  cases h with
  | direct _ hclaim => exact hclaim.exists_xref
  | lookup | unknown | known => exact ⟨_, List.mem_cons_self .., rfl⟩

/-- The handling of a message for an enabled connection acts on the key of its order. -/
theorem Delivery.Delivers.actsOn (hd : d.Delivers message w)
    (h : (d.handling message).Performs w (tr, res) w') : ActsOn d.parts tr res := by
  have hfound {r : Except Thrown (Option Connection)} {parts : DedupKeyParts} :
      xrefParts (connectionFound d.deps d.msg.connectionId r) ≠ some parts := by simp [xrefParts]
  obtain ⟨e, rfl, rfl, _⟩ | ⟨t, rfl, hdeliver, _⟩ := hd.performs h
  · refine ⟨by simp, fun ev hev parts hparts => ?_, by simp⟩
    rw [List.mem_singleton.mp hev] at hparts
    exact absurd hparts hfound
  · have hexit := deliver_exit hdeliver
    refine ⟨fun reason detail => hexit.accepted, fun ev hev parts hparts => ?_, fun _ => ?_⟩
    · obtain rfl | hev := List.mem_cons.mp hev
      · exact absurd hparts hfound
      · have hmain : ev ∈ main t := List.mem_filter.mpr ⟨hev, isMain_of_xrefParts hparts⟩
        exact (hexit.main_calls ev hmain).xrefParts_eq hparts
    · obtain ⟨ev, hev, hparts⟩ := hexit.exists_xref
      exact ⟨ev, List.mem_cons_of_mem _ (mem_of_mem_main hev), hparts⟩

end Consumer

/-! ## What makes a message acceptable -/

/-- What `parseConnectionsConfig` and the constructor of the table check: ids and shops are
there, and no two connections of an environment have one id. -/
structure Configured (connections : List Connection) : Prop where
  connectionId : ∀ c ∈ connections, c.connectionId ≠ ""
  shopifyStore : ∀ c ∈ connections, c.shopifyStore ≠ ""
  distinct : connections.Pairwise fun c c' =>
    c.environment = c'.environment → c.connectionId ≠ c'.connectionId

/-- The message is well formed, and its connection enabled. -/
def Acceptable (w : World) (msg : OrderWebhookMessage) : Prop :=
  msg.WellFormed ∧ ∃ connection,
    w.findById msg.environment msg.connectionId = some connection ∧ connection.enabled = true

/-- Every handling of the message under the same environment and connections, at any time,
acts on the key. -/
def Agreed (w : World) (msg : OrderWebhookMessage) (parts : DedupKeyParts) : Prop :=
  ∀ deps attemptCtx w₁ w₂ tr out, deps.environment = msg.environment →
    w₁.connections = w.connections →
    (Activity.handle deps msg.toJs attemptCtx).Performs w₁ (tr, out) w₂ → ActsOn parts tr out

/-- The key of the order that a message is about. -/
def OrderWebhookMessage.parts (msg : OrderWebhookMessage) : DedupKeyParts :=
  orderParts msg.environment msg.connectionId msg.orderGid

theorem findById_connectionId {environment : Environment} {id : String} {connection : Connection}
    (h : w.findById environment id = some connection) :
    connection.environment = environment ∧ connection.connectionId = id := by
  have hfound := List.find?_some h
  simpa [Bool.and_eq_true, decide_eq_true_eq] using hfound

theorem Acceptable.agreed (h : Acceptable w msg) : Agreed w msg msg.parts := by
  obtain ⟨hwf, connection, hfound, henabled⟩ := h
  intro deps attemptCtx w₁ w₂ tr out henv hconn hperforms
  have hd : Delivery.Delivers ⟨deps, connection, msg.received, attemptCtx⟩ msg.toJs w₁ :=
    ⟨parseOrderWebhookMessage_toJs hwf, by rw [henv]; rfl,
      by rw [World.findById, hconn, henv]; exact hfound, henabled⟩
  have hparts : Delivery.parts ⟨deps, connection, msg.received, attemptCtx⟩ = msg.parts := by
    rw [Delivery.parts, OrderWebhookMessage.parts, orderParts, henv,
      (findById_connectionId hfound).2]
    rfl
  rw [← hparts]
  exact hd.actsOn hperforms

/-- A message that is not acceptable is rejected when it is handled. -/
theorem exists_rejected (h : ¬Acceptable w msg) (deps : OrderHandlerDeps)
    (henv : deps.environment = msg.environment) :
    ∃ tr reason detail, (Activity.handle deps msg.toJs none).Performs w
      (tr, .ok (.rejected reason detail)) w := by
  have hperforms {tr : List Ev} {o : OrderHandlerOutcome}
      (hruns : Settles (handleOrderMessage deps msg.toJs none) tr (.ok o)) (hsteps : w.Steps tr w) :
      (Activity.handle deps msg.toJs none).Performs w (tr, .ok o) w := ⟨hruns, hsteps⟩
  cases hparse : parseOrderWebhookMessage msg.toJs with
  | error detail =>
    refine ⟨[], .badMessageShape, detail, hperforms ?_ (.nil _)⟩
    simp [handleOrderMessage, hparse]
  | ok m =>
    obtain rfl := received_of_parse hparse
    have hwf := wellFormed_of_parse hparse
    have hsame : msg.received.environment = deps.environment.text := by rw [henv]; rfl
    have hfind : World.Step (.io (.findConnection deps.environment msg.connectionId)) w
        (.ok (w.findById msg.environment msg.connectionId)) w := by
      rw [← henv]
      exact @World.Step.served _ w w 0 _ rfl
    refine ⟨[connectionFound deps msg.connectionId
        (.ok (w.findById msg.environment msg.connectionId))], .unknownConnection,
      "connectionId=" ++ msg.connectionId, hperforms ?_ (.cons hfind (.nil _))⟩
    simp only [handleOrderMessage, hparse, hsame, ne_eq, not_true_eq_false, if_false]
    refine settles_bind_ok.mpr ⟨_, _, [], rfl, settles_io.mpr rfl, ?_⟩
    cases hfound : w.findById msg.environment msg.connectionId with
    | none => exact settles_pure.mpr ⟨rfl, rfl⟩
    | some connection =>
      have hdisabled : ¬connection.enabled = true := fun henabled =>
        h ⟨hwf, connection, hfound, henabled⟩
      simp only [hdisabled]
      exact settles_pure.mpr ⟨rfl, rfl⟩

/-! ## The producers -/

/-- A function that puts messages on the order queue. -/
inductive Producer
  | webhook (deps : WebhookDeps) (req : NormalizedRequest)
  | poll (deps : CatchupDeps) (config : CatchupConfig) (connectionId : String)
  | replay (req : ReplayRequest)

namespace Producer

@[reducible] def Out : Producer → Type
  | webhook .. => WebhookOutcome
  | poll .. => ConnectionCatchupOutcome
  | replay .. => ReplayOutcome

def program : (p : Producer) → Async p.Out
  | webhook deps req => handleShopifyWebhook deps req
  | poll deps config connectionId => pollOneConnection deps config connectionId
  | replay req => requestReplay req

/-- The environment under which a producer runs. -/
def environment : Producer → Environment
  | webhook deps _ => deps.environment
  | poll deps .. => deps.environment
  | replay req => req.environment

/-- The orders that a producer is asked about: the one that a webhook or a request names, or
those of the page that a poll lists. -/
inductive Asked (w : World) (tr : List Ev) : Producer → DedupKeyParts → Prop
  | webhook {deps : WebhookDeps} {req : NormalizedRequest} {shopDomain : String}
      {connection : Connection} {body : Js.Value} {orderGid : String}
      (hshop : req.header "x-shopify-shop-domain" = some shopDomain)
      (hfound : w.findByShopDomain deps.environment shopDomain = some connection)
      (hbody : deps.parseJson req.rawBody = some body) (hgid : orderGidOf body = some orderGid) :
      Asked w tr (.webhook deps req)
        (orderParts deps.environment connection.connectionId orderGid)
  | poll {deps : CatchupDeps} {config : CatchupConfig} {connectionId : String}
      {connection : Connection} {since : String} {orders : List OrderSummary}
      {summary : OrderSummary}
      (hlisted : answered (.listOrdersUpdatedSince connection since config.pageSize) (.ok orders) ∈ tr)
      (hsummary : summary ∈ orders) :
      Asked w tr (.poll deps config connectionId)
        (orderParts deps.environment connectionId summary.id)
  | replay {req : ReplayRequest} : Asked w tr (.replay req) req.parts

/-- What a producer does not check itself: that the connection is enabled, and that the
topic it was given is not empty. -/
def Checked (w : World) : Producer → Prop
  | webhook .. => True
  | poll deps _ connectionId => ∀ connection,
      w.findById deps.environment connectionId = some connection → connection.enabled = true
  | replay req => (∀ connection,
      w.findById req.environment req.connectionId = some connection → connection.enabled = true) ∧
      req.topic ≠ some ""

end Producer

/-- A call in a list of calls was answered at some time, under the same connections. -/
theorem World.Steps.exists_step {ev : Ev} (h : w.Steps tr w') (hev : ev ∈ tr) :
    ∃ v v', World.Step ev.1 v ev.2 v' ∧ v.connections = w.connections := by
  obtain ⟨t₁, t₂, rfl⟩ := List.append_of_mem hev
  obtain ⟨v, hsteps, hrest⟩ := steps_append.mp h
  obtain ⟨v', hstep, _⟩ := steps_cons.mp hrest
  exact ⟨v, v', hstep, World.Steps.connections_eq hsteps⟩

theorem World.Steps.found {environment : Environment} {id : String} {found : Option Connection}
    (h : w.Steps tr w') (hev : answered (.findConnection environment id) (.ok found) ∈ tr) :
    found = w.findById environment id := by
  obtain ⟨v, v', hstep, hconn⟩ := h.exists_step hev
  obtain ⟨hfound, _⟩ := World.Step.findConnection_ok hstep
  rwa [World.findById, hconn] at hfound

theorem World.Steps.exists_key {parts : DedupKeyParts} {existing : Option XrefRow}
    (h : w.Steps tr w') (hev : answered (.lookupXref parts) (.ok existing) ∈ tr) :
    ∃ key, dedupKey parts = .ok key := by
  obtain ⟨v, v', hstep, _⟩ := h.exists_step hev
  obtain ⟨key, hkey, _⟩ := World.Step.lookupXref_ok hstep
  exact ⟨key, hkey⟩

/-! ## What each producer sends -/

/-- The message names the order that the producer was asked about, in the order's session;
and it is acceptable if and only if the producer's unchecked inputs are. -/
structure Sends (p : Producer) (w : World) (tr : List Ev) (sessionId : String)
    (msg : OrderWebhookMessage) : Prop where
  environment : msg.environment = p.environment
  asked : p.Asked w tr msg.parts
  session : sessionId = msg.connectionId ++ ":" ++ msg.orderGid
  acceptable : Acceptable w msg ↔ p.Checked w

theorem Js.toISOString_ne_empty (t : ℤ) : Js.toISOString t ≠ "" := by
  intro h
  have hlength := congrArg String.length h
  simp [Js.toISOString] at hlength

section Poll

variable {deps : CatchupDeps} {config : CatchupConfig} {connectionId : String}
  {out : Except Thrown ConnectionCatchupOutcome}

/-- A message of a poll is about an order of the page, whose row was looked up. -/
theorem PollEnds.of_mem_enqueue (h : PollEnds deps config connectionId tr out)
    (hmem : answered (.enqueue sessionId msg) r ∈ tr) :
    ∃ connection now existing orders t summary row,
      tr = listing deps config connectionId connection now existing orders ++ t ∧
      summary ∈ orders ∧ sessionId = connectionId ++ ":" ++ summary.id ∧
      msg = catchupMessage deps connectionId connection now summary.id ∧
      answered (.lookupXref (orderParts deps.environment connectionId summary.id)) (.ok row) ∈ t := by
  have hlisting {connection : Connection} {now : ℤ} {existing : Option SyncWatermarkRow}
      {orders : List OrderSummary} : answered (.enqueue sessionId msg) r ∉
        listing deps config connectionId connection now existing orders := by simp [listing]
  cases h with
  | idle hidle => cases hidle _ hmem
  | skipped => simp at hmem
  | broken h =>
    obtain ⟨summary, hs, hid, hmsg, row, hlookup⟩ :=
      h.of_mem_enqueue ((List.mem_append.mp hmem).resolve_left hlisting)
    exact ⟨_, _, _, _, _, summary, row, rfl, hs, hid, hmsg, hlookup⟩
  | unset h =>
    obtain hmem | hmem := List.mem_append.mp ((List.mem_append.mp hmem).resolve_left hlisting)
    · obtain ⟨summary, hs, hid, hmsg, row, hlookup⟩ := h.of_mem_enqueue hmem
      exact ⟨_, _, _, _, _, summary, row, rfl, hs, hid, hmsg, List.mem_append_left _ hlookup⟩
    · cases List.mem_singleton.mp hmem
  | polled h hpost =>
    obtain hmem | hmem := List.mem_append.mp ((List.mem_append.mp hmem).resolve_left hlisting)
    · obtain ⟨summary, hs, hid, hmsg, row, hlookup⟩ := h.of_mem_enqueue hmem
      exact ⟨_, _, _, _, _, summary, row, rfl, hs, hid, hmsg, List.mem_append_left _ hlookup⟩
    · obtain heq | hmem := List.mem_cons.mp hmem
      · cases heq
      · obtain ⟨_, hmetric⟩ := hpost _ hmem
        cases hmetric

theorem poll_sends (hconf : Configured w.connections)
    (h : PollEnds deps config connectionId tr out) (hsteps : w.Steps tr w')
    (hmem : answered (.enqueue sessionId msg) r ∈ tr) :
    Sends (.poll deps config connectionId) w tr sessionId msg := by
  obtain ⟨connection, now, existing, orders, t, summary, row, rfl, hsummary, rfl, rfl, hlookup⟩ :=
    h.of_mem_enqueue hmem
  have hfound : some connection = w.findById deps.environment connectionId :=
    hsteps.found (by simp [listing])
  obtain ⟨key, hkey⟩ := hsteps.exists_key (List.mem_append_right _ hlookup)
  have hvalid := (dedupKeyWith_eq_ok.mp hkey).1
  have hin : connection ∈ w.connections := List.mem_of_find?_eq_some hfound.symm
  have hwf : (catchupMessage deps connectionId connection now summary.id).WellFormed :=
    ⟨(hvalid _ (by simp [DedupKeyParts.values, orderParts, catchupMessage])).1,
      hconf.shopifyStore _ hin, by simp [catchupMessage],
      (hvalid _ (by simp [DedupKeyParts.values, orderParts, catchupMessage])).1,
      by simp [catchupMessage], Js.toISOString_ne_empty _⟩
  have hlisted : answered (.listOrdersUpdatedSince connection (fromCursor config now existing)
      config.pageSize) (.ok orders) ∈
      listing deps config connectionId connection now existing orders ++ t := by simp [listing]
  refine ⟨rfl, .poll hlisted hsummary, rfl, ⟨?_, fun hchecked => ⟨hwf, connection, hfound.symm,
    hchecked connection hfound.symm⟩⟩⟩
  rintro ⟨_, connection', hfound', henabled⟩ connection'' hfound''
  obtain rfl := Option.some.inj (hfound'.symm.trans hfound'')
  exact henabled

end Poll

section Replay

variable {req : ReplayRequest} {out : Except Thrown ReplayOutcome}

theorem exists_mem_of_enqueue_republish {connection : Connection} {existing : Option XrefRow}
    (h : Settles (republish req connection existing) tr out)
    (hmem : answered (.enqueue sessionId msg) r ∈ tr) :
    ∃ now, sessionId = req.sessionId ∧ msg = req.body connection now := by
  obtain ⟨now, r', rfl, _⟩ := republish_sends h
  obtain hmem | hmem := List.mem_append.mp hmem
  · cases List.mem_singleton.mp hmem
  · cases List.mem_singleton.mp hmem
    exact ⟨now, rfl, rfl⟩

/-- A replay that publishes has found the connection and looked up the row. -/
theorem requestReplay_of_mem_enqueue (h : Settles (requestReplay req) tr out)
    (hmem : answered (.enqueue sessionId msg) r ∈ tr) : ∃ connection existing now,
      answered (.findConnection req.environment req.connectionId) (.ok (some connection)) ∈ tr ∧
      answered (.lookupXref req.parts) (.ok existing) ∈ tr ∧ sessionId = req.sessionId ∧
      msg = req.body connection now := by
  unfold requestReplay at h
  obtain ⟨e, rfl, hfind⟩ | ⟨found, t₁, t₂, rfl, hfind, hrest⟩ := settles_bind.mp h
  · obtain rfl := settles_io.mp hfind
    cases List.mem_singleton.mp hmem
  obtain rfl := settles_io.mp hfind
  cases found with
  | none =>
    obtain ⟨rfl, rfl⟩ := settles_pure.mp hrest
    cases List.mem_singleton.mp hmem
  | some connection =>
  obtain ⟨e, rfl, hlookup⟩ | ⟨existing, t₃, t₄, rfl, hlookup, hrest₁⟩ := settles_bind.mp hrest
  · obtain rfl := settles_io.mp hlookup
    simp at hmem
  obtain rfl := settles_io.mp hlookup
  suffices hsent : ∃ now, sessionId = req.sessionId ∧ msg = req.body connection now by
    obtain ⟨now, hsession, hbody⟩ := hsent
    exact ⟨connection, existing, now, by simp, by simp, hsession, hbody⟩
  have hlater : answered (.enqueue sessionId msg) r ∈ t₄ := by simpa using hmem
  cases existing with
  | none => exact exists_mem_of_enqueue_republish hrest₁ hlater
  | some row =>
    dsimp only at hrest₁
    by_cases hrefused : row.status = .synced ∧ req.force = false
    · rw [if_pos hrefused] at hrest₁
      obtain ⟨rfl, rfl⟩ := settles_pure.mp hrest₁
      cases hlater
    rw [if_neg hrefused] at hrest₁
    obtain ⟨e, rfl, hdelete⟩ | ⟨removed, t₅, t₆, rfl, hdelete, hrest₂⟩ := settles_bind.mp hrest₁
    · obtain rfl := settles_io.mp hdelete
      cases List.mem_singleton.mp hlater
    obtain rfl := settles_io.mp hdelete
    obtain hlater | hlater := List.mem_append.mp hlater
    · cases List.mem_singleton.mp hlater
    · exact exists_mem_of_enqueue_republish hrest₂ hlater

theorem replay_sends (hconf : Configured w.connections) (h : Settles (requestReplay req) tr out)
    (hsteps : w.Steps tr w') (hmem : answered (.enqueue sessionId msg) r ∈ tr) :
    Sends (.replay req) w tr sessionId msg := by
  obtain ⟨connection, existing, now, hfind, hlookup, rfl, rfl⟩ := requestReplay_of_mem_enqueue h hmem
  have hfound := hsteps.found hfind
  obtain ⟨key, hkey⟩ := hsteps.exists_key hlookup
  have hvalid := (dedupKeyWith_eq_ok.mp hkey).1
  have hin : connection ∈ w.connections := List.mem_of_find?_eq_some hfound.symm
  refine ⟨rfl, .replay, rfl, ?_⟩
  constructor
  · rintro ⟨hwf, connection', hfound', henabled⟩
    refine ⟨fun connection'' hfound'' => ?_, fun htopic => ?_⟩
    · obtain rfl := Option.some.inj (hfound'.symm.trans hfound'')
      exact henabled
    · exact hwf.topic (by simp [ReplayRequest.body, htopic])
  · rintro ⟨hchecked, htopic⟩
    refine ⟨⟨?_, hconf.shopifyStore _ hin, ?_, ?_, ?_, Js.toISOString_ne_empty _⟩, connection,
      hfound.symm, hchecked connection hfound.symm⟩
    · exact (hvalid _ (by simp [DedupKeyParts.values, ReplayRequest.parts, ReplayRequest.body])).1
    · cases hreq : req.topic with
      | none => simp [ReplayRequest.body, hreq]
      | some topic =>
        intro hempty
        exact htopic (by simpa [ReplayRequest.body, hreq] using hempty)
    · exact (hvalid _ (by simp [DedupKeyParts.values, ReplayRequest.parts, ReplayRequest.body])).1
    · simp [ReplayRequest.body]

end Replay

section Webhook

variable {deps : WebhookDeps} {req : NormalizedRequest} {connection : Connection}
  {shopDomain hmac topic orderGid : String} {out : Except Thrown WebhookOutcome}

/-- A webhook that enqueues has found its enabled connection and read the id of its order. -/
theorem handleShopifyWebhook_of_mem_enqueue (h : Settles (handleShopifyWebhook deps req) tr out)
    (hmem : answered (.enqueue sessionId msg) r ∈ tr) :
    ∃ shopDomain topic connection body orderGid path receivedAt,
      req.header "x-shopify-shop-domain" = some shopDomain ∧
      req.header "x-shopify-topic" = some topic ∧
      answered (.findByShopDomain deps.environment shopDomain) (.ok (some connection)) ∈ tr ∧
      connection.enabled = true ∧ deps.parseJson req.rawBody = some body ∧
      orderGidOf body = some orderGid ∧
      sessionId = sessionKeyFor connection.connectionId orderGid ∧
      msg = webhookMessage deps connection shopDomain topic orderGid
        (deps.containerUrl ++ "/" ++ encodeBlobPath path) receivedAt := by
  cases webhookRun_of_settles h with
  | unsigned | notLooked | unknown | disabled | sealed | forged | unreadable | anonymous =>
    simp at hmem
  | @accepted shopDomain hmac topic secret orderGid connection body receivedAt t _ hverified hbody
      hgid haccept =>
    have hlast : answered (.enqueue sessionId msg) r ∈ t := by simpa using hmem
    have hsent := haccept.of_mem_enqueue hlast
    obtain ⟨hsession, hmsg⟩ := hsent
    exact ⟨shopDomain, topic, connection, body, orderGid, _, receivedAt, hverified.signed.shop,
      hverified.signed.topic, List.mem_cons_self .., hverified.enabled, hbody, hgid, hsession, hmsg⟩

theorem NormalizedRequest.header_ne_empty {name value : String}
    (h : req.header name = some value) : value ≠ "" := by
  have hfilter := (Option.filter_eq_some_iff.mp h).2
  simpa using hfilter

/-- Where ids are distinct, a connection of the table is found by its own id. -/
theorem Configured.findById_self (hconf : Configured w.connections)
    (hmem : connection ∈ w.connections) :
    w.findById connection.environment connection.connectionId = some connection := by
  unfold World.findById
  obtain ⟨_, _, hdistinct⟩ := hconf
  generalize w.connections = connections at hmem hdistinct
  induction connections with
  | nil => cases hmem
  | cons c connections ih =>
    obtain ⟨hfirst, hrest⟩ := List.pairwise_cons.mp hdistinct
    obtain rfl | hmem := List.mem_cons.mp hmem
    · simp
    · have hne : ¬(c.environment = connection.environment ∧
          c.connectionId = connection.connectionId) :=
        fun hsame => hfirst connection hmem hsame.1 hsame.2
      rw [List.find?_cons_of_neg (by simpa using hne)]
      exact ih hmem hrest

theorem webhook_sends (hconf : Configured w.connections)
    (h : Settles (handleShopifyWebhook deps req) tr out) (hsteps : w.Steps tr w')
    (hmem : answered (.enqueue sessionId msg) r ∈ tr) :
    Sends (.webhook deps req) w tr sessionId msg := by
  obtain ⟨shopDomain, topic, connection, body, orderGid, path, receivedAt, hshop, htopic, hfind,
    henabled, hbody, hgid, rfl, rfl⟩ := handleShopifyWebhook_of_mem_enqueue h hmem
  obtain ⟨v, v', hstep, hconn⟩ := hsteps.exists_step hfind
  obtain ⟨hfound, _⟩ := World.Step.findByShopDomain_ok hstep
  have hfound' : w.findByShopDomain deps.environment shopDomain = some connection := by
    rw [World.findByShopDomain, ← hconn]
    exact hfound.symm
  have hin : connection ∈ w.connections := List.mem_of_find?_eq_some hfound'
  have henv : connection.environment = deps.environment := by
    have hpred := List.find?_some hfound'
    simp only [Bool.and_eq_true, decide_eq_true_eq] at hpred
    exact hpred.1
  have hself := hconf.findById_self hin
  rw [henv] at hself
  have hne : orderGid ≠ "" := by
    unfold orderGidOf at hgid
    dsimp only at hgid
    split at hgid
    · cases hgid
    · obtain rfl := Option.some.inj hgid
      simp
  refine ⟨rfl, .webhook hshop hfound' hbody hgid, rfl, iff_of_true ⟨?_, connection, hself,
    henabled⟩ trivial⟩
  exact ⟨hconf.connectionId _ hin, NormalizedRequest.header_ne_empty hshop,
    NormalizedRequest.header_ne_empty htopic, hne, by simp [webhookMessage],
    Js.toISOString_ne_empty _⟩

end Webhook

/-! ## Agreement -/

/-- A message that a producer put on the queue is about an order that the producer was asked
about, in the session of that order, and every handling of it acts on the key of that order. -/
structure AgreesWithConsumer (p : Producer) (w : World) (tr : List Ev) (sessionId : String)
    (msg : OrderWebhookMessage) : Prop where
  environment : msg.environment = p.environment
  asked : p.Asked w tr msg.parts
  session : sessionId = msg.connectionId ++ ":" ++ msg.orderGid
  agreed : Agreed w msg msg.parts

theorem Producer.sends {p : Producer} {out : Except Thrown p.Out}
    (hconf : Configured w.connections) (h : Exec World.Step p.program.run w tr out w')
    (hmem : answered (.enqueue sessionId msg) r ∈ tr) : Sends p w tr sessionId msg := by
  cases p with
  | webhook deps req => exact webhook_sends hconf h.runs h.steps hmem
  | poll deps config connectionId =>
    exact poll_sends hconf (pollOneConnection_ends h.runs) h.steps hmem
  | replay req => exact replay_sends hconf h.runs h.steps hmem

/-- A message agrees with the consumer if and only if the producer's unchecked inputs are fit:
the connection of a poll or a replay is enabled, and no empty topic is asked for. -/
theorem agrees_with_consumer_iff {p : Producer} {out : Except Thrown p.Out}
    (hconf : Configured w.connections) (h : Exec World.Step p.program.run w tr out w')
    (hmem : answered (.enqueue sessionId msg) (.ok ()) ∈ tr) :
    AgreesWithConsumer p w tr sessionId msg ↔ p.Checked w := by
  have hsends := p.sends hconf h hmem
  rw [← hsends.acceptable]
  constructor
  · intro hagrees
    by_contra hnot
    let deps : OrderHandlerDeps := { Shop.deps with environment := msg.environment }
    obtain ⟨t, reason, detail, hrejected⟩ := exists_rejected hnot deps rfl
    exact (hagrees.agreed deps none w w t _ rfl rfl hrejected).accepted reason detail rfl
  · intro hacceptable
    exact ⟨hsends.environment, hsends.asked, hsends.session, hacceptable.agreed⟩

/-! ## Replays in the shop -/

namespace Shop

/-- Stores in which the order is parked, and the connection is disabled. -/
def disabled : World := { parked with connections := [{ connection with enabled := false }] }

theorem configured_disabled : Configured disabled.connections where
  connectionId := by simp [disabled, connection]
  shopifyStore := by simp [disabled, connection]
  distinct := List.pairwise_singleton _ _

theorem configured_parked : Configured parked.connections where
  connectionId := by simp [parked, world, connection]
  shopifyStore := by simp [parked, world, connection]
  distinct := List.pairwise_singleton _ _

end Shop

/-- A replay in the shop agrees with the consumer. -/
theorem agrees_with_consumer_iff_shop :
    AgreesWithConsumer (.replay Shop.replay) Shop.parked (Shop.replayed Shop.up).1.1
      Shop.replay.sessionId Shop.republished := by
  have hexec : Exec World.Step (Producer.replay Shop.replay).program.run Shop.parked
      (Shop.replayed Shop.up).1.1 (Shop.replayed Shop.up).1.2 (Shop.replayed Shop.up).2 :=
    Shop.up.performs (.replay Shop.replay) Shop.parked
  refine (agrees_with_consumer_iff Shop.configured_parked hexec Shop.republished_sent).mpr
    ⟨fun connection hfound => ?_, by simp [Shop.replay]⟩
  have hin : connection ∈ Shop.parked.connections := List.mem_of_find?_eq_some hfound
  obtain rfl := List.mem_singleton.mp hin
  rfl

/-- A replay for the disabled connection succeeds, and its message is rejected. -/
theorem replay_disagrees_with_consumer :
    ¬∀ (p : Producer) (w w' : World) (tr : List Ev) (out : Except Thrown p.Out)
      (sessionId : String) (msg : OrderWebhookMessage), Configured w.connections →
      Exec World.Step p.program.run w tr out w' →
      answered (.enqueue sessionId msg) (.ok ()) ∈ tr → AgreesWithConsumer p w tr sessionId msg := by
  intro h
  have hsent : answered (.enqueue Shop.replay.sessionId Shop.republished) (.ok ()) ∈
      (Shop.up.perform (.replay Shop.replay) Shop.disabled).1.1 :=
    mem_of_enqueuedBy (by decide +kernel)
  have hexec := Shop.up.performs (.replay Shop.replay) Shop.disabled
  have hagrees := h (.replay Shop.replay) _ _ _ _ _ _ Shop.configured_disabled hexec hsent
  have hsends := replay_sends Shop.configured_disabled hexec.runs hexec.steps hsent
  have hnot : ¬Acceptable Shop.disabled Shop.republished := by
    rw [hsends.acceptable]
    intro hchecked
    have henabled := hchecked.1 { Shop.connection with enabled := false } rfl
    cases henabled
  obtain ⟨t, reason, detail, hrejected⟩ := exists_rejected hnot Shop.deps rfl
  exact (hagrees.agreed Shop.deps none _ _ t _ rfl rfl hrejected).accepted reason detail rfl

end DpIntegrator
