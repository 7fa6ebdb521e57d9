import DpIntegrator.Core.Keys
import DpIntegrator.Delivery.Producers
import DpIntegrator.Delivery.ReportedOnce

/-!
# Topics that create orders

The receiver accepts any topic and the handler holds back live updates only. For an order without a
row, a live delivery of another topic is imported as a creation is. This file finds the live
deliveries that write no order: the updates, and those that stop before the write.
-/

namespace DpIntegrator

open Effects

variable {d : Delivery} {tr t t' rest : List Ev} {l l' : Locals}

/-! ## The way to the write -/

/-- The archive of a fetched order. -/
def archivesOrder (d : Delivery) (order : ShopifyOrder) (t : List Ev) : Prop :=
  ∃ l, SettlesFrom (d.archive order.fields .shopifyOrder none none fun uri l =>
    { l with shopifyPayloadUri := uri }) { order := some order } t (.ok ()) l

/-- The calls of a delivery after its claim come to the write: the order is fetched, it is eligible
and it is prepared. -/
inductive ComesToWrite (d : Delivery) : List Ev → Prop
  | intro {order : ShopifyOrder} {t t' rest : List Ev} {customer : CustomerResolution}
      {payload : NsOrderPayload} (harch : archivesOrder d order t)
      (helig : checkEligibility order d.msg.topic {} = .eligible)
      (hprep : Settles (prepareOrder d order) t' (.ok (.ready customer payload))) :
      ComesToWrite d (fetched d (.ok order) :: (t ++ (t' ++ rest)))

/-- The pipeline, taken apart where it may stop before the write. -/
inductive PipelineRun (d : Delivery) : List Ev → Prop
  | unfetched (e : Thrown) : PipelineRun d [fetched d (.error e)]
  | ineligible {order : ShopifyOrder} {t t' : List Ev} (harch : archivesOrder d order t)
      (helig : checkEligibility order d.msg.topic {} ≠ .eligible) (hquiet : orderUpserts t' = []) :
      PipelineRun d (fetched d (.ok order) :: (t ++ t'))
  | unprepared {order : ShopifyOrder} {t t' : List Ev} {r : Except Thrown PreparedOrder}
      (harch : archivesOrder d order t) (hprep : Settles (prepareOrder d order) t' r)
      (hr : ∀ customer payload, r ≠ .ok (.ready customer payload)) :
      PipelineRun d (fetched d (.ok order) :: (t ++ t'))
  | written {order : ShopifyOrder} {t t' t'' : List Ev} {customer : CustomerResolution}
      {payload : NsOrderPayload} (harch : archivesOrder d order t)
      (helig : checkEligibility order d.msg.topic {} = .eligible)
      (hprep : Settles (prepareOrder d order) t' (.ok (.ready customer payload)))
      (hwrite : orderUpserts t'' ≠ []) :
      PipelineRun d (fetched d (.ok order) :: (t ++ (t' ++ t'')))

theorem archivesOrder.no_upserts {order : ShopifyOrder} (h : archivesOrder d order t) :
    orderUpserts t = [] := by
  obtain ⟨l, h⟩ := h
  rw [← orderUpserts_main, (Delivery.archive_settles h).1]
  rfl

theorem prepareOrder_no_upserts {order : ShopifyOrder} {r : Except Thrown PreparedOrder}
    (h : Settles (prepareOrder d order) t r) : orderUpserts t = [] := by
  refine List.filter_eq_nil_iff.mpr fun ev hev => ?_
  obtain ⟨hprep, _⟩ := (prepares_prepareOrder d order _ _ h).1 ev hev
  simp [not_orderUpsert_of_preparatory hprep]

theorem WriteExit.upserts_ne_nil {customer : CustomerResolution} {payload : NsOrderPayload}
    {res : Except Thrown OrderHandlerOutcome} (h : WriteExit d customer payload t res) :
    orderUpserts t ≠ [] := by
  cases h <;> simp

theorem pipelineRun_of_settles {ended : Except Thrown PipelineEnd}
    (h : SettlesFrom (pipeline d) {} tr ended l) : PipelineRun d tr := by
  obtain ⟨e, rfl, hfetch⟩ | ⟨order, l₁, t₁, t₂, rfl, hfetch, hrest⟩ := settlesFrom_bind.mp h
  · obtain rfl := settles_io.mp (settlesFrom_await.mp hfetch).1
    exact .unfetched e
  obtain ⟨hfetched, rfl⟩ := settlesFrom_await.mp hfetch
  obtain rfl := settles_io.mp hfetched
  obtain ⟨e, rfl, hset⟩ | ⟨u, l₂, t₃, t₄, rfl, hset, hrest₁⟩ := settlesFrom_bind.mp hrest
  · cases (settlesFrom_modify.mp hset).2.1
  obtain ⟨rfl, _, rfl⟩ := settlesFrom_modify.mp hset
  obtain ⟨e, rfl, harch⟩ | ⟨u, l₃, t₅, t₆, rfl, harch, hrest₂⟩ := settlesFrom_bind.mp hrest₁
  · cases (Delivery.archive_settles harch).2
  have harch : archivesOrder d order t₅ := ⟨l₃, harch⟩
  rw [List.nil_append, List.singleton_append]
  split at hrest₂
  · next reason detail helig =>
    refine .ineligible harch (by simp [helig]) ?_
    obtain ⟨e, rfl, hignore⟩ | ⟨o, l₄, t₇, t₈, rfl, hignore, hret⟩ := settlesFrom_bind.mp hrest₂
    · rw [← orderUpserts_main, (ignoreOrder_exit hignore).no_upserts]
    · obtain ⟨rfl, _⟩ := settlesFrom_pure.mp hret
      rw [List.append_nil, ← orderUpserts_main, (ignoreOrder_exit hignore).no_upserts]
  · next helig =>
    obtain ⟨e, rfl, hprep⟩ | ⟨prepared, l₄, t₇, t₈, rfl, hprep, hrest₃⟩ :=
      settlesFrom_bind.mp hrest₂
    · exact .unprepared harch (settlesFrom_await.mp hprep).1 (by simp)
    have hprep := (settlesFrom_await.mp hprep).1
    cases prepared with
    | parked stage detail errorClass =>
      obtain ⟨rfl, _⟩ := settlesFrom_pure.mp hrest₃
      rw [List.append_nil]
      exact .unprepared harch hprep (by simp)
    | ready customer payload =>
      refine .written harch helig hprep ?_
      obtain ⟨e, rfl, hwrite⟩ | ⟨o, l₅, t₉, t₁₀, rfl, hwrite, hret⟩ := settlesFrom_bind.mp hrest₃
      · rw [← orderUpserts_main]
        exact (writeOrder_exit hwrite).upserts_ne_nil
      · obtain ⟨rfl, _⟩ := settlesFrom_pure.mp hret
        rw [List.append_nil, ← orderUpserts_main]
        exact (writeOrder_exit hwrite).upserts_ne_nil

/-- A pipeline writes an order if and only if its calls come to the write. -/
theorem PipelineRun.upserts_iff (h : PipelineRun d t) (rest : List Ev) :
    orderUpserts t ≠ [] ↔ ComesToWrite d (t ++ rest) := by
  constructor
  · intro hup
    cases h with
    | unfetched => exact absurd rfl hup
    | ineligible harch _ hquiet =>
      rw [orderUpserts_cons_of_not rfl, orderUpserts_append, harch.no_upserts, hquiet] at hup
      exact absurd rfl hup
    | unprepared harch hprep =>
      rw [orderUpserts_cons_of_not rfl, orderUpserts_append, harch.no_upserts,
        prepareOrder_no_upserts hprep] at hup
      exact absurd rfl hup
    | written harch helig hprep =>
      rw [List.cons_append, List.append_assoc, List.append_assoc]
      exact .intro harch helig hprep
  · intro hcomes
    generalize htr : t ++ rest = tr at hcomes
    obtain ⟨⟨l₁, harch⟩, helig, hprep⟩ := hcomes
    rename_i order t₁ t₂ rest' customer payload
    -- Up to the prepared order both lists are calls of one program.
    cases h with
    | unfetched => cases (List.cons.inj htr).1
    | ineligible harch' helig' =>
      obtain ⟨hfetch, _⟩ := List.cons.inj htr
      obtain rfl := Except.ok.inj (eq_of_heq (Sigma.mk.inj hfetch).2)
      exact absurd helig helig'
    | unprepared harch' hprep' hr =>
      obtain ⟨hfetch, hcalls⟩ := List.cons.inj htr
      obtain rfl := Except.ok.inj (eq_of_heq (Sigma.mk.inj hfetch).2)
      obtain ⟨l₂, harch'⟩ := harch'
      have hcalls := (List.append_assoc ..).symm.trans hcalls
      obtain ⟨rfl, _⟩ := Runs.eq_of_append harch' harch hcalls
      obtain ⟨_, rfl⟩ := Runs.eq_of_append hprep' hprep (List.append_cancel_left hcalls)
      exact absurd rfl (hr customer payload)
    | written _ _ _ hwrite =>
      rw [orderUpserts_cons_of_not rfl, orderUpserts_append, orderUpserts_append]
      simp [hwrite]

/-- After the claim, only the pipeline writes orders. -/
theorem importClaimedOrder_upserts {res : Except Thrown OrderHandlerOutcome}
    (h : Settles (importClaimedOrder d) tr res) :
    ∃ t rest, tr = t ++ rest ∧ PipelineRun d t ∧ orderUpserts rest = [] := by
  have hattempt : ∀ l tr e, ¬Settles (d.recordAttempt l) tr (.error e) := fun l tr e h => by
    cases (Delivery.recordAttempt_settles h).2
  obtain ⟨l', t₁, t₂, rfl, hbody, hrecord⟩ := (settles_withFinally hattempt).mp h
  have hrecord : orderUpserts t₂ = [] := by
    rw [← orderUpserts_main, (Delivery.recordAttempt_settles hrecord).1]
    rfl
  have himport {t : List Ev} {r : Except Thrown OrderHandlerOutcome} {l : Locals}
      (h : SettlesFrom (importOrder d) {} t r l) :
      ∃ t' rest, t = t' ++ rest ∧ PipelineRun d t' ∧ orderUpserts rest = [] := by
    rw [importOrder_eq] at h
    obtain ⟨e, rfl, hrun⟩ | ⟨ended, l₁, t₃, t₄, rfl, hrun, hend⟩ := settlesFrom_bind.mp h
    · exact ⟨t, [], by simp, pipelineRun_of_settles hrun, rfl⟩
    · refine ⟨t₃, t₄, rfl, pipelineRun_of_settles hrun, ?_⟩
      cases ended with
      | done o =>
        obtain ⟨rfl, _⟩ := settlesFrom_pure.mp hend
        rfl
      | found order stage detail errorClass =>
        obtain ⟨e, rfl, hpark⟩ | ⟨o, l₂, t₅, t₆, rfl, hpark, hfinish⟩ := settlesFrom_bind.mp hend
        · have hpark := parkOutcome_exit (settlesFrom_await.mp hpark).1
          rw [← orderUpserts_main, hpark.no_upserts]
        · have hpark := parkOutcome_exit (settlesFrom_await.mp hpark).1
          obtain ⟨e, rfl, hset⟩ | ⟨v, l₃, t₇, t₈, rfl, hset, hret⟩ := settlesFrom_bind.mp hfinish
          · cases (settlesFrom_modify.mp hset).2.1
          · obtain ⟨rfl, _⟩ := settlesFrom_modify.mp hset
            obtain ⟨rfl, _⟩ := settlesFrom_pure.mp hret
            rw [List.append_nil, List.append_nil, ← orderUpserts_main, hpark.no_upserts]
  obtain ⟨o, rfl, hdone⟩ | ⟨e, l₁, t₃, t₄, rfl, hthrew, hroute⟩ := settlesFrom_tryCatch.mp hbody
  · obtain ⟨t, rest, rfl, hrun, hrest⟩ := himport hdone
    exact ⟨t, rest ++ t₂, by simp, hrun, by simp [hrest, hrecord]⟩
  · obtain ⟨t, rest, rfl, hrun, hrest⟩ := himport hthrew
    have hroute : orderUpserts t₄ = [] := by
      rw [← orderUpserts_main, (routeThrown_exit hroute).no_upserts]
    exact ⟨t, rest ++ (t₄ ++ t₂), by simp, hrun, by simp [hrest, hroute, hrecord]⟩

/-- An import writes an order if and only if its calls come to the write. -/
theorem importClaimedOrder_upserts_iff {res : Except Thrown OrderHandlerOutcome}
    (h : Settles (importClaimedOrder d) tr res) : orderUpserts tr ≠ [] ↔ ComesToWrite d tr := by
  obtain ⟨t, rest, rfl, hrun, hrest⟩ := importClaimedOrder_upserts h
  rw [orderUpserts_append, hrest, List.append_nil]
  exact hrun.upserts_iff rest

/-! ## Live deliveries -/

section Live

variable {webhook : WebhookDeps} {req : NormalizedRequest} {deps : OrderHandlerDeps}
  {msg : OrderWebhookMessage} {attemptCtx : Option AttemptContext} {w w' : World}
  {res : Except Thrown OrderHandlerOutcome}

/-- A message that the receiver enqueued for a request, as it is or without its source. -/
inductive LiveMessage (webhook : WebhookDeps) (req : NormalizedRequest) :
    OrderWebhookMessage → Prop
  | intro {tr : List Ev} {out : Except Thrown WebhookOutcome} {sessionId : String}
      {sent msg : OrderWebhookMessage} (h : Settles (handleShopifyWebhook webhook req) tr out)
      (hsent : answered (.enqueue sessionId sent) (.ok ()) ∈ tr)
      (hmsg : msg = sent ∨ msg = { sent with source := none }) : LiveMessage webhook req msg

theorem LiveMessage.source (h : LiveMessage webhook req msg) :
    msg.source.getD .webhook = .webhook := by
  obtain ⟨h, hsent, hmsg⟩ := h
  obtain ⟨_, _, _, _, _, _, _, _, _, _, _, _, _, _, rfl⟩ :=
    handleShopifyWebhook_of_mem_enqueue h hsent
  obtain rfl | rfl := hmsg <;> rfl

theorem Starts.upserts_nil {opening : List Ev} (h : Starts deps msg.toJs attemptCtx d opening) :
    orderUpserts opening = [] := by
  obtain ⟨_, hopens⟩ := h
  cases hopens <;> rfl

/-- An update of an order without a row writes no order. -/
theorem no_upserts_of_update (hsource : msg.source.getD .webhook = .webhook)
    (htopic : msg.topic = "orders/updated")
    (hnew : ∀ key, dedupKey msg.parts = .ok key → w.xref key = none)
    (h : Exec World.Step (handleOrderMessage deps msg.toJs attemptCtx).run w tr res w') :
    orderUpserts tr = [] := by
  have hsteps := h.steps
  cases handlerRun_of_settles h.runs with
  | rejected ht =>
    obtain rfl | ⟨id, r, rfl, _⟩ := ht
    · rfl
    · rfl
  | failed => rfl
  | @delivered received connection t _ hmsg henv _ hdeliver =>
    obtain rfl := received_of_parse hmsg
    rw [orderUpserts_cons_of_not rfl]
    have hlive : Delivery.isLiveUpdate ⟨deps, connection, msg.received, attemptCtx⟩ = true := by
      simp [Delivery.isLiveUpdate, OrderWebhookMessage.received, hsource, htopic]
    obtain ⟨w₁, hfind, hrest⟩ := steps_cons.mp hsteps
    obtain ⟨hfound, rfl⟩ := World.Step.findConnection_ok hfind
    have hparts : Delivery.parts ⟨deps, connection, msg.received, attemptCtx⟩ = msg.parts := by
      have henv : msg.environment = deps.environment := Environment.text_inj henv
      rw [Delivery.parts, OrderWebhookMessage.parts, orderParts, henv,
        (findById_connectionId hfound.symm).2]
      rfl
    unfold deliver at hdeliver
    rw [if_pos hlive] at hdeliver
    obtain ⟨e, rfl, hlookup⟩ | ⟨found, t₁, t₂, rfl, hlookup, hignore⟩ := settles_bind.mp hdeliver
    · obtain rfl := settles_io.mp hlookup
      rfl
    obtain rfl := settles_io.mp hlookup
    obtain ⟨w₂, hstep, _⟩ := steps_cons.mp hrest
    obtain ⟨key, hkey, rfl, _⟩ := World.Step.lookupXref_ok hstep
    rw [hnew key (by rw [← hparts]; exact hkey)] at hignore
    rw [orderUpserts_append, ← orderUpserts_main t₂, (ignoreUpdate_exit hignore).no_upserts]
    rfl

end Live

namespace Shop

/-- A receiver whose clients sign every body and send the order of the shop. -/
def receiver : WebhookDeps where
  environment := .dev
  containerUrl := "https://archive.example/webhooks"
  parseJson _ := some (.obj [("id", .num 1)])
  hmacMatches _ _ _ := true

/-- The delivery of a topic. -/
def webhookRequest (topic : String) : NormalizedRequest where
  rawBody := "\x7b\"id\":1\x7d"
  headers := [("x-shopify-shop-domain", "a.myshopify.com"), ("x-shopify-hmac-sha256", "c2lnbmVk"),
    ("x-shopify-topic", topic)]

/-- The receipt of a topic, by a receiver that can read the secret and archive the envelope. -/
def received (topic : String) : List Ev × Except Thrown WebhookOutcome × World :=
  let answers : (c : Call) → Except Thrown c.Ret := fun
    | .getSecret _ => .ok "secret"
    | .putEnvelope .. => .ok ()
    | c => up.answers c
  (handleShopifyWebhook receiver (webhookRequest topic)).run.execute
    { answers : Responder }.respond world

/-- The message that the receiver enqueued for a payment of the order. -/
def paidMessage : OrderWebhookMessage :=
  webhookMessage receiver connection "a.myshopify.com" "orders/paid" order.id
    (receiver.containerUrl ++ "/" ++ encodeBlobPath (blobNameFor
      { environment := .dev, connectionId := "conn-a", shopDomain := "a.myshopify.com",
        topic := "orders/paid", orderGid := order.id, hmac := "c2lnbmVk",
        headers := (webhookRequest "orders/paid").headers,
        rawBody := (webhookRequest "orders/paid").rawBody, receivedAt := 0 })) 0

theorem received_settles (topic : String) :
    Settles (handleShopifyWebhook receiver (webhookRequest topic)) (received topic).1
      (received topic).2.1 := (Prog.exec_execute (Responder.step_respond _) _ world).runs

theorem paid_live : LiveMessage receiver (webhookRequest "orders/paid") paidMessage := by
  have hsent : answered (.enqueue "conn-a:gid://shopify/Order/1" paidMessage) (.ok ()) ∈
      (received "orders/paid").1 := mem_of_enqueuedBy (by decide +kernel)
  exact .intro (received_settles "orders/paid") hsent (.inl rfl)

/-- The handling of the payment. -/
def paidRun : List Ev × Except Thrown OrderHandlerOutcome × World :=
  (handleOrderMessage deps paidMessage.toJs firstDelivery.attemptCtx).run.execute up.respond world

theorem paidRun_exec : Exec World.Step (handleOrderMessage deps paidMessage.toJs firstDelivery.attemptCtx).run
    world paidRun.1 paidRun.2.1 paidRun.2.2 := Prog.exec_execute up.step_respond _ world

theorem paidRun_upserts : (orderUpserts paidRun.1).length = 1 := by decide +kernel

end Shop

end DpIntegrator
