import DpIntegrator.Delivery.CreationTopics

/-!
# Acknowledgements

Shopify takes a webhook that was answered with 200 for delivered, and sends one that was
answered with 5xx again. The receiver says 200 exactly when the envelope is archived and the
message about it is on the queue, and 5xx exactly when a call failed.
-/

namespace DpIntegrator

open Effects

variable {deps : WebhookDeps} {req : NormalizedRequest} {connection : Connection}
  {payload : WebhookEnvelopePayload} {tr : List Ev} {out : WebhookOutcome}

/-- The calls before a message have earned it: the shop resolved to an enabled connection, its
secret signs the body as it was received, and the envelope with this body is archived. The
message is about the connection, the envelope and the order that the body names. -/
inductive Earned (deps : WebhookDeps) (req : NormalizedRequest) (before : List Ev)
    (msg : OrderWebhookMessage) : Prop
  | intro {shopDomain hmac topic secret : String} {connection : Connection} {body : Js.Value}
      {payload : WebhookEnvelopePayload}
      (hlooked : looked deps shopDomain (.ok (some connection)) ∈ before)
      (hunsealed : unsealed connection (.ok secret) ∈ before)
      (hverified : Verified deps req shopDomain connection secret hmac topic)
      (harchived : archived payload (.ok ()) ∈ before) (hraw : payload.rawBody = req.rawBody)
      (hconnection : msg.connectionId = connection.connectionId)
      (huri : msg.envelopeBlobUri = envelopeUri deps payload)
      (hbody : deps.parseJson req.rawBody = some body) (hgid : orderGidOf body = some msg.orderGid)

/-- The call failed. -/
def failedCall : Ev → Bool
  | ⟨.io _, .error _⟩ => true
  | _ => false

/-- The receiver acknowledges what is safe, and nothing else. -/
structure SafelyAcknowledged (deps : WebhookDeps) (req : NormalizedRequest) (tr : List Ev)
    (out : WebhookOutcome) : Prop where
  acknowledged : out.status = 200 ↔
    (∃ payload, archived payload (.ok ()) ∈ tr) ∧ (tr.filterMap enqueuedBy).length = 1
  earned : ∀ before sessionId msg r after,
    tr = before ++ answered (.enqueue sessionId msg) r :: after → Earned deps req before msg
  atMostOne : (tr.filterMap enqueuedBy).length ≤ 1
  unacknowledged : out.status ≠ 200 → tr.filterMap enqueuedBy = []
  retried : (500 ≤ out.status ∧ out.status < 600) ↔ ∃ ev ∈ tr, failedCall ev = true

/-- A run without a message is not acknowledged. -/
theorem safelyAcknowledged_of_quiet (hstatus : out.status ≠ 200)
    (hquiet : ∀ sessionId msg r, answered (.enqueue sessionId msg) r ∉ tr)
    (hretried : (500 ≤ out.status ∧ out.status < 600) ↔ ∃ ev ∈ tr, failedCall ev = true) :
    SafelyAcknowledged deps req tr out := by
  have hnone : tr.filterMap enqueuedBy = [] := by
    refine List.eq_nil_iff_forall_not_mem.mpr ?_
    rintro ⟨sessionId, msg⟩ hmem
    exact hquiet _ _ _ (mem_of_enqueuedBy hmem)
  refine ⟨iff_of_false hstatus ?_, ?_, ?_, fun _ => hnone, hretried⟩
  · rintro ⟨_, hlength⟩
    rw [hnone] at hlength
    cases hlength
  · rintro before sessionId msg r after rfl
    exact absurd (by simp) (hquiet sessionId msg r)
  · simp [hnone]

/-- A message can only be the last call. -/
theorem eq_before {calls before after : List Ev} {last ev : Ev}
    (h : calls ++ [last] = before ++ ev :: after) (hev : ev ∉ calls) : calls = before := by
  rcases List.eq_nil_or_concat after with rfl | ⟨init, ev', rfl⟩
  · exact (List.append_inj' h rfl).1
  · have hsplit : calls ++ [last] = (before ++ ev :: init) ++ [ev'] := by simpa using h
    have hcalls := (List.append_inj' hsplit rfl).1
    exact absurd (by simp [hcalls]) hev

/-- The calls before the message. -/
def openingCalls (deps : WebhookDeps) (shopDomain : String) (connection : Connection)
    (secret : String) (payload : WebhookEnvelopePayload) : List Ev :=
  [looked deps shopDomain (.ok (some connection)), unsealed connection (.ok secret),
    ⟨Op.clock, payload.receivedAt⟩, archived payload (.ok ())]

/-- The message is earned, whether or not it arrives. -/
theorem earned_of_sent {shopDomain hmac topic secret orderGid : String} {body : Js.Value}
    {receivedAt : ℤ} {r : Except Thrown Unit}
    (hverified : Verified deps req shopDomain connection secret hmac topic)
    (hbody : deps.parseJson req.rawBody = some body) (hgid : orderGidOf body = some orderGid)
    (hpayload : payload = webhookEnvelope deps req connection shopDomain hmac topic orderGid
      receivedAt) {before after : List Ev} {sessionId : String} {msg : OrderWebhookMessage}
    {r' : Except Thrown Unit}
    (h : openingCalls deps shopDomain connection secret payload ++
      [sentMessage deps connection payload r] =
        before ++ answered (.enqueue sessionId msg) r' :: after) :
    Earned deps req before msg := by
  have hbefore := eq_before h (by simp [openingCalls])
  have hmsg : answered (.enqueue sessionId msg) r' = sentMessage deps connection payload r := by
    rw [hbefore] at h
    have htail := List.append_cancel_left h
    exact (List.cons.inj htail).1.symm
  cases hmsg
  subst hpayload
  rw [← hbefore]
  exact .intro (by simp [openingCalls]) (by simp [openingCalls]) hverified
    (by simp [openingCalls]) rfl rfl rfl hbody hgid

/-- Whatever is asked of the receiver, and whichever of its calls fail: when it answers, it
acknowledges what is safe. -/
theorem handleShopifyWebhook_acknowledges
    (h : Settles (handleShopifyWebhook deps req) tr (.ok out)) :
    SafelyAcknowledged deps req tr out := by
  cases webhookRun_of_settles h with
  | unsigned => exact safelyAcknowledged_of_quiet (by simp) (by simp) (by simp)
  | unknown | disabled =>
    exact safelyAcknowledged_of_quiet (by simp) (by simp) (by simp [failedCall])
  | sealed => exact safelyAcknowledged_of_quiet (by simp) (by simp) (by simp [failedCall])
  | forged | unreadable | anonymous =>
    exact safelyAcknowledged_of_quiet (by simp) (by simp) (by simp [failedCall])
  | accepted hverified hbody hgid haccept =>
    cases haccept with
    | notArchived e =>
      exact safelyAcknowledged_of_quiet (by simp) (by simp) (by simp [failedCall])
    | notEnqueued e =>
      refine ⟨iff_of_false (by simp) fun hone => Nat.zero_ne_one hone.2,
        fun before sessionId msg r after heq => ?_, Nat.zero_le 1, fun _ => rfl,
        by simp [failedCall]⟩
      exact earned_of_sent hverified hbody hgid rfl heq
    | enqueued =>
      refine ⟨iff_of_true rfl ⟨⟨_, .tail _ (.tail _ (.tail _ (.head _)))⟩, rfl⟩,
        fun before sessionId msg r after heq => ?_, Nat.le_refl 1, by simp, by simp [failedCall]⟩
      exact earned_of_sent hverified hbody hgid rfl heq

/-- The creation of the order of the shop is acknowledged. -/
theorem handleShopifyWebhook_acknowledges_create : ∃ out,
    (Shop.received "orders/create").2.1 = .ok out ∧ out.status = 200 ∧
      SafelyAcknowledged Shop.receiver (Shop.webhookRequest "orders/create")
        (Shop.received "orders/create").1 out := by
  have hstatus : (Shop.received "orders/create").2.1.toOption.map (fun out => out.status) =
      some 200 := by decide +kernel
  have hsettles := Shop.received_settles "orders/create"
  cases hout : (Shop.received "orders/create").2.1 with
  | error e =>
    rw [hout] at hstatus
    cases hstatus
  | ok out =>
    rw [hout] at hstatus hsettles
    exact ⟨out, rfl, Option.some.inj hstatus, handleShopifyWebhook_acknowledges hsettles⟩

end DpIntegrator
