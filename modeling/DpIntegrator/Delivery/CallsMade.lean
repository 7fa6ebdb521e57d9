import DpIntegrator.Delivery.Exits

/-!
# What a delivery calls

Every call of a delivery with its arguments: the order's own rows, the orders and tables of
its connection, and the account of its connection.
-/

namespace DpIntegrator

open Effects

variable {d : Delivery}

/-- The ledger row of an import. -/
def importShape (d : Delivery) (order : ShopifyOrder) (internalId : String) (now : ℤ)
    (uri : Option String) : SyncLogShape where
  status := .imported
  order := some order
  nsAccountId := d.connection.nsAccountId
  nsRecordType := (netsuiteOrderRecordType d.connection).text
  nsInternalId := internalId
  syncedAt := now
  attemptCtx := d.attemptCtx
  lastOutboundPayloadUri := uri

/-- The ledger rows of a delivery. -/
inductive LedgerShape (d : Delivery) : SyncLogShape → Prop
  | imported (order : ShopifyOrder) (internalId : String) (now : ℤ) (uri : Option String) :
      LedgerShape d (importShape d order internalId now uri)
  | parked (park : ParkInput) : LedgerShape d (parkShape d park)
  | ineligible (order : ShopifyOrder) (reason : EligibilityReason) :
      LedgerShape d (ineligibleShape d order reason)
  | update : LedgerShape d (updateShape d)

/-- The calls of a delivery. -/
inductive DeliveryCall (d : Delivery) : Call → Prop
  | lookup : DeliveryCall d (.lookupXref d.parts)
  | claim : DeliveryCall d (.claim d.claimInput)
  | success (targetId : String) : DeliveryCall d (.recordSuccess d.parts targetId d.msg.orderGid)
  | failure : DeliveryCall d (.recordFailure d.parts)
  | ignore : DeliveryCall d (.markIgnored d.parts)
  | error {input : NewErrorInput} (henv : input.environment = d.deps.environment)
      (hconnection : input.connectionId = d.connection.connectionId)
      (hkey : dedupKey d.parts = .ok input.dedupKey) : DeliveryCall d (.recordError input)
  | ledger {shape : SyncLogShape} (h : LedgerShape d shape) :
      DeliveryCall d (.upsertSyncLog (d.syncLogInput shape))
  | attempt {input : OrderAttemptInput} (henv : input.environment = d.deps.environment)
      (hconnection : input.connectionId = d.connection.connectionId)
      (horder : input.shopifyOrderGid = d.msg.orderGid) : DeliveryCall d (.recordAttempt input)
  | payload (payload : Payload) (ctx : PayloadStoreContext) : DeliveryCall d (.putPayload payload ctx)
  | order : DeliveryCall d (.getOrder d.connection d.msg.orderGid)
  | tag (tags : List String) : DeliveryCall d (.tagOrder d.connection d.msg.orderGid tags)
  | upsert (payload : NsOrderPayload) : DeliveryCall d (.upsertByExternalId (d.orderUpsert payload))
  | prepare {c : Call} (h : PreparatoryFor d.connection c) : DeliveryCall d c

/-- An event of a delivery: one of its calls, a reading of the clock or a metric. -/
def Makes (d : Delivery) (ev : Ev) : Prop := ∀ c r, ev = answered c r → DeliveryCall d c

theorem makes_answered {c : Call} (h : DeliveryCall d c) (r : Except Thrown c.Ret) :
    Makes d (answered c r) := by
  intro c' r' heq
  obtain rfl := Op.io.inj (Sigma.mk.inj heq).1
  exact h

theorem makes_io {c : Call} (h : DeliveryCall d c) : Issues (Makes d) (Async.io c) :=
  issues_io (makes_answered h)

theorem makes_track (metric : Metric) : Issues (Makes d) (d.track metric) := by
  unfold Delivery.track
  split
  · exact .observe fun _ => by simp [Makes]
  · exact .pure _

theorem makes_writeSyncLog {shape : SyncLogShape} (h : LedgerShape d shape) :
    Issues (Makes d) (d.writeSyncLog shape) := by
  unfold Delivery.writeSyncLog
  split
  · exact makes_io (.ledger h)
  · exact .pure _

/-- An error record about the order of the delivery. -/
theorem makes_recordError {input : String → NewErrorInput}
    (henv : ∀ key, (input key).environment = d.deps.environment)
    (hconnection : ∀ key, (input key).connectionId = d.connection.connectionId)
    (hkey : ∀ key, (input key).dedupKey = key) : Issues (Makes d) (d.recordError input) := by
  intro tr res h ev hev
  unfold Delivery.recordError at h
  split at h
  · obtain ⟨e, rfl, hdedup⟩ | ⟨key, t₁, t₂, rfl, hdedup, hrecord⟩ := settles_bind.mp h
    · obtain ⟨rfl, _⟩ := settles_ofExcept.mp hdedup
      cases hev
    · obtain ⟨rfl, hparts⟩ := settles_ofExcept.mp hdedup
      obtain rfl := settles_io.mp hrecord
      obtain rfl := List.mem_singleton.mp hev
      exact makes_answered (.error (henv key) (hconnection key) (by rw [hkey, ← hparts])) res
  · obtain ⟨rfl, _⟩ := settles_pure.mp h
    cases hev

theorem makes_recordAttempt (l : Locals) : Issues (Makes d) (d.recordAttempt l) := by
  unfold Delivery.recordAttempt
  split
  · refine Issues.bind (.observe fun _ => by simp [Makes]) fun now => ?_
    exact (issues_quietly (makes_answered (.attempt rfl rfl rfl))).bind fun _ => .pure _
  · exact .pure _

theorem makes_parkOutcome (park : ParkInput) : Issues (Makes d) (parkOutcome d park) := by
  refine (makes_io .failure).bind fun _ => ?_
  refine (makes_recordError (fun _ => rfl) (fun _ => rfl) fun _ => rfl).bind fun _ => ?_
  refine (makes_track _).bind fun _ => ?_
  exact (makes_writeSyncLog (.parked park)).bind fun _ => .pure _

theorem makes_classifyAndRoute (err : Thrown) (order : Option ShopifyOrder) :
    Issues (Makes d) (classifyAndRoute d err order) := by
  unfold classifyAndRoute
  dsimp only
  split
  · split
    · refine (makes_recordError (fun _ => rfl) (fun _ => rfl) fun _ => rfl).bind fun _ => ?_
      exact (makes_track _).bind fun _ => .throw _
    · exact .throw _
  · exact makes_parkOutcome _

theorem makes_prepareOrder (order : ShopifyOrder) : Issues (Makes d) (prepareOrder d order) :=
  (built_prepareOrder d order).issues fun _ r h => makes_answered (.prepare h) r

theorem makes_writeTag (internalId : String) : Issues (Makes d) (writeTag d internalId) := by
  unfold writeTag
  split
  · refine .tryCatch ((makes_io (.tag _)).bind fun _ => .pure _) fun _ => ?_
    exact makes_recordError (fun _ => rfl) (fun _ => rfl) fun _ => rfl
  · exact .pure _

theorem makes_afterImport (order : ShopifyOrder) (internalId : String) (uri : Option String) :
    Issues (Makes d) (afterImport d order internalId uri) := by
  refine Issues.bind (.observe fun _ => by simp [Makes]) fun now => ?_
  refine (makes_track _).bind fun _ => ?_
  exact (makes_writeSyncLog (.imported order internalId now uri)).bind fun _ => makes_writeTag _

/-- The pipeline makes the calls of its delivery, whatever its variables are. -/
abbrev Handles {α : Type} (d : Delivery) (x : Handler α) : Prop :=
  Confined (Makes d) (fun _ : Locals => ()) x

theorem handles_finish (o : OrderHandlerOutcome) : Handles d (finish o) :=
  Confined.bind (.modify fun _ => rfl) fun _ => .pure _

theorem handles_archive {payload : Js.Fields} {kind : PayloadKind}
    {nsAccountId nsRecordType : Option String} {set : Option String → Locals → Locals} :
    Handles d (d.archive payload kind nsAccountId nsRecordType set) := by
  unfold Delivery.archive
  split
  · refine (Confined.await (issues_quietly (makes_answered (.payload _ _)))).bind fun _ => ?_
    exact .modify fun _ => rfl
  · exact .pure _

theorem handles_writeOrder (order : ShopifyOrder) (customer : CustomerResolution)
    (payload : NsOrderPayload) : Handles d (writeOrder d order customer payload) := by
  refine handles_archive.bind fun _ => ?_
  refine Confined.bind (.modify fun _ => rfl) fun _ => ?_
  refine (Confined.await (makes_io (.upsert payload))).bind fun upserted => ?_
  have hrecord : Handles d (do
      let _ ← Scoped.await (Async.io (.recordSuccess d.parts upserted.internalId d.msg.orderGid))
      let l ← get
      Scoped.await (afterImport d order upserted.internalId l.outboundPayloadUri)
      finish (.imported d.connection.connectionId d.msg.orderGid upserted.internalId
        upserted.created customer)) := by
    refine (Confined.await (makes_io (.success _))).bind fun _ => ?_
    refine Confined.get.bind fun l => ?_
    exact (Confined.await (makes_afterImport _ _ _)).bind fun _ => handles_finish _
  dsimp only
  split
  · refine Confined.bind (.modify fun _ => rfl) fun _ => ?_
    exact handles_archive.bind fun _ => hrecord
  · exact hrecord

theorem handles_importOrder : Handles d (importOrder d) := by
  refine (Confined.await (makes_io .order)).bind fun order => ?_
  refine Confined.bind (.modify fun _ => rfl) fun _ => ?_
  refine handles_archive.bind fun _ => ?_
  split
  · refine (Confined.await (makes_io .ignore)).bind fun _ => ?_
    refine (Confined.await (makes_writeSyncLog (.ineligible order _))).bind fun _ => ?_
    exact (Confined.await (makes_track _)).bind fun _ => handles_finish _
  · refine (Confined.await (makes_prepareOrder order)).bind fun prepared => ?_
    cases prepared with
    | parked stage detail errorClass =>
      exact (Confined.await (makes_parkOutcome _)).bind fun _ => handles_finish _
    | ready customer payload => exact handles_writeOrder _ _ _

theorem handles_routeThrown (err : Thrown) : Handles d (routeThrown d err) := by
  have harchive : Handles d (archiveThrown d err) := by
    unfold archiveThrown
    split
    · exact .throw _
    · exact .throw _
    · exact Confined.bind (.modify fun _ => rfl) fun _ => handles_archive
    · exact .pure _
  refine harchive.bind fun _ => Confined.get.bind fun l => ?_
  refine Confined.tryCatch ?_ fun _ => Confined.bind (.modify fun _ => rfl) fun _ => .throw _
  exact (Confined.await (makes_classifyAndRoute _ _)).bind fun _ => handles_finish _

theorem makes_claimAndImport : Issues (Makes d) (claimAndImport d) := by
  refine (makes_io .claim).bind fun claim => ?_
  have hshort (o : OrderHandlerOutcome) : Issues (Makes d) (shortCircuit d o) :=
    (makes_recordAttempt _).bind fun _ => .pure _
  split
  · exact hshort _
  · exact hshort _
  · exact hshort _
  · exact (Confined.tryCatch handles_importOrder handles_routeThrown).withFinally makes_recordAttempt

/-- A delivery makes only calls about its own order, connection and account. -/
theorem makes_deliver : Issues (Makes d) (deliver d) := by
  unfold deliver
  split
  · refine (makes_io .lookup).bind fun found => ?_
    cases found with
    | none =>
      refine (makes_io .ignore).bind fun _ => ?_
      refine (makes_writeSyncLog .update).bind fun _ => (makes_track _).bind fun _ => ?_
      exact (makes_recordAttempt _).bind fun _ => .pure _
    | some row => exact makes_claimAndImport
  · exact makes_claimAndImport

end DpIntegrator
