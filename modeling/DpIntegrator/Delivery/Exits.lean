import DpIntegrator.Delivery.Trace

/-!
# How a delivery ends

The exits of every part of the handler, each with its main calls and its result. A
relation per part lists them; the theorem beside it says that every run of the part
takes one of them. `deliver_exit` puts the parts together.
-/

namespace DpIntegrator

open Effects

variable {d : Delivery} {tr : List Ev} {l l' : Locals}

/-! ## Optional writes -/

/-- The ledger row of a given shape was written, failed to be, or no ledger is wired. -/
inductive Logged (d : Delivery) (shape : SyncLogShape) : List Ev → Except Thrown Unit → Prop
  | unwired (h : d.deps.orderSyncLog = false) : Logged d shape [] (.ok ())
  | wired (h : d.deps.orderSyncLog = true) (r : Except Thrown Unit) :
      Logged d shape [answered (.upsertSyncLog (d.syncLogInput shape)) r] r

/-- An error record was written, failed to be, or no error store is wired. -/
inductive Recorded (d : Delivery) (input : String → NewErrorInput) :
    List Ev → Except Thrown Unit → Prop
  | unwired (h : d.deps.errorStore = false) : Recorded d input [] (.ok ())
  | badKey {e : Thrown} (hkey : dedupKey d.parts = .error e) : Recorded d input [] (.error e)
  | wired {key : String} (h : d.deps.errorStore = true) (hkey : dedupKey d.parts = .ok key)
      (r : Except Thrown Unit) : Recorded d input [answered (.recordError (input key)) r] r

theorem writeSyncLog_exit {shape : SyncLogShape} {res : Except Thrown Unit}
    (h : Settles (d.writeSyncLog shape) tr res) : Logged d shape (main tr) res := by
  unfold Delivery.writeSyncLog at h
  split at h
  · next hwired =>
    obtain rfl := settles_io.mp h
    rw [main_single rfl rfl]
    exact .wired hwired res
  · next hwired =>
    obtain ⟨rfl, rfl⟩ := settles_pure.mp h
    exact .unwired (by simpa using hwired)

theorem recordError_exit {input : String → NewErrorInput} {res : Except Thrown Unit}
    (h : Settles (d.recordError input) tr res) : Recorded d input (main tr) res := by
  unfold Delivery.recordError at h
  split at h
  · next hwired =>
    obtain ⟨e, rfl, hof⟩ | ⟨key, t₁, t₂, rfl, hof, hio⟩ := settles_bind.mp h
    · obtain ⟨rfl, hkey⟩ := settles_ofExcept.mp hof
      exact .badKey hkey.symm
    · obtain ⟨rfl, hkey⟩ := settles_ofExcept.mp hof
      obtain rfl := settles_io.mp hio
      rw [List.nil_append, main_single rfl rfl]
      exact .wired hwired hkey.symm res
  · next hwired =>
    obtain ⟨rfl, rfl⟩ := settles_pure.mp h
    exact .unwired (by simpa using hwired)

/-! ## Parks -/

/-- The error record of a park. -/
def parkRecord (d : Delivery) (park : ParkInput) (key : String) : NewErrorInput :=
  d.errorInput key park.errorClass ("[" ++ park.stage.text ++ "] " ++ park.detail) park.stack

/-- The ledger row of a park. -/
def parkShape (d : Delivery) (park : ParkInput) : SyncLogShape where
  status := .parked
  order := park.order
  parkStage := park.stage.text
  parkDetail := park.detail
  parkErrorClass := park.errorClass.text
  attemptCtx := d.attemptCtx

/-- The exits of `parkOutcome`. -/
inductive ParkExit (d : Delivery) (park : ParkInput) :
    List Ev → Except Thrown OrderHandlerOutcome → Prop
  | row (e : Thrown) : ParkExit d park [answered (.recordFailure d.parts) (.error e)] (.error e)
  | record {row : XrefRow} {t : List Ev} {e : Thrown}
      (hrecord : Recorded d (parkRecord d park) t (.error e)) :
      ParkExit d park (answered (.recordFailure d.parts) (.ok row) :: t) (.error e)
  | log {row : XrefRow} {t t' : List Ev} {e : Thrown}
      (hrecord : Recorded d (parkRecord d park) t (.ok ()))
      (hlog : Logged d (parkShape d park) t' (.error e)) :
      ParkExit d park (answered (.recordFailure d.parts) (.ok row) :: (t ++ t')) (.error e)
  | parked {row : XrefRow} {t t' : List Ev}
      (hrecord : Recorded d (parkRecord d park) t (.ok ()))
      (hlog : Logged d (parkShape d park) t' (.ok ())) :
      ParkExit d park (answered (.recordFailure d.parts) (.ok row) :: (t ++ t'))
        (.ok (.parked d.connection.connectionId d.msg.orderGid park.stage park.detail
          park.errorClass))

theorem parkOutcome_exit {park : ParkInput} {res : Except Thrown OrderHandlerOutcome}
    (h : Settles (parkOutcome d park) tr res) : ParkExit d park (main tr) res := by
  obtain ⟨e, rfl, hrow⟩ | ⟨row, t₁, t₂, rfl, hrow, hrest⟩ := settles_bind.mp h
  · obtain rfl := settles_io.mp hrow
    rw [main_single rfl rfl]
    exact .row e
  obtain rfl := settles_io.mp hrow
  rw [main_append, main_single rfl rfl, List.singleton_append]
  obtain ⟨e, rfl, hrecord⟩ | ⟨u, t₃, t₄, rfl, hrecord, hrest₁⟩ := settles_bind.mp hrest
  · exact .record (recordError_exit hrecord)
  obtain ⟨e, rfl, htrack⟩ | ⟨u', t₅, t₆, rfl, htrack, hrest₂⟩ := settles_bind.mp hrest₁
  · cases (Delivery.track_settles htrack).2
  obtain ⟨e, rfl, hlog⟩ | ⟨u'', t₇, t₈, rfl, hlog, hrest₃⟩ := settles_bind.mp hrest₂
  · rw [main_append, main_append, (Delivery.track_settles htrack).1, List.nil_append]
    exact .log (recordError_exit hrecord) (writeSyncLog_exit hlog)
  obtain ⟨rfl, rfl⟩ := settles_pure.mp hrest₃
  rw [main_append, main_append, (Delivery.track_settles htrack).1, List.nil_append,
    List.append_nil]
  exact .parked (recordError_exit hrecord) (writeSyncLog_exit hlog)

/-- The exits of `classifyAndRoute` and of the whole catch. -/
inductive RouteExit (d : Delivery) (err : Thrown) :
    List Ev → Except Thrown OrderHandlerOutcome → Prop
  | unreadable (h : err = .null ∨ err = .undefined) (message : String) :
      RouteExit d err [] (.error (typeError message))
  | transient (h : classifyHandlerError d.deps.sdk err = .transient) :
      RouteExit d err [] (.error err)
  | authUnrecorded {input : String → NewErrorInput} {t : List Ev} {e : Thrown}
      (h : classifyHandlerError d.deps.sdk err = .auth) (hrecord : Recorded d input t (.error e)) :
      RouteExit d err t (.error e)
  | auth {t : List Ev} (h : classifyHandlerError d.deps.sdk err = .auth)
      (hrecord : Recorded d (fun key => d.errorInput key .auth err.detail err.stack) t (.ok ())) :
      RouteExit d err t (.error err)
  | parked {park : ParkInput} {t : List Ev} {res : Except Thrown OrderHandlerOutcome}
      (h : shouldRetry (classifyHandlerError d.deps.sdk err) = false)
      (hclass : park.errorClass = classifyHandlerError d.deps.sdk err)
      (hpark : ParkExit d park t res) : RouteExit d err t res

theorem classifyAndRoute_exit {err : Thrown} {order : Option ShopifyOrder}
    {res : Except Thrown OrderHandlerOutcome} (h : Settles (classifyAndRoute d err order) tr res) :
    RouteExit d err (main tr) res := by
  unfold classifyAndRoute at h
  dsimp only at h
  split at h
  · next hretry =>
    split at h
    · next hauth =>
      obtain ⟨e, rfl, hrecord⟩ | ⟨u, t₁, t₂, rfl, hrecord, hrest⟩ := settles_bind.mp h
      · exact .authUnrecorded hauth (recordError_exit hrecord)
      obtain ⟨e, rfl, htrack⟩ | ⟨u', t₃, t₄, rfl, htrack, hrest₁⟩ := settles_bind.mp hrest
      · cases (Delivery.track_settles htrack).2
      obtain ⟨rfl, rfl⟩ := settles_throw.mp hrest₁
      rw [main_append, main_append, (Delivery.track_settles htrack).1, List.nil_append,
        main_nil, List.append_nil]
      have hrecord := recordError_exit hrecord
      rw [hauth] at hrecord
      exact .auth hauth hrecord
    · next hauth =>
      obtain ⟨rfl, rfl⟩ := settles_throw.mp h
      refine .transient ?_
      cases hclass : classifyHandlerError d.deps.sdk err <;> simp_all [shouldRetry]
  · next hretry => exact .parked (by simpa using hretry) rfl (parkOutcome_exit h)

/-! ## The tag and what else follows an import -/

/-- The exits of `writeTag`. -/
inductive TagExit (d : Delivery) (internalId : String) : List Ev → Except Thrown Unit → Prop
  | off (h : d.connection.writeTagsOnImport = false) : TagExit d internalId [] (.ok ())
  | tagged {tags answer : List String} (h : d.connection.writeTagsOnImport = true) :
      TagExit d internalId [answered (.tagOrder d.connection d.msg.orderGid tags) (.ok answer)]
        (.ok ())
  | failed {tags : List String} {e : Thrown} {input : String → NewErrorInput} {t : List Ev}
      {res : Except Thrown Unit} (h : d.connection.writeTagsOnImport = true)
      (hflow : ∀ key, (input key).flow = "order-tag-writeback")
      (hrecord : Recorded d input t res) :
      TagExit d internalId
        (answered (.tagOrder d.connection d.msg.orderGid tags) (.error e) :: t) res

theorem writeTag_exit {internalId : String} {res : Except Thrown Unit}
    (h : Settles (writeTag d internalId) tr res) : TagExit d internalId (main tr) res := by
  unfold writeTag at h
  split at h
  · next hon =>
    obtain ⟨u, rfl, hbody⟩ | ⟨e, t₁, t₂, rfl, hbody, hrecord⟩ := settles_tryCatch.mp h
    · obtain ⟨e, he, _⟩ | ⟨answer, t₁, t₂, rfl, htag, hret⟩ := settles_bind.mp hbody
      · cases he
      obtain rfl := settles_io.mp htag
      obtain ⟨rfl, hu⟩ := settles_pure.mp hret
      cases hu
      rw [List.append_nil, main_single rfl rfl]
      exact .tagged hon
    · obtain ⟨e', he, htag⟩ | ⟨answer, t₃, t₄, rfl, htag, hret⟩ := settles_bind.mp hbody
      · cases he
        obtain rfl := settles_io.mp htag
        rw [main_append, main_single rfl rfl, List.singleton_append]
        exact .failed hon (fun _ => rfl) (recordError_exit hrecord)
      · cases (settles_pure.mp hret).2
  · next hon =>
    obtain ⟨rfl, rfl⟩ := settles_pure.mp h
    exact .off (by simpa using hon)

/-- The ledger row of an import tells the id that NetSuite returned. -/
def SyncLogShape.ImportedAs (shape : SyncLogShape) (internalId : String) : Prop :=
  shape.status = .imported ∧ shape.nsInternalId = some internalId

/-- The exits of `afterImport`. -/
inductive AfterExit (d : Delivery) (internalId : String) : List Ev → Except Thrown Unit → Prop
  | log {shape : SyncLogShape} {t : List Ev} {e : Thrown} (himported : shape.ImportedAs internalId)
      (hlog : Logged d shape t (.error e)) : AfterExit d internalId t (.error e)
  | tag {shape : SyncLogShape} {t t' : List Ev} {res : Except Thrown Unit}
      (himported : shape.ImportedAs internalId) (hlog : Logged d shape t (.ok ()))
      (htag : TagExit d internalId t' res) : AfterExit d internalId (t ++ t') res

theorem afterImport_exit {order : ShopifyOrder} {internalId : String} {uri : Option String}
    {res : Except Thrown Unit} (h : Settles (afterImport d order internalId uri) tr res) :
    AfterExit d internalId (main tr) res := by
  obtain ⟨e, rfl, hnow⟩ | ⟨now, t₁, t₂, rfl, hnow, hrest⟩ := settles_bind.mp h
  · obtain ⟨_, _, he⟩ := settles_now.mp hnow
    cases he
  obtain ⟨_, rfl, _⟩ := settles_now.mp hnow
  obtain ⟨e, rfl, htrack⟩ | ⟨u, t₃, t₄, rfl, htrack, hrest₁⟩ := settles_bind.mp hrest
  · cases (Delivery.track_settles htrack).2
  obtain ⟨e, rfl, hlog⟩ | ⟨u', t₅, t₆, rfl, hlog, htag⟩ := settles_bind.mp hrest₁
  · rw [main_append, main_clock, main_append, (Delivery.track_settles htrack).1]
    exact .log ⟨rfl, rfl⟩ (writeSyncLog_exit hlog)
  · rw [main_append, main_clock, main_append, (Delivery.track_settles htrack).1, main_append,
      List.nil_append, List.nil_append]
    exact .tag ⟨rfl, rfl⟩ (writeSyncLog_exit hlog) (writeTag_exit htag)

/-! ## The pipeline -/

/-- The order upsert of a payload was answered. -/
abbrev upserted (d : Delivery) (payload : NsOrderPayload) (r : Except Thrown UpsertResult) : Ev :=
  answered (.upsertByExternalId (d.orderUpsert payload)) r

/-- The success of the upsert `u` was recorded, or failed to be. -/
abbrev succeeded (d : Delivery) (u : UpsertResult) (r : Except Thrown XrefRow) : Ev :=
  answered (.recordSuccess d.parts u.internalId d.msg.orderGid) r

/-- The order was fetched. -/
abbrev fetched (d : Delivery) (r : Except Thrown ShopifyOrder) : Ev :=
  answered (.getOrder d.connection d.msg.orderGid) r

/-- The exits of `writeOrder`. -/
inductive WriteExit (d : Delivery) (customer : CustomerResolution) (payload : NsOrderPayload) :
    List Ev → Except Thrown OrderHandlerOutcome → Prop
  | upsert (e : Thrown) : WriteExit d customer payload [upserted d payload (.error e)] (.error e)
  | recordSuccess (u : UpsertResult) (e : Thrown) :
      WriteExit d customer payload [upserted d payload (.ok u), succeeded d u (.error e)] (.error e)
  | after {u : UpsertResult} {row : XrefRow} {t : List Ev} {e : Thrown}
      (hafter : AfterExit d u.internalId t (.error e)) :
      WriteExit d customer payload (upserted d payload (.ok u) :: succeeded d u (.ok row) :: t)
        (.error e)
  | imported {u : UpsertResult} {row : XrefRow} {t : List Ev}
      (hafter : AfterExit d u.internalId t (.ok ())) :
      WriteExit d customer payload (upserted d payload (.ok u) :: succeeded d u (.ok row) :: t)
        (.ok (.imported d.connection.connectionId d.msg.orderGid u.internalId u.created customer))

theorem main_upserted {payload : NsOrderPayload} {r : Except Thrown UpsertResult} :
    main [upserted d payload r] = [upserted d payload r] :=
  main_single rfl (by simp [Call.isPreparatory, Delivery.orderUpsert])

/-- The record of the import, and what follows it. -/
theorem recordImport_exit {order : ShopifyOrder} {customer : CustomerResolution}
    {payload : NsOrderPayload} {u : UpsertResult} {res : Except Thrown OrderHandlerOutcome}
    (h : SettlesFrom (do
      let _ ← Scoped.await (Async.io (.recordSuccess d.parts u.internalId d.msg.orderGid))
      let l ← get
      Scoped.await (afterImport d order u.internalId l.outboundPayloadUri)
      finish (.imported d.connection.connectionId d.msg.orderGid u.internalId u.created
        customer)) l tr res l') :
    WriteExit d customer payload (upserted d payload (.ok u) :: main tr) res := by
  obtain ⟨e, rfl, hsuccess⟩ | ⟨row, l₁, t₁, t₂, rfl, hsuccess, hrest⟩ := settlesFrom_bind.mp h
  · obtain rfl := settles_io.mp (settlesFrom_await.mp hsuccess).1
    rw [main_single rfl rfl]
    exact .recordSuccess u e
  obtain rfl := settles_io.mp (settlesFrom_await.mp hsuccess).1
  rw [main_append, main_single rfl rfl, List.singleton_append]
  obtain ⟨e, rfl, hget⟩ | ⟨l₂, l₃, t₃, t₄, rfl, hget, hrest₁⟩ := settlesFrom_bind.mp hrest
  · cases (settlesFrom_get.mp hget).2.1
  obtain ⟨rfl, _, rfl⟩ := settlesFrom_get.mp hget
  rw [List.nil_append]
  obtain ⟨e, rfl, hafter⟩ | ⟨v, l₄, t₅, t₆, rfl, hafter, hrest₂⟩ := settlesFrom_bind.mp hrest₁
  · exact .after (afterImport_exit (settlesFrom_await.mp hafter).1)
  have hafter := afterImport_exit (settlesFrom_await.mp hafter).1
  obtain ⟨e, rfl, hset⟩ | ⟨v', l₅, t₇, t₈, rfl, hset, hrest₃⟩ := settlesFrom_bind.mp hrest₂
  · cases (settlesFrom_modify.mp hset).2.1
  obtain ⟨rfl, _, _⟩ := settlesFrom_modify.mp hset
  obtain ⟨rfl, rfl, _⟩ := settlesFrom_pure.mp hrest₃
  rw [main_append, List.nil_append, main_nil, List.append_nil]
  exact .imported hafter

theorem writeOrder_exit {order : ShopifyOrder} {customer : CustomerResolution}
    {payload : NsOrderPayload} {res : Except Thrown OrderHandlerOutcome}
    (h : SettlesFrom (writeOrder d order customer payload) l tr res l') :
    WriteExit d customer payload (main tr) res := by
  obtain ⟨e, rfl, harch⟩ | ⟨u, l₁, t₁, t₂, rfl, harch, hrest⟩ := settlesFrom_bind.mp h
  · cases (Delivery.archive_settles harch).2
  rw [main_append, (Delivery.archive_settles harch).1, List.nil_append]
  obtain ⟨e, rfl, hset⟩ | ⟨u, l₂, t₃, t₄, rfl, hset, hrest₁⟩ := settlesFrom_bind.mp hrest
  · cases (settlesFrom_modify.mp hset).2.1
  obtain ⟨rfl, _, _⟩ := settlesFrom_modify.mp hset
  rw [List.nil_append]
  obtain ⟨e, rfl, hupsert⟩ | ⟨u, l₃, t₅, t₆, rfl, hupsert, hrest₂⟩ := settlesFrom_bind.mp hrest₁
  · obtain rfl := settles_io.mp (settlesFrom_await.mp hupsert).1
    rw [main_upserted]
    exact .upsert e
  obtain rfl := settles_io.mp (settlesFrom_await.mp hupsert).1
  rw [main_append, main_upserted, List.singleton_append]
  split at hrest₂
  · obtain ⟨e, rfl, hset⟩ | ⟨v, l₄, t₇, t₈, rfl, hset, hrest₃⟩ := settlesFrom_bind.mp hrest₂
    · cases (settlesFrom_modify.mp hset).2.1
    obtain ⟨rfl, _, _⟩ := settlesFrom_modify.mp hset
    obtain ⟨e, rfl, harch⟩ | ⟨v, l₅, t₉, t₁₀, rfl, harch, hrest₄⟩ := settlesFrom_bind.mp hrest₃
    · cases (Delivery.archive_settles harch).2
    rw [List.nil_append, main_append, (Delivery.archive_settles harch).1, List.nil_append]
    exact recordImport_exit hrest₄
  · exact recordImport_exit hrest₂

/-- The exits of the steps that mark a row as ignored. -/
inductive IgnoreExit (d : Delivery) (shape : SyncLogShape) (o : OrderHandlerOutcome) :
    List Ev → Except Thrown OrderHandlerOutcome → Prop
  | row (e : Thrown) : IgnoreExit d shape o [answered (.markIgnored d.parts) (.error e)] (.error e)
  | log {row : XrefRow} {t : List Ev} {e : Thrown} (hlog : Logged d shape t (.error e)) :
      IgnoreExit d shape o (answered (.markIgnored d.parts) (.ok row) :: t) (.error e)
  | ignored {row : XrefRow} {t : List Ev} (hlog : Logged d shape t (.ok ())) :
      IgnoreExit d shape o (answered (.markIgnored d.parts) (.ok row) :: t) (.ok o)

/-- The ledger row of an ineligible order. -/
def ineligibleShape (d : Delivery) (order : ShopifyOrder) (reason : EligibilityReason) :
    SyncLogShape where
  status := .ignored
  order := some order
  ignoredReason := reason.text
  attemptCtx := d.attemptCtx

/-- The outcome of an ineligible order. -/
def ineligible (d : Delivery) (reason : EligibilityReason) (detail : Option String) :
    OrderHandlerOutcome :=
  .ignoredByEligibility d.connection.connectionId d.msg.orderGid reason (truthy detail)

theorem ignoreOrder_exit {order : ShopifyOrder} {reason : EligibilityReason}
    {detail : Option String} {res : Except Thrown OrderHandlerOutcome}
    (h : SettlesFrom (ignoreOrder d order reason detail) l tr res l') :
    IgnoreExit d (ineligibleShape d order reason) (ineligible d reason detail) (main tr) res := by
  obtain ⟨e, rfl, hrow⟩ | ⟨row, l₁, t₁, t₂, rfl, hrow, hrest⟩ := settlesFrom_bind.mp h
  · obtain rfl := settles_io.mp (settlesFrom_await.mp hrow).1
    rw [main_single rfl rfl]
    exact .row e
  obtain rfl := settles_io.mp (settlesFrom_await.mp hrow).1
  rw [main_append, main_single rfl rfl, List.singleton_append]
  obtain ⟨e, rfl, hlog⟩ | ⟨u, l₂, t₃, t₄, rfl, hlog, hrest₁⟩ := settlesFrom_bind.mp hrest
  · exact .log (writeSyncLog_exit (settlesFrom_await.mp hlog).1)
  have hlog := writeSyncLog_exit (settlesFrom_await.mp hlog).1
  obtain ⟨e, rfl, htrack⟩ | ⟨u', l₃, t₅, t₆, rfl, htrack, hrest₂⟩ := settlesFrom_bind.mp hrest₁
  · cases (Delivery.track_settles (settlesFrom_await.mp htrack).1).2
  obtain ⟨e, rfl, hset⟩ | ⟨v, l₄, t₇, t₈, rfl, hset, hrest₃⟩ := settlesFrom_bind.mp hrest₂
  · cases (settlesFrom_modify.mp hset).2.1
  obtain ⟨rfl, _, _⟩ := settlesFrom_modify.mp hset
  obtain ⟨rfl, rfl, _⟩ := settlesFrom_pure.mp hrest₃
  simp only [main_append, (Delivery.track_settles (settlesFrom_await.mp htrack).1).1,
    List.append_nil]
  exact .ignored hlog

/-- How preparing an order can end. -/
abbrev Preparations := ShopifyOrder → Except Thrown PreparedOrder → Prop

/-- The preparations whose calls are among those of `T`. -/
def PreparedIn (d : Delivery) (T : List Ev) : Preparations := fun order r =>
  ∃ t, t ⊆ T ∧ Settles (prepareOrder d order) t r

/-- The exits of `importOrder`. -/
inductive ImportExit (d : Delivery) (P : Preparations) :
    List Ev → Except Thrown OrderHandlerOutcome → Prop
  | fetch (e : Thrown) : ImportExit d P [fetched d (.error e)] (.error e)
  | ineligible {order : ShopifyOrder} {reason : EligibilityReason} {detail : Option String}
      {t : List Ev} {res : Except Thrown OrderHandlerOutcome}
      (helig : checkEligibility order d.msg.topic {} = .ineligible reason detail)
      (hignore : IgnoreExit d (ineligibleShape d order reason) (ineligible d reason detail) t res) :
      ImportExit d P (fetched d (.ok order) :: t) res
  | call {order : ShopifyOrder} {c : Call} {e : Thrown}
      (helig : checkEligibility order d.msg.topic {} = .eligible)
      (hprep : c.isPreparatory = true) (hprepared : P order (.error e)) :
      ImportExit d P [fetched d (.ok order), answered c (.error e)] (.error e)
  | threw {order : ShopifyOrder} {e : Thrown}
      (helig : checkEligibility order d.msg.topic {} = .eligible)
      (hprepared : P order (.error e)) : ImportExit d P [fetched d (.ok order)] (.error e)
  | parked {order : ShopifyOrder} {park : ParkInput} {t : List Ev}
      {res : Except Thrown OrderHandlerOutcome}
      (helig : checkEligibility order d.msg.topic {} = .eligible)
      (hprepared : P order (.ok (.parked park.stage park.detail park.errorClass)))
      (hpark : ParkExit d park t res) : ImportExit d P (fetched d (.ok order) :: t) res
  | written {order : ShopifyOrder} {customer : CustomerResolution} {payload : NsOrderPayload}
      {t : List Ev} {res : Except Thrown OrderHandlerOutcome}
      (helig : checkEligibility order d.msg.topic {} = .eligible)
      (hprepared : P order (.ok (.ready customer payload)))
      (hwrite : WriteExit d customer payload t res) :
      ImportExit d P (fetched d (.ok order) :: t) res

theorem importOrder_exit {T : List Ev} (hT : tr ⊆ T) {res : Except Thrown OrderHandlerOutcome}
    (h : SettlesFrom (importOrder d) l tr res l') :
    ImportExit d (PreparedIn d T) (main tr) res := by
  obtain ⟨e, rfl, hfetch⟩ | ⟨order, l₁, t₁, t₂, rfl, hfetch, hrest⟩ := settlesFrom_bind.mp h
  · obtain rfl := settles_io.mp (settlesFrom_await.mp hfetch).1
    rw [main_single rfl rfl]
    exact .fetch e
  obtain rfl := settles_io.mp (settlesFrom_await.mp hfetch).1
  rw [main_append, main_single rfl rfl, List.singleton_append]
  obtain ⟨e, rfl, hset⟩ | ⟨u, l₂, t₃, t₄, rfl, hset, hrest₁⟩ := settlesFrom_bind.mp hrest
  · cases (settlesFrom_modify.mp hset).2.1
  obtain ⟨rfl, _, _⟩ := settlesFrom_modify.mp hset
  obtain ⟨e, rfl, harch⟩ | ⟨u, l₃, t₅, t₆, rfl, harch, hrest₂⟩ := settlesFrom_bind.mp hrest₁
  · cases (Delivery.archive_settles harch).2
  rw [List.nil_append, main_append, (Delivery.archive_settles harch).1, List.nil_append]
  split at hrest₂
  · next reason detail helig => exact .ineligible helig (ignoreOrder_exit hrest₂)
  · next helig =>
    obtain ⟨e, rfl, hprep⟩ | ⟨prepared, l₄, t₇, t₈, rfl, hprep, hrest₃⟩ :=
      settlesFrom_bind.mp hrest₂
    · have hprep := (settlesFrom_await.mp hprep).1
      have hP : PreparedIn d T order (.error e) :=
        ⟨t₆, fun ev hev => hT (by simp [hev]), hprep⟩
      obtain ⟨_, hquiet | ⟨c, e', hc, hmain, he⟩⟩ := prepares_prepareOrder d order _ _ hprep
      · rw [hquiet]
        exact .threw helig hP
      · cases he
        rw [hmain]
        exact .call helig hc hP
    · have hprep := (settlesFrom_await.mp hprep).1
      have hP : PreparedIn d T order (.ok prepared) :=
        ⟨t₇, fun ev hev => hT (by simp [hev]), hprep⟩
      rw [main_append, (prepares_prepareOrder d order).main_of_ok hprep, List.nil_append]
      cases prepared with
      | parked stage detail errorClass =>
        obtain ⟨e, rfl, hpark⟩ | ⟨o, l₅, t₉, t₁₀, rfl, hpark, hrest₄⟩ :=
          settlesFrom_bind.mp hrest₃
        · exact .parked helig hP (parkOutcome_exit (settlesFrom_await.mp hpark).1)
        · obtain ⟨e, rfl, hset⟩ | ⟨v, l₆, t₁₁, t₁₂, rfl, hset, hrest₅⟩ :=
            settlesFrom_bind.mp hrest₄
          · cases (settlesFrom_modify.mp hset).2.1
          obtain ⟨rfl, _, _⟩ := settlesFrom_modify.mp hset
          obtain ⟨rfl, rfl, _⟩ := settlesFrom_pure.mp hrest₅
          rw [List.append_nil, List.append_nil]
          exact .parked helig hP (parkOutcome_exit (settlesFrom_await.mp hpark).1)
      | ready customer payload => exact .written helig hP (writeOrder_exit hrest₃)

/-! ## The catch and the claim -/

theorem archiveThrown_exit {err : Thrown} {res : Except Thrown Unit}
    (h : SettlesFrom (archiveThrown d err) l tr res l') : main tr = [] ∧
      (res = .ok () ∨
        ((err = .null ∨ err = .undefined) ∧ ∃ message, res = .error (typeError message))) := by
  unfold archiveThrown at h
  split at h
  · obtain ⟨rfl, rfl, _⟩ := settlesFrom_throw.mp h
    exact ⟨rfl, .inr ⟨.inl rfl, _, rfl⟩⟩
  · obtain ⟨rfl, rfl, _⟩ := settlesFrom_throw.mp h
    exact ⟨rfl, .inr ⟨.inr rfl, _, rfl⟩⟩
  · obtain ⟨e, rfl, hset⟩ | ⟨u, l₁, t₁, t₂, rfl, hset, hrest⟩ := settlesFrom_bind.mp h
    · cases (settlesFrom_modify.mp hset).2.1
    obtain ⟨rfl, _, _⟩ := settlesFrom_modify.mp hset
    obtain ⟨hmain, rfl⟩ := Delivery.archive_settles hrest
    exact ⟨hmain, .inl rfl⟩
  · obtain ⟨rfl, rfl, _⟩ := settlesFrom_pure.mp h
    exact ⟨rfl, .inl rfl⟩

theorem routeThrown_exit {err : Thrown} {res : Except Thrown OrderHandlerOutcome}
    (h : SettlesFrom (routeThrown d err) l tr res l') : RouteExit d err (main tr) res := by
  obtain ⟨e, rfl, harch⟩ | ⟨u, l₁, t₁, t₂, rfl, harch, hrest⟩ := settlesFrom_bind.mp h
  · obtain ⟨hmain, hres | ⟨herr, message, hres⟩⟩ := archiveThrown_exit harch
    · cases hres
    · cases hres
      rw [hmain]
      exact .unreadable herr message
  rw [main_append, (archiveThrown_exit harch).1, List.nil_append]
  obtain ⟨e, rfl, hget⟩ | ⟨l₂, l₃, t₃, t₄, rfl, hget, hrest₁⟩ := settlesFrom_bind.mp hrest
  · cases (settlesFrom_get.mp hget).2.1
  obtain ⟨rfl, _, _⟩ := settlesFrom_get.mp hget
  rw [List.nil_append]
  obtain ⟨o, rfl, hbody⟩ | ⟨e, l₄, t₅, t₆, rfl, hbody, hrethrow⟩ := settlesFrom_tryCatch.mp hrest₁
  · obtain ⟨e, he, _⟩ | ⟨o', l₅, t₇, t₈, rfl, hroute, hfinish⟩ := settlesFrom_bind.mp hbody
    · cases he
    obtain ⟨e, he, _⟩ | ⟨v, l₆, t₉, t₁₀, rfl, hset, hret⟩ := settlesFrom_bind.mp hfinish
    · cases he
    obtain ⟨rfl, _, _⟩ := settlesFrom_modify.mp hset
    obtain ⟨rfl, ho, _⟩ := settlesFrom_pure.mp hret
    cases ho
    rw [List.append_nil, List.append_nil]
    exact classifyAndRoute_exit (settlesFrom_await.mp hroute).1
  · obtain ⟨e', he, hset⟩ | ⟨v, l₅, t₇, t₈, rfl, hset, hthrow⟩ := settlesFrom_bind.mp hrethrow
    · cases (settlesFrom_modify.mp hset).2.1
    obtain ⟨rfl, _, _⟩ := settlesFrom_modify.mp hset
    obtain ⟨rfl, rfl, _⟩ := settlesFrom_throw.mp hthrow
    rw [List.append_nil, List.append_nil]
    obtain ⟨e', he, hroute⟩ | ⟨o', l₆, t₉, t₁₀, rfl, hroute, hfinish⟩ := settlesFrom_bind.mp hbody
    · cases he
      exact classifyAndRoute_exit (settlesFrom_await.mp hroute).1
    · obtain ⟨e', he, hset⟩ | ⟨v, l₆, t₁₁, t₁₂, rfl, hset, hret⟩ := settlesFrom_bind.mp hfinish
      · cases (settlesFrom_modify.mp hset).2.1
      · cases (settlesFrom_pure.mp hret).2.1

/-- The exits after a new claim: the body returned, or it threw and the catch took over. -/
inductive ClaimedExit (d : Delivery) (P : Preparations) :
    List Ev → Except Thrown OrderHandlerOutcome → Prop
  | returned {t : List Ev} {o : OrderHandlerOutcome} (himport : ImportExit d P t (.ok o)) :
      ClaimedExit d P t (.ok o)
  | thrown {t t' : List Ev} {e : Thrown} {res : Except Thrown OrderHandlerOutcome}
      (himport : ImportExit d P t (.error e)) (hroute : RouteExit d e t' res) :
      ClaimedExit d P (t ++ t') res

theorem importClaimedOrder_exit {T : List Ev} (hT : tr ⊆ T)
    {res : Except Thrown OrderHandlerOutcome} (h : Settles (importClaimedOrder d) tr res) :
    ClaimedExit d (PreparedIn d T) (main tr) res := by
  have hattempt : ∀ l tr e, ¬Settles (d.recordAttempt l) tr (.error e) := fun l tr e h => by
    cases (Delivery.recordAttempt_settles h).2
  obtain ⟨l', t₁, t₂, rfl, hbody, hrecord⟩ := (settles_withFinally hattempt).mp h
  rw [main_append, (Delivery.recordAttempt_settles hrecord).1, List.append_nil]
  have hT : t₁ ⊆ T := fun ev hev => hT (by simp [hev])
  obtain ⟨o, rfl, himport⟩ | ⟨e, l₁, t₃, t₄, rfl, himport, hroute⟩ := settlesFrom_tryCatch.mp hbody
  · exact .returned (importOrder_exit hT himport)
  · rw [main_append]
    refine .thrown (importOrder_exit (fun ev hev => hT ?_) himport) (routeThrown_exit hroute)
    exact List.mem_append_left _ hev

/-- The outcome of a delivery whose row is held. -/
def Delivery.held (d : Delivery) : ClaimOutcome → OrderHandlerOutcome
  | .alreadySynced => .alreadySynced d.connection.connectionId d.msg.orderGid
  | .ignored => .ignored d.connection.connectionId d.msg.orderGid
  | .alreadyClaimed | .claimed => .alreadyClaimed d.connection.connectionId d.msg.orderGid

/-- The claim was answered. -/
abbrev claimedBy (d : Delivery) (r : Except Thrown ClaimResult) : Ev :=
  answered (.claim d.claimInput) r

/-- The exits of `claimAndImport`. -/
inductive ClaimExit (d : Delivery) (P : Preparations) :
    List Ev → Except Thrown OrderHandlerOutcome → Prop
  | failed (e : Thrown) : ClaimExit d P [claimedBy d (.error e)] (.error e)
  | held {r : ClaimResult} (h : r.outcome ≠ .claimed) :
      ClaimExit d P [claimedBy d (.ok r)] (.ok (d.held r.outcome))
  | claimed {r : ClaimResult} {t : List Ev} {res : Except Thrown OrderHandlerOutcome}
      (h : r.outcome = .claimed) (hclaimed : ClaimedExit d P t res) :
      ClaimExit d P (claimedBy d (.ok r) :: t) res

theorem shortCircuit_exit {o : OrderHandlerOutcome} {res : Except Thrown OrderHandlerOutcome}
    (h : Settles (shortCircuit d o) tr res) : main tr = [] ∧ res = .ok o := by
  obtain ⟨e, rfl, hrecord⟩ | ⟨u, t₁, t₂, rfl, hrecord, hret⟩ := settles_bind.mp h
  · cases (Delivery.recordAttempt_settles hrecord).2
  · obtain ⟨rfl, rfl⟩ := settles_pure.mp hret
    exact ⟨by simp [(Delivery.recordAttempt_settles hrecord).1], rfl⟩

theorem claimAndImport_exit {T : List Ev} (hT : tr ⊆ T) {res : Except Thrown OrderHandlerOutcome}
    (h : Settles (claimAndImport d) tr res) : ClaimExit d (PreparedIn d T) (main tr) res := by
  obtain ⟨e, rfl, hclaim⟩ | ⟨r, t₁, t₂, rfl, hclaim, hrest⟩ := settles_bind.mp h
  · obtain rfl := settles_io.mp hclaim
    rw [main_single rfl rfl]
    exact .failed e
  obtain rfl := settles_io.mp hclaim
  rw [main_append, main_single rfl rfl, List.singleton_append]
  have hheld (hne : r.outcome ≠ .claimed) (hmain : main t₂ = [] ∧ res = .ok (d.held r.outcome)) :
      ClaimExit d (PreparedIn d T) (claimedBy d (.ok r) :: main t₂) res := by
    rw [hmain.1, hmain.2]
    exact .held hne
  split at hrest
  · next hoc => exact hheld (by simp [hoc]) (by rw [hoc]; exact shortCircuit_exit hrest)
  · next hoc => exact hheld (by simp [hoc]) (by rw [hoc]; exact shortCircuit_exit hrest)
  · next hoc => exact hheld (by simp [hoc]) (by rw [hoc]; exact shortCircuit_exit hrest)
  · next hoc =>
    exact .claimed hoc (importClaimedOrder_exit (fun ev hev => hT (by simp [hev])) hrest)

/-! ## The delivery -/

/-- The ledger row of an update that came before its order. -/
def updateShape (d : Delivery) : SyncLogShape where
  status := .ignored
  ignoredReason := EligibilityReason.updateBeforeCreate.text
  attemptCtx := d.attemptCtx

/-- The outcome of an update that came before its order. -/
def updateIgnored (d : Delivery) : OrderHandlerOutcome :=
  .ignoredByEligibility d.connection.connectionId d.msg.orderGid .updateBeforeCreate none

theorem ignoreUpdate_exit {res : Except Thrown OrderHandlerOutcome}
    (h : Settles (ignoreUpdate d) tr res) :
    IgnoreExit d (updateShape d) (updateIgnored d) (main tr) res := by
  obtain ⟨e, rfl, hrow⟩ | ⟨row, t₁, t₂, rfl, hrow, hrest⟩ := settles_bind.mp h
  · obtain rfl := settles_io.mp hrow
    rw [main_single rfl rfl]
    exact .row e
  obtain rfl := settles_io.mp hrow
  rw [main_append, main_single rfl rfl, List.singleton_append]
  obtain ⟨e, rfl, hlog⟩ | ⟨u, t₃, t₄, rfl, hlog, hrest₁⟩ := settles_bind.mp hrest
  · exact .log (writeSyncLog_exit hlog)
  have hlog := writeSyncLog_exit hlog
  obtain ⟨e, rfl, htrack⟩ | ⟨u', t₅, t₆, rfl, htrack, hrest₂⟩ := settles_bind.mp hrest₁
  · cases (Delivery.track_settles htrack).2
  obtain ⟨hmain, rfl⟩ := shortCircuit_exit hrest₂
  simp only [main_append, (Delivery.track_settles htrack).1, hmain, List.append_nil]
  exact .ignored hlog

/-- The row was looked up for a live update. -/
abbrev lookedUp (d : Delivery) (r : Except Thrown (Option XrefRow)) : Ev :=
  answered (.lookupXref d.parts) r

/-- The exits of a delivery for an enabled connection. -/
inductive DeliverExit (d : Delivery) (P : Preparations) :
    List Ev → Except Thrown OrderHandlerOutcome → Prop
  | direct {t : List Ev} {res : Except Thrown OrderHandlerOutcome} (h : d.isLiveUpdate = false)
      (hclaim : ClaimExit d P t res) : DeliverExit d P t res
  | lookup (h : d.isLiveUpdate = true) (e : Thrown) :
      DeliverExit d P [lookedUp d (.error e)] (.error e)
  | unknown {t : List Ev} {res : Except Thrown OrderHandlerOutcome} (h : d.isLiveUpdate = true)
      (hignore : IgnoreExit d (updateShape d) (updateIgnored d) t res) :
      DeliverExit d P (lookedUp d (.ok none) :: t) res
  | known {row : XrefRow} {t : List Ev} {res : Except Thrown OrderHandlerOutcome}
      (h : d.isLiveUpdate = true) (hclaim : ClaimExit d P t res) :
      DeliverExit d P (lookedUp d (.ok (some row)) :: t) res

/-- Every run of a delivery takes one of its exits. -/
theorem deliver_exit {res : Except Thrown OrderHandlerOutcome} (h : Settles (deliver d) tr res) :
    DeliverExit d (PreparedIn d tr) (main tr) res := by
  unfold deliver at h
  split at h
  · next hlive =>
    obtain ⟨e, rfl, hlookup⟩ | ⟨found, t₁, t₂, rfl, hlookup, hrest⟩ := settles_bind.mp h
    · obtain rfl := settles_io.mp hlookup
      rw [main_single rfl rfl]
      exact .lookup hlive e
    obtain rfl := settles_io.mp hlookup
    rw [main_append, main_single rfl rfl, List.singleton_append]
    cases found with
    | none => exact .unknown hlive (ignoreUpdate_exit hrest)
    | some row =>
      have hsub : t₂ ⊆ [lookedUp d (.ok (some row))] ++ t₂ := List.subset_append_right _ _
      exact .known hlive (claimAndImport_exit hsub hrest)
  · next hlive =>
    exact .direct (by simpa using hlive) (claimAndImport_exit (List.Subset.refl _) h)

/-- The connection was looked up. -/
abbrev connectionFound (deps : OrderHandlerDeps) (connectionId : String)
    (r : Except Thrown (Option Connection)) : Ev :=
  answered (.findConnection deps.environment connectionId) r

/-- Every run of the handler rejects the message, fails to look up the connection, or is a
run of a delivery for an enabled connection. -/
inductive HandlerRun (deps : OrderHandlerDeps) (message : Js.Value)
    (attemptCtx : Option AttemptContext) : List Ev → Except Thrown OrderHandlerOutcome → Prop
  | rejected {t : List Ev} {reason : RejectReason} {detail : String}
      (ht : t = [] ∨ ∃ id r, t = [connectionFound deps id (.ok r)] ∧
        ∀ c, r = some c → c.enabled = false) :
      HandlerRun deps message attemptCtx t (.ok (.rejected reason detail))
  | failed (id : String) (e : Thrown) :
      HandlerRun deps message attemptCtx [connectionFound deps id (.error e)] (.error e)
  | delivered {msg : ReceivedMessage} {connection : Connection} {t : List Ev}
      {res : Except Thrown OrderHandlerOutcome} (hmsg : parseOrderWebhookMessage message = .ok msg)
      (henv : msg.environment = deps.environment.text) (henabled : connection.enabled = true)
      (h : Settles (deliver { deps, connection, msg, attemptCtx }) t res) :
      HandlerRun deps message attemptCtx
        (connectionFound deps msg.connectionId (.ok (some connection)) :: t) res

theorem handlerRun_of_settles {deps : OrderHandlerDeps} {message : Js.Value}
    {attemptCtx : Option AttemptContext} {res : Except Thrown OrderHandlerOutcome}
    (h : Settles (handleOrderMessage deps message attemptCtx) tr res) :
    HandlerRun deps message attemptCtx tr res := by
  unfold handleOrderMessage at h
  split at h
  · obtain ⟨rfl, rfl⟩ := settles_pure.mp h
    exact .rejected (.inl rfl)
  · next msg hmsg =>
    split at h
    · obtain ⟨rfl, rfl⟩ := settles_pure.mp h
      exact .rejected (.inl rfl)
    · next henv =>
      obtain ⟨e, rfl, hfind⟩ | ⟨found, t₁, t₂, rfl, hfind, hrest⟩ := settles_bind.mp h
      · obtain rfl := settles_io.mp hfind
        exact .failed _ e
      obtain rfl := settles_io.mp hfind
      cases found with
      | none =>
        obtain ⟨rfl, rfl⟩ := settles_pure.mp hrest
        exact .rejected (.inr ⟨_, none, rfl, by simp⟩)
      | some connection =>
        dsimp only at hrest
        split at hrest
        · next henabled => exact .delivered hmsg (by simpa using henv) henabled hrest
        · next hdisabled =>
          obtain ⟨rfl, rfl⟩ := settles_pure.mp hrest
          exact .rejected (.inr ⟨_, some connection, rfl, by simpa using hdisabled⟩)

end DpIntegrator
