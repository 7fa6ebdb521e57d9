import DpIntegrator.Delivery.Attempts

/-!
# Reports of a failing order

A failing order is reported by an error record, a park metric and a row of the ledger. The pipeline
reports the failures that it finds itself inside the body whose catch reports what is thrown, so
that a failing report is followed by another one. This file tells the two reports apart and finds
when the second can be seen.
-/

namespace DpIntegrator

open Effects

variable {d : Delivery} {tr t t' : List Ev} {l l' : Locals}

/-! ## Reports -/

/-- An error record of the import was written. -/
def isImportRecord : Ev → Bool
  | ⟨.io (.recordError input), .ok _⟩ => input.flow = "order-import"
  | _ => false

/-- A park metric was emitted. -/
def isParkMetric : Ev → Bool
  | ⟨.track (.park ..), _⟩ => true
  | _ => false

/-- A ledger row of a parked order was written. -/
def isParkedRow : Ev → Bool
  | ⟨.io (.upsertSyncLog input), .ok _⟩ => input.status = .parked
  | _ => false

/-- Nothing was reported. -/
structure Unreported (ev : Ev) : Prop where
  record : isImportRecord ev = false
  metric : isParkMetric ev = false
  row : isParkedRow ev = false

/-- A call by which nothing is ever reported. -/
def Call.reports : Call → Bool
  | .recordError input => input.flow = "order-import"
  | .upsertSyncLog input => input.status = .parked
  | _ => false

theorem unreported_io {c : Call} (h : c.reports = false) (r : Except Thrown c.Ret) :
    Unreported (answered c r) := by
  cases c <;> first | exact ⟨rfl, rfl, rfl⟩ | skip
  · cases r with
    | error e => exact ⟨rfl, rfl, rfl⟩
    | ok u => exact ⟨h, rfl, rfl⟩
  · cases r with
    | error e => exact ⟨rfl, rfl, rfl⟩
    | ok u => exact ⟨rfl, rfl, h⟩

/-! ## The pipeline without its reports -/

/-- How the body after the claim ends before it reports anything. -/
inductive PipelineEnd
  | done (o : OrderHandlerOutcome)
  | found (order : ShopifyOrder) (stage : Stage) (detail : String) (errorClass : ErrorClass)

/-- The body after the claim up to a failure that it finds itself. -/
def pipeline (d : Delivery) : Handler PipelineEnd := do
  let order ← Scoped.await (Async.io (.getOrder d.connection d.msg.orderGid))
  modify fun l => { l with order := some order }
  d.archive order.fields .shopifyOrder none none fun uri l => { l with shopifyPayloadUri := uri }
  match checkEligibility order d.msg.topic {} with
  | .ineligible reason detail => return .done (← ignoreOrder d order reason detail)
  | .eligible =>
    match ← Scoped.await (prepareOrder d order) with
    | .parked stage detail errorClass => return .found order stage detail errorClass
    | .ready customer payload => return .done (← writeOrder d order customer payload)

/-- The park of a failure that the pipeline found. -/
def foundPark (order : ShopifyOrder) (stage : Stage) (detail : String) (errorClass : ErrorClass) :
    ParkInput := { stage, detail, errorClass, order := some order }

/-- What the body does at the end of the pipeline. -/
def conclude (d : Delivery) : PipelineEnd → Handler OrderHandlerOutcome
  | .done o => return o
  | .found order stage detail errorClass => do
    finish (← Scoped.await (parkOutcome d (foundPark order stage detail errorClass)))

/-- The body is its pipeline followed by the park of what that found. -/
theorem importOrder_eq (d : Delivery) : importOrder d = pipeline d >>= conclude d := by
  unfold importOrder pipeline
  simp only [bind_assoc]
  refine bind_congr fun order => bind_congr fun _ => bind_congr fun _ => ?_
  cases checkEligibility order d.msg.topic {} with
  | ineligible reason detail => simp [conclude]
  | eligible =>
    simp only [bind_assoc]
    refine bind_congr fun prepared => ?_
    cases prepared with
    | parked stage detail errorClass => simp [conclude, foundPark]
    | ready customer payload => simp [conclude]

/-! ## Programs that report nothing -/

section Unreported

theorem unreported_track {metric : Metric} (h : isParkMetric ⟨.track metric, ()⟩ = false) :
    Issues Unreported (d.track metric) := by
  unfold Delivery.track
  split
  · exact .observe fun _ => ⟨rfl, h, rfl⟩
  · exact .pure _

theorem unreported_writeSyncLog {shape : SyncLogShape} (h : shape.status ≠ .parked) :
    Issues Unreported (d.writeSyncLog shape) := by
  unfold Delivery.writeSyncLog
  split
  · exact issues_io (unreported_io (by simp [Call.reports, Delivery.syncLogInput, h]))
  · exact .pure _

theorem unreported_archive {payload : Js.Fields} {kind : PayloadKind}
    {nsAccountId nsRecordType : Option String} {set : Option String → Locals → Locals} :
    Confined Unreported (fun _ => ()) (d.archive payload kind nsAccountId nsRecordType set) := by
  unfold Delivery.archive
  split
  · refine (Confined.await (issues_quietly (unreported_io rfl))).bind fun uri => ?_
    exact .modify fun _ => rfl
  · exact .pure _

theorem unreported_finish (o : OrderHandlerOutcome) :
    Confined Unreported (fun _ => ()) (finish o) :=
  .bind (.modify fun _ => rfl) fun _ => .pure _

theorem unreported_prepareOrder (order : ShopifyOrder) :
    Issues Unreported (prepareOrder d order) := by
  intro tr res h ev hev
  obtain ⟨hprep, r⟩ := (prepares_prepareOrder d order tr res h).1 ev hev
  rename_i c
  refine unreported_io ?_ r
  cases c <;> first | rfl | cases hprep

theorem unreported_writeTag (internalId : String) : Issues Unreported (writeTag d internalId) := by
  unfold writeTag
  split
  · refine .tryCatch ((issues_io (unreported_io rfl)).bind fun _ => .pure _) fun _ => ?_
    unfold Delivery.recordError
    split
    · refine (issues_ofExcept _).bind fun _ => issues_io (unreported_io ?_)
      simp [Call.reports]
    · exact .pure _
  · exact .pure _

theorem unreported_afterImport (order : ShopifyOrder) (internalId : String) (uri : Option String) :
    Issues Unreported (afterImport d order internalId uri) := by
  refine Issues.bind (.observe fun t => ⟨rfl, rfl, rfl⟩) fun _ => ?_
  refine (unreported_track rfl).bind fun _ => ?_
  exact (unreported_writeSyncLog (by simp)).bind fun _ => unreported_writeTag _

theorem unreported_writeOrder (order : ShopifyOrder) (customer : CustomerResolution)
    (payload : NsOrderPayload) :
    Confined Unreported (fun _ => ()) (writeOrder d order customer payload) := by
  refine unreported_archive.bind fun _ => ?_
  refine Confined.bind (.modify fun _ => rfl) fun _ => ?_
  refine Confined.bind (.await (issues_io (unreported_io rfl))) fun upserted => ?_
  have hrecord : Confined Unreported (fun _ => ()) (do
      let _ ← Scoped.await (Async.io (.recordSuccess d.parts upserted.internalId d.msg.orderGid))
      let l ← get
      Scoped.await (afterImport d order upserted.internalId l.outboundPayloadUri)
      finish (.imported d.connection.connectionId d.msg.orderGid upserted.internalId
        upserted.created customer)) := by
    refine Confined.bind (.await (issues_io (unreported_io rfl))) fun _ => ?_
    refine Confined.bind .get fun l => ?_
    exact Confined.bind (.await (unreported_afterImport _ _ _)) fun _ => unreported_finish _
  dsimp only
  split
  · refine Confined.bind (.modify fun _ => rfl) fun _ => ?_
    exact unreported_archive.bind fun _ => hrecord
  · exact hrecord

theorem unreported_ignoreOrder (order : ShopifyOrder) (reason : EligibilityReason)
    (detail : Option String) :
    Confined Unreported (fun _ => ()) (ignoreOrder d order reason detail) := by
  refine Confined.bind (.await (issues_io (unreported_io rfl))) fun _ => ?_
  refine Confined.bind (.await (unreported_writeSyncLog (by simp))) fun _ => ?_
  exact Confined.bind (.await (unreported_track rfl)) fun _ => unreported_finish _

theorem unreported_pipeline : Confined Unreported (fun _ => ()) (pipeline d) := by
  refine Confined.bind (.await (issues_io (unreported_io rfl))) fun order => ?_
  refine Confined.bind (.modify fun _ => rfl) fun _ => ?_
  refine unreported_archive.bind fun _ => ?_
  split
  · exact (unreported_ignoreOrder _ _ _).bind fun _ => .pure _
  · refine Confined.bind (.await (unreported_prepareOrder order)) fun prepared => ?_
    cases prepared with
    | parked stage detail errorClass => exact .pure _
    | ready customer payload => exact (unreported_writeOrder _ _ _).bind fun _ => .pure _

theorem unreported_archiveThrown (err : Thrown) :
    Confined Unreported (fun _ => ()) (archiveThrown d err) := by
  unfold archiveThrown
  split
  · exact .throw _
  · exact .throw _
  · exact Confined.bind (.modify fun _ => rfl) fun _ => unreported_archive
  · exact .pure _

theorem unreported_recordAttempt (l : Locals) : Issues Unreported (d.recordAttempt l) := by
  unfold Delivery.recordAttempt
  split
  · refine Issues.bind (.observe fun t => ⟨rfl, rfl, rfl⟩) fun _ => ?_
    exact (issues_quietly (unreported_io rfl)).bind fun _ => .pure _
  · exact .pure _

theorem unreported_shortCircuit (o : OrderHandlerOutcome) :
    Issues Unreported (shortCircuit d o) := (unreported_recordAttempt _).bind fun _ => .pure _

theorem unreported_ignoreUpdate : Issues Unreported (ignoreUpdate d) := by
  refine (issues_io (unreported_io rfl)).bind fun _ => ?_
  refine (unreported_writeSyncLog (by simp)).bind fun _ => ?_
  exact (unreported_track rfl).bind fun _ => unreported_shortCircuit _

end Unreported

/-! ## The calls of a report -/

/-- A metric, where telemetry is wired. -/
def Delivery.tracked (d : Delivery) (metric : Metric) : List Ev :=
  if d.deps.telemetry then [⟨.track metric, ()⟩] else []

theorem settles_dtrack {metric : Metric} {res : Except Thrown Unit} :
    Settles (d.track metric) tr res ↔ tr = d.tracked metric ∧ res = .ok () := by
  unfold Delivery.track Delivery.tracked
  split
  · exact settles_track
  · exact settles_pure

theorem settles_writeSyncLog {shape : SyncLogShape} {res : Except Thrown Unit} :
    Settles (d.writeSyncLog shape) tr res ↔ Logged d shape tr res := by
  unfold Delivery.writeSyncLog
  split
  · next hwired =>
    rw [settles_io]
    constructor
    · rintro rfl
      exact .wired hwired res
    · intro h
      cases h with
      | unwired hnot => rw [hwired] at hnot; cases hnot
      | wired => rfl
  · next hnot =>
    rw [settles_pure]
    constructor
    · rintro ⟨rfl, rfl⟩
      exact .unwired (by simpa using hnot)
    · intro h
      cases h with
      | unwired => exact ⟨rfl, rfl⟩
      | wired hwired => exact absurd hwired hnot

/-- The calls of an error record. Nothing is looked up where no error store is wired. -/
inductive RecordRun (d : Delivery) (input : String → NewErrorInput) :
    List Ev → Except Thrown Unit → Prop
  | unwired (h : d.deps.errorStore = false) : RecordRun d input [] (.ok ())
  | badKey {e : Thrown} (h : d.deps.errorStore = true) (hkey : dedupKey d.parts = .error e) :
      RecordRun d input [] (.error e)
  | wired {key : String} (h : d.deps.errorStore = true) (hkey : dedupKey d.parts = .ok key)
      (r : Except Thrown Unit) : RecordRun d input [answered (.recordError (input key)) r] r

theorem settles_recordError {input : String → NewErrorInput} {res : Except Thrown Unit} :
    Settles (d.recordError input) tr res ↔ RecordRun d input tr res := by
  unfold Delivery.recordError
  split
  · next hwired =>
    rw [settles_bind]
    constructor
    · rintro (⟨e, rfl, hof⟩ | ⟨key, t₁, t₂, rfl, hof, hio⟩)
      · obtain ⟨rfl, hkey⟩ := settles_ofExcept.mp hof
        exact .badKey hwired hkey.symm
      · obtain ⟨rfl, hkey⟩ := settles_ofExcept.mp hof
        obtain rfl := settles_io.mp hio
        exact .wired hwired hkey.symm res
    · intro h
      cases h with
      | unwired hnot => rw [hwired] at hnot; cases hnot
      | badKey _ hkey => exact .inl ⟨_, rfl, settles_ofExcept.mpr ⟨rfl, hkey.symm⟩⟩
      | wired _ hkey =>
        exact .inr ⟨_, [], _, rfl, settles_ofExcept.mpr ⟨rfl, hkey.symm⟩, settles_io.mpr rfl⟩
  · next hnot =>
    rw [settles_pure]
    constructor
    · rintro ⟨rfl, rfl⟩
      exact .unwired (by simpa using hnot)
    · intro h
      cases h with
      | unwired => exact ⟨rfl, rfl⟩
      | badKey hwired | wired hwired => exact absurd hwired hnot

/-- The metric of a park. -/
def parkMetric (d : Delivery) (park : ParkInput) : Metric :=
  .park d.deps.environment d.connection.connectionId park.stage.text park.errorClass

/-- The calls of a park that fails with `e`; `told` tells whether the park was recorded and counted
before. -/
inductive ParkFails (d : Delivery) (park : ParkInput) (e : Thrown) : Bool → List Ev → Prop
  | row : ParkFails d park e false [answered (.recordFailure d.parts) (.error e)]
  | record {row : XrefRow} {t : List Ev} (hrecord : RecordRun d (parkRecord d park) t (.error e)) :
      ParkFails d park e false (answered (.recordFailure d.parts) (.ok row) :: t)
  | log {row : XrefRow} {t t' : List Ev} (hrecord : RecordRun d (parkRecord d park) t (.ok ()))
      (hlog : Logged d (parkShape d park) t' (.error e)) :
      ParkFails d park e true (answered (.recordFailure d.parts) (.ok row) ::
        (t ++ (d.tracked (parkMetric d park) ++ t')))

/-- The calls of a park that succeeds. -/
inductive ParkSucceeds (d : Delivery) (park : ParkInput) : List Ev → Prop
  | intro {row : XrefRow} {t t' : List Ev} (hrecord : RecordRun d (parkRecord d park) t (.ok ()))
      (hlog : Logged d (parkShape d park) t' (.ok ())) :
      ParkSucceeds d park (answered (.recordFailure d.parts) (.ok row) ::
        (t ++ (d.tracked (parkMetric d park) ++ t')))

/-- The outcome of a park. -/
def parkedAs (d : Delivery) (park : ParkInput) : OrderHandlerOutcome :=
  .parked d.connection.connectionId d.msg.orderGid park.stage park.detail park.errorClass

theorem settles_parkOutcome {park : ParkInput} {res : Except Thrown OrderHandlerOutcome} :
    Settles (parkOutcome d park) tr res ↔
      (∃ e told, res = .error e ∧ ParkFails d park e told tr) ∨
        (res = .ok (parkedAs d park) ∧ ParkSucceeds d park tr) := by
  constructor
  · intro h
    obtain ⟨e, rfl, hrow⟩ | ⟨row, t₁, t₂, rfl, hrow, hrest⟩ := settles_bind.mp h
    · obtain rfl := settles_io.mp hrow
      exact .inl ⟨e, _, rfl, .row⟩
    obtain rfl := settles_io.mp hrow
    obtain ⟨e, rfl, hrecord⟩ | ⟨u, t₃, t₄, rfl, hrecord, hrest₁⟩ := settles_bind.mp hrest
    · exact .inl ⟨e, _, rfl, .record (settles_recordError.mp hrecord)⟩
    have hrecord := settles_recordError.mp hrecord
    obtain ⟨e, rfl, htrack⟩ | ⟨u', t₅, t₆, rfl, htrack, hrest₂⟩ := settles_bind.mp hrest₁
    · cases (settles_dtrack.mp htrack).2
    obtain ⟨rfl, _⟩ := settles_dtrack.mp htrack
    obtain ⟨e, rfl, hlog⟩ | ⟨u'', t₇, t₈, rfl, hlog, hrest₃⟩ := settles_bind.mp hrest₂
    · exact .inl ⟨e, _, rfl, .log hrecord (settles_writeSyncLog.mp hlog)⟩
    obtain ⟨rfl, rfl⟩ := settles_pure.mp hrest₃
    rw [List.append_nil]
    exact .inr ⟨rfl, .intro hrecord (settles_writeSyncLog.mp hlog)⟩
  · rintro (⟨e, told, rfl, h⟩ | ⟨rfl, h⟩)
    · cases h with
      | row => exact settles_bind.mpr (.inl ⟨e, rfl, settles_io.mpr rfl⟩)
      | record hrecord =>
        refine settles_bind.mpr (.inr ⟨_, [_], _, rfl, settles_io.mpr rfl, ?_⟩)
        exact settles_bind.mpr (.inl ⟨e, rfl, settles_recordError.mpr hrecord⟩)
      | log hrecord hlog =>
        refine settles_bind.mpr (.inr ⟨_, [_], _, rfl, settles_io.mpr rfl, ?_⟩)
        refine settles_bind.mpr (.inr ⟨(), _, _, rfl, settles_recordError.mpr hrecord, ?_⟩)
        refine settles_bind.mpr (.inr ⟨(), _, _, rfl, settles_dtrack.mpr ⟨rfl, rfl⟩, ?_⟩)
        exact settles_bind.mpr (.inl ⟨e, rfl, settles_writeSyncLog.mpr hlog⟩)
    · obtain ⟨hrecord, hlog⟩ := h
      refine settles_bind.mpr (.inr ⟨_, [_], _, rfl, settles_io.mpr rfl, ?_⟩)
      refine settles_bind.mpr (.inr ⟨(), _, _, rfl, settles_recordError.mpr hrecord, ?_⟩)
      refine settles_bind.mpr (.inr ⟨(), _, _, rfl, settles_dtrack.mpr ⟨rfl, rfl⟩, ?_⟩)
      refine settles_bind.mpr (.inr ⟨(), _, [], (List.append_nil _).symm,
        settles_writeSyncLog.mpr hlog, settles_pure.mpr ⟨rfl, rfl⟩⟩)

/-! ## The catch -/

/-- The park of an error that was thrown. -/
def thrownPark (d : Delivery) (err : Thrown) (order : Option ShopifyOrder) : ParkInput where
  stage := if err.isOrderNotFound then .fetch else .externalCall
  detail := err.detail
  errorClass := classifyHandlerError d.deps.sdk err
  stack := err.stack
  order := order

/-- The error record of an auth error. -/
def authRecord (d : Delivery) (err : Thrown) (key : String) : NewErrorInput :=
  d.errorInput key .auth err.detail err.stack

/-- The calls by which an error is routed. -/
inductive RouteRun (d : Delivery) (err : Thrown) (order : Option ShopifyOrder) :
    List Ev → Except Thrown OrderHandlerOutcome → Prop
  | retried (h : classifyHandlerError d.deps.sdk err = .transient) :
      RouteRun d err order [] (.error err)
  | authFailed {t : List Ev} {e : Thrown} (h : classifyHandlerError d.deps.sdk err = .auth)
      (hrecord : RecordRun d (authRecord d err) t (.error e)) : RouteRun d err order t (.error e)
  | auth {t : List Ev} (h : classifyHandlerError d.deps.sdk err = .auth)
      (hrecord : RecordRun d (authRecord d err) t (.ok ())) (metric : Metric)
      (hmetric : isParkMetric ⟨.track metric, ()⟩ = false) :
      RouteRun d err order (t ++ d.tracked metric) (.error err)
  | parkFailed {told : Bool} {e : Thrown} {t : List Ev}
      (h : shouldRetry (classifyHandlerError d.deps.sdk err) = false)
      (hpark : ParkFails d (thrownPark d err order) e told t) : RouteRun d err order t (.error e)
  | parked {t : List Ev} (h : shouldRetry (classifyHandlerError d.deps.sdk err) = false)
      (hpark : ParkSucceeds d (thrownPark d err order) t) :
      RouteRun d err order t (.ok (parkedAs d (thrownPark d err order)))

theorem routeRun_of_settles {err : Thrown} {order : Option ShopifyOrder}
    {res : Except Thrown OrderHandlerOutcome} (h : Settles (classifyAndRoute d err order) tr res) :
    RouteRun d err order tr res := by
  unfold classifyAndRoute at h
  dsimp only at h
  split at h
  · next hretry =>
    split at h
    · next hauth =>
      have hinput : (fun key => d.errorInput key (classifyHandlerError d.deps.sdk err) err.detail
          err.stack) = authRecord d err := by
        funext key
        rw [hauth]
        rfl
      rw [hinput] at h
      obtain ⟨e, rfl, hrecord⟩ | ⟨u, t₁, t₂, rfl, hrecord, hrest⟩ := settles_bind.mp h
      · exact .authFailed hauth (settles_recordError.mp hrecord)
      obtain ⟨e, rfl, htrack⟩ | ⟨u', t₃, t₄, rfl, htrack, hrest₁⟩ := settles_bind.mp hrest
      · cases (settles_dtrack.mp htrack).2
      obtain ⟨rfl, _⟩ := settles_dtrack.mp htrack
      obtain ⟨rfl, rfl⟩ := settles_throw.mp hrest₁
      rw [List.append_nil]
      exact .auth hauth (settles_recordError.mp hrecord) _ rfl
    · next hauth =>
      obtain ⟨rfl, rfl⟩ := settles_throw.mp h
      refine .retried ?_
      cases hclass : classifyHandlerError d.deps.sdk err <;> simp_all [shouldRetry]
  · next hretry =>
    have hretry : shouldRetry (classifyHandlerError d.deps.sdk err) = false := by simpa using hretry
    obtain ⟨e, told, rfl, hfails⟩ | ⟨rfl, hsucceeds⟩ := settles_parkOutcome.mp h
    · exact .parkFailed hretry hfails
    · exact .parked hretry hsucceeds

/-- The calls of the catch. -/
inductive CatchRun (d : Delivery) (err : Thrown) (l : Locals) :
    List Ev → Except Thrown OrderHandlerOutcome → Prop
  | unreadable {l' : Locals} {t : List Ev} {e : Thrown}
      (harch : SettlesFrom (archiveThrown d err) l t (.error e) l') : CatchRun d err l t (.error e)
  | routed {l' : Locals} {t t' : List Ev} {res : Except Thrown OrderHandlerOutcome}
      (harch : SettlesFrom (archiveThrown d err) l t (.ok ()) l')
      (hroute : RouteRun d err l'.order t' res) : CatchRun d err l (t ++ t') res

theorem catchRun_of_settles {err : Thrown} {res : Except Thrown OrderHandlerOutcome}
    (h : SettlesFrom (routeThrown d err) l tr res l') : CatchRun d err l tr res := by
  obtain ⟨e, rfl, harch⟩ | ⟨u, l₁, t₁, t₂, rfl, harch, hrest⟩ := settlesFrom_bind.mp h
  · exact .unreadable harch
  obtain ⟨e, rfl, hget⟩ | ⟨l₂, l₃, t₃, t₄, rfl, hget, hrest₁⟩ := settlesFrom_bind.mp hrest
  · cases (settlesFrom_get.mp hget).2.1
  obtain ⟨rfl, hl, rfl⟩ := settlesFrom_get.mp hget
  obtain rfl := Except.ok.inj hl
  rw [List.nil_append]
  refine .routed harch ?_
  obtain ⟨o, rfl, hbody⟩ | ⟨e, l₄, t₅, t₆, rfl, hbody, hrethrow⟩ := settlesFrom_tryCatch.mp hrest₁
  · obtain ⟨e, he, _⟩ | ⟨o', l₅, t₇, t₈, rfl, hroute, hfinish⟩ := settlesFrom_bind.mp hbody
    · cases he
    obtain ⟨e, he, _⟩ | ⟨v, l₆, t₉, t₁₀, rfl, hset, hret⟩ := settlesFrom_bind.mp hfinish
    · cases he
    obtain ⟨rfl, _, _⟩ := settlesFrom_modify.mp hset
    obtain ⟨rfl, ho, _⟩ := settlesFrom_pure.mp hret
    cases ho
    rw [List.append_nil, List.append_nil]
    exact routeRun_of_settles (settlesFrom_await.mp hroute).1
  · obtain ⟨e', he, hset⟩ | ⟨v, l₅, t₇, t₈, rfl, hset, hthrow⟩ := settlesFrom_bind.mp hrethrow
    · cases (settlesFrom_modify.mp hset).2.1
    obtain ⟨rfl, _, _⟩ := settlesFrom_modify.mp hset
    obtain ⟨rfl, rfl, _⟩ := settlesFrom_throw.mp hthrow
    rw [List.append_nil, List.append_nil]
    obtain ⟨e', he, hroute⟩ | ⟨o', l₆, t₉, t₁₀, rfl, hroute, hfinish⟩ := settlesFrom_bind.mp hbody
    · cases he
      exact routeRun_of_settles (settlesFrom_await.mp hroute).1
    · obtain ⟨e', he, hset⟩ | ⟨v, l₆, t₁₁, t₁₂, rfl, hset, hret⟩ := settlesFrom_bind.mp hfinish
      · cases (settlesFrom_modify.mp hset).2.1
      · cases (settlesFrom_pure.mp hret).2.1

/-- The calls after a new claim. The attempt row is written at the end of each. -/
inductive ClaimedRun (d : Delivery) : List Ev → Except Thrown OrderHandlerOutcome → Prop
  | done {t a : List Ev} {o : OrderHandlerOutcome} {l : Locals}
      (hrun : SettlesFrom (pipeline d) {} t (.ok (.done o)) l) (ha : ∀ ev ∈ a, Unreported ev) :
      ClaimedRun d (t ++ a) (.ok o)
  | parked {t t' a : List Ev} {order : ShopifyOrder} {stage : Stage} {detail : String}
      {errorClass : ErrorClass} {l : Locals}
      (hrun : SettlesFrom (pipeline d) {} t (.ok (.found order stage detail errorClass)) l)
      (hpark : ParkSucceeds d (foundPark order stage detail errorClass) t')
      (ha : ∀ ev ∈ a, Unreported ev) :
      ClaimedRun d (t ++ (t' ++ a)) (.ok (parkedAs d (foundPark order stage detail errorClass)))
  | failed {t t' c a : List Ev} {order : ShopifyOrder} {stage : Stage} {detail : String}
      {errorClass : ErrorClass} {l : Locals} {e : Thrown} {told : Bool}
      {res : Except Thrown OrderHandlerOutcome}
      (hrun : SettlesFrom (pipeline d) {} t (.ok (.found order stage detail errorClass)) l)
      (hpark : ParkFails d (foundPark order stage detail errorClass) e told t')
      (hcatch : CatchRun d e l c res) (ha : ∀ ev ∈ a, Unreported ev) :
      ClaimedRun d (t ++ (t' ++ (c ++ a))) res
  | thrown {t c a : List Ev} {l : Locals} {e : Thrown} {res : Except Thrown OrderHandlerOutcome}
      (hrun : SettlesFrom (pipeline d) {} t (.error e) l) (hcatch : CatchRun d e l c res)
      (ha : ∀ ev ∈ a, Unreported ev) : ClaimedRun d (t ++ (c ++ a)) res

/-- The body, taken apart where the pipeline ends. -/
inductive BodyRun (d : Delivery) : List Ev → Except Thrown OrderHandlerOutcome → Locals → Prop
  | done {t : List Ev} {o : OrderHandlerOutcome} {l : Locals}
      (hrun : SettlesFrom (pipeline d) {} t (.ok (.done o)) l) : BodyRun d t (.ok o) l
  | parked {t t' : List Ev} {order : ShopifyOrder} {stage : Stage} {detail : String}
      {errorClass : ErrorClass} {l l' : Locals}
      (hrun : SettlesFrom (pipeline d) {} t (.ok (.found order stage detail errorClass)) l)
      (hpark : ParkSucceeds d (foundPark order stage detail errorClass) t') :
      BodyRun d (t ++ t') (.ok (parkedAs d (foundPark order stage detail errorClass))) l'
  | failed {t t' : List Ev} {order : ShopifyOrder} {stage : Stage} {detail : String}
      {errorClass : ErrorClass} {l : Locals} {e : Thrown} {told : Bool}
      (hrun : SettlesFrom (pipeline d) {} t (.ok (.found order stage detail errorClass)) l)
      (hpark : ParkFails d (foundPark order stage detail errorClass) e told t') :
      BodyRun d (t ++ t') (.error e) l
  | thrown {t : List Ev} {l : Locals} {e : Thrown}
      (hrun : SettlesFrom (pipeline d) {} t (.error e) l) : BodyRun d t (.error e) l

theorem bodyRun_of_settles {res : Except Thrown OrderHandlerOutcome}
    (h : SettlesFrom (importOrder d) {} tr res l') : BodyRun d tr res l' := by
  rw [importOrder_eq] at h
  obtain ⟨e, rfl, hrun⟩ | ⟨ended, l, t, t', rfl, hrun, hrest⟩ := settlesFrom_bind.mp h
  · exact .thrown hrun
  cases ended with
  | done o =>
    obtain ⟨rfl, rfl, rfl⟩ := settlesFrom_pure.mp hrest
    rw [List.append_nil]
    exact .done hrun
  | found order stage detail errorClass =>
    obtain ⟨e, rfl, hpark⟩ | ⟨o, l₁, t₁, t₂, rfl, hpark, hfinish⟩ := settlesFrom_bind.mp hrest
    · obtain ⟨hsettles, rfl⟩ := settlesFrom_await.mp hpark
      obtain ⟨e', told, heq, hfails⟩ | ⟨heq, _⟩ := settles_parkOutcome.mp hsettles
      · cases heq
        exact .failed hrun hfails
      · cases heq
    · obtain ⟨hsettles, rfl⟩ := settlesFrom_await.mp hpark
      obtain ⟨e', told, heq, _⟩ | ⟨heq, hsucceeds⟩ := settles_parkOutcome.mp hsettles
      · cases heq
      · cases heq
        obtain ⟨e, he, hset⟩ | ⟨v, l₂, t₃, t₄, rfl, hset, hret⟩ := settlesFrom_bind.mp hfinish
        · cases (settlesFrom_modify.mp hset).2.1
        obtain ⟨rfl, _, _⟩ := settlesFrom_modify.mp hset
        obtain ⟨rfl, rfl, _⟩ := settlesFrom_pure.mp hret
        rw [List.append_nil, List.append_nil]
        exact .parked hrun hsucceeds

theorem claimedRun_of_settles {res : Except Thrown OrderHandlerOutcome}
    (h : Settles (importClaimedOrder d) tr res) : ClaimedRun d tr res := by
  have hattempt : ∀ l tr e, ¬Settles (d.recordAttempt l) tr (.error e) := fun l tr e h => by
    cases (Delivery.recordAttempt_settles h).2
  obtain ⟨l', t₁, t₂, rfl, hbody, hrecord⟩ := (settles_withFinally hattempt).mp h
  have ha := unreported_recordAttempt l' t₂ _ hrecord
  obtain ⟨o, rfl, himport⟩ | ⟨e, l₁, t₃, t₄, rfl, himport, hroute⟩ := settlesFrom_tryCatch.mp hbody
  · cases bodyRun_of_settles himport with
    | done hrun => exact .done hrun ha
    | parked hrun hpark =>
      rw [List.append_assoc]
      exact .parked hrun hpark ha
  · have hcatch := catchRun_of_settles hroute
    cases bodyRun_of_settles himport with
    | failed hrun hpark =>
      rw [List.append_assoc, List.append_assoc]
      exact .failed hrun hpark hcatch ha
    | thrown hrun =>
      rw [List.append_assoc]
      exact .thrown hrun hcatch ha

/-! ## The delivery -/

/-- The delivery did not end parked. -/
def NotParked (res : Except Thrown OrderHandlerOutcome) : Prop :=
  ∀ connectionId orderGid stage detail errorClass,
    res ≠ .ok (.parked connectionId orderGid stage detail errorClass)

theorem IgnoreExit.notParked {shape : SyncLogShape} {o : OrderHandlerOutcome}
    {res : Except Thrown OrderHandlerOutcome} (h : IgnoreExit d shape o tr res)
    (ho : NotParked (.ok o)) : NotParked res := by
  cases h with
  | row | log =>
    intro _ _ _ _ _ heq
    cases heq
  | ignored => exact ho

theorem WriteExit.notParked {customer : CustomerResolution} {payload : NsOrderPayload}
    {res : Except Thrown OrderHandlerOutcome} (h : WriteExit d customer payload tr res) :
    NotParked res := by
  cases h <;> (intro _ _ _ _ _ heq; cases heq)

/-- The calls of a delivery before its pipeline starts. -/
inductive Opens (d : Delivery) : List Ev → Prop
  | direct {r : ClaimResult} (h : r.outcome = .claimed) : Opens d [claimedBy d (.ok r)]
  | known {row : XrefRow} {r : ClaimResult} (h : r.outcome = .claimed) :
      Opens d [lookedUp d (.ok (some row)), claimedBy d (.ok r)]

/-- A delivery that ended before its pipeline started. -/
structure EndsEarly (tr : List Ev) (res : Except Thrown OrderHandlerOutcome) : Prop where
  quiet : ∀ ev ∈ tr, Unreported ev
  notParked : NotParked res
  upserts : orderUpserts tr = []

/-- What a call that failed leaves. -/
theorem EndsEarly.failed {c : Call} {e : Thrown} (hquiet : c.reports = false)
    (hupsert : isOrderUpsert (answered c (.error e)) = false) :
    EndsEarly [answered c (.error e)] (.error e) := by
  refine ⟨fun ev hev => ?_, fun _ _ _ _ _ heq => (by cases heq), by simp [orderUpserts, hupsert]⟩
  obtain rfl := List.mem_singleton.mp hev
  exact unreported_io hquiet _

theorem EndsEarly.cons {ev : Ev} {res : Except Thrown OrderHandlerOutcome} (h : EndsEarly t res)
    (hquiet : Unreported ev) (hupsert : isOrderUpsert ev = false) : EndsEarly (ev :: t) res where
  quiet := List.forall_mem_cons.mpr ⟨hquiet, h.quiet⟩
  notParked := h.notParked
  upserts := by rw [orderUpserts_cons_of_not hupsert, h.upserts]

theorem shortCircuit_endsEarly {o : OrderHandlerOutcome} {res : Except Thrown OrderHandlerOutcome}
    (h : Settles (shortCircuit d o) tr res) (ho : NotParked (.ok o)) : EndsEarly tr res := by
  obtain ⟨hmain, rfl⟩ := shortCircuit_exit h
  exact ⟨unreported_shortCircuit o _ _ h, ho, by rw [← orderUpserts_main, hmain]; rfl⟩

theorem claimAndImport_opens {res : Except Thrown OrderHandlerOutcome}
    (h : Settles (claimAndImport d) tr res) :
    EndsEarly tr res ∨ ∃ r t, r.outcome = .claimed ∧ tr = claimedBy d (.ok r) :: t ∧
      Settles (importClaimedOrder d) t res := by
  obtain ⟨e, rfl, hclaim⟩ | ⟨r, t₁, t₂, rfl, hclaim, hrest⟩ := settles_bind.mp h
  · obtain rfl := settles_io.mp hclaim
    exact .inl (.failed rfl rfl)
  obtain rfl := settles_io.mp hclaim
  have hshort {o : OrderHandlerOutcome} (hrest : Settles (shortCircuit d o) t₂ res)
      (ho : NotParked (.ok o)) : EndsEarly ([claimedBy d (.ok r)] ++ t₂) res :=
    (shortCircuit_endsEarly hrest ho).cons (unreported_io rfl _) rfl
  split at hrest
  · exact .inl (hshort hrest fun _ _ _ _ _ heq => by cases heq)
  · exact .inl (hshort hrest fun _ _ _ _ _ heq => by cases heq)
  · exact .inl (hshort hrest fun _ _ _ _ _ heq => by cases heq)
  · next hclaimed => exact .inr ⟨r, t₂, hclaimed, rfl, hrest⟩

theorem ignoreUpdate_endsEarly {res : Except Thrown OrderHandlerOutcome}
    (h : Settles (ignoreUpdate d) tr res) : EndsEarly tr res where
  quiet := unreported_ignoreUpdate _ _ h
  notParked := (ignoreUpdate_exit h).notParked fun _ _ _ _ _ heq => by cases heq
  upserts := by rw [← orderUpserts_main, (ignoreUpdate_exit h).no_upserts]

theorem deliver_opens {res : Except Thrown OrderHandlerOutcome} (h : Settles (deliver d) tr res) :
    EndsEarly tr res ∨
      ∃ opening t, Opens d opening ∧ tr = opening ++ t ∧ Settles (importClaimedOrder d) t res := by
  unfold deliver at h
  split at h
  · obtain ⟨e, rfl, hlookup⟩ | ⟨found, t₁, t₂, rfl, hlookup, hrest⟩ := settles_bind.mp h
    · obtain rfl := settles_io.mp hlookup
      exact .inl (.failed rfl rfl)
    obtain rfl := settles_io.mp hlookup
    cases found with
    | none => exact .inl ((ignoreUpdate_endsEarly hrest).cons (unreported_io rfl _) rfl)
    | some row =>
      obtain hearly | ⟨r, t, hr, rfl, himport⟩ := claimAndImport_opens hrest
      · exact .inl (hearly.cons (unreported_io rfl _) rfl)
      · exact .inr ⟨_, t, .known hr, rfl, himport⟩
  · obtain hearly | ⟨r, t, hr, rfl, himport⟩ := claimAndImport_opens h
    · exact .inl hearly
    · exact .inr ⟨_, t, .direct hr, rfl, himport⟩

/-- A message is delivered to an enabled connection as `d`. -/
structure DeliversAs (deps : OrderHandlerDeps) (message : Js.Value)
    (attemptCtx : Option AttemptContext) (d : Delivery) : Prop where
  deps : d.deps = deps
  attemptCtx : d.attemptCtx = attemptCtx
  parsed : parseOrderWebhookMessage message = .ok d.msg

/-- The calls of a message up to the pipeline of its delivery. -/
inductive Starts (deps : OrderHandlerDeps) (message : Js.Value)
    (attemptCtx : Option AttemptContext) (d : Delivery) : List Ev → Prop
  | intro {opening : List Ev} (h : DeliversAs deps message attemptCtx d) (hopens : Opens d opening) :
      Starts deps message attemptCtx d
        (connectionFound deps d.msg.connectionId (.ok (some d.connection)) :: opening)

theorem handleOrderMessage_starts {deps : OrderHandlerDeps} {message : Js.Value}
    {attemptCtx : Option AttemptContext} {res : Except Thrown OrderHandlerOutcome}
    (h : Settles (handleOrderMessage deps message attemptCtx) tr res) :
    EndsEarly tr res ∨ ∃ d opening t, Starts deps message attemptCtx d opening ∧
      tr = opening ++ t ∧ Settles (importClaimedOrder d) t res := by
  cases handlerRun_of_settles h with
  | @rejected t reason detail ht =>
    have hnil : EndsEarly [] (.ok (.rejected reason detail)) :=
      ⟨by simp, fun _ _ _ _ _ heq => (by cases heq), rfl⟩
    obtain rfl | ⟨id, r, rfl, _⟩ := ht
    · exact .inl hnil
    · exact .inl (hnil.cons (unreported_io rfl _) rfl)
  | failed id e => exact .inl (.failed rfl rfl)
  | @delivered msg connection t _ hmsg _ _ hdeliver =>
    obtain hearly | ⟨opening, t, hopens, rfl, himport⟩ := deliver_opens hdeliver
    · exact .inl (hearly.cons (unreported_io rfl _) rfl)
    · exact .inr ⟨_, _, t, .intro ⟨rfl, rfl, hmsg⟩ hopens, rfl, himport⟩

/-! ## Counting -/

/-- The error records of the import that a list of calls wrote. -/
def importRecords (tr : List Ev) : ℕ := tr.countP isImportRecord

/-- The park metrics that were emitted. -/
def parkMetrics (tr : List Ev) : ℕ := tr.countP isParkMetric

section Counts

variable {park : ParkInput} {e : Thrown} {told : Bool}

@[simp] theorem importRecords_append :
    importRecords (t ++ t') = importRecords t + importRecords t' := List.countP_append

@[simp] theorem parkMetrics_append : parkMetrics (t ++ t') = parkMetrics t + parkMetrics t' :=
  List.countP_append

theorem unreported_counts (h : ∀ ev ∈ tr, Unreported ev) :
    importRecords tr = 0 ∧ parkMetrics tr = 0 := by
  constructor
  · exact List.countP_eq_zero.mpr fun ev hev => by simp [(h ev hev).record]
  · exact List.countP_eq_zero.mpr fun ev hev => by simp [(h ev hev).metric]

theorem Opens.unreported {opening : List Ev} (h : Opens d opening) :
    ∀ ev ∈ opening, Unreported ev := by
  cases h with
  | direct =>
    intro ev hev
    obtain rfl := List.mem_singleton.mp hev
    exact unreported_io rfl _
  | known =>
    refine List.forall_mem_cons.mpr ⟨unreported_io rfl _, fun ev hev => ?_⟩
    obtain rfl := List.mem_singleton.mp hev
    exact unreported_io rfl _

theorem RecordRun.counts {input : String → NewErrorInput} {res : Except Thrown Unit}
    (h : RecordRun d input t res) (hflow : ∀ key, (input key).flow = "order-import") :
    importRecords t = (if res.isOk && d.deps.errorStore then 1 else 0) ∧ parkMetrics t = 0 := by
  cases h with
  | unwired h => simp [importRecords, parkMetrics, h]
  | badKey => simp [importRecords, parkMetrics, Except.isOk, Except.toBool]
  | @wired key h =>
    cases res with
    | error e =>
      simp [importRecords, parkMetrics, isImportRecord, isParkMetric, Except.isOk, Except.toBool]
    | ok u =>
      simp [importRecords, parkMetrics, isImportRecord, isParkMetric, Except.isOk, Except.toBool, h,
        hflow]

theorem Logged.counts {shape : SyncLogShape} {res : Except Thrown Unit} (h : Logged d shape t res) :
    importRecords t = 0 ∧ parkMetrics t = 0 := by
  cases h with
  | unwired => exact ⟨rfl, rfl⟩
  | wired => cases res <;> exact ⟨rfl, rfl⟩

theorem tracked_counts (d : Delivery) (metric : Metric) :
    importRecords (d.tracked metric) = 0 ∧ parkMetrics (d.tracked metric) =
      if d.deps.telemetry && isParkMetric ⟨.track metric, ()⟩ then 1 else 0 := by
  unfold Delivery.tracked
  split
  · next h => simp [importRecords, parkMetrics, isImportRecord, h]
  · next h => simp [importRecords, parkMetrics, h]

theorem ParkFails.counts (h : ParkFails d park e told t) :
    importRecords t = (if told && d.deps.errorStore then 1 else 0) ∧
      parkMetrics t = if told && d.deps.telemetry then 1 else 0 := by
  cases h with
  | row => exact ⟨rfl, rfl⟩
  | record hrecord =>
    obtain ⟨hrecords, hmetrics⟩ := hrecord.counts fun _ => rfl
    exact ⟨hrecords, hmetrics⟩
  | @log row t t' hrecord hlog =>
    obtain ⟨hrecords, hmetrics⟩ := hrecord.counts fun _ => rfl
    obtain ⟨hrecords', hmetrics'⟩ := hlog.counts
    obtain ⟨hrecords'', hmetrics''⟩ := tracked_counts d (parkMetric d park)
    have hfirst : importRecords [answered (.recordFailure d.parts) (.ok row)] = 0 ∧
        parkMetrics [answered (.recordFailure d.parts) (.ok row)] = 0 := ⟨rfl, rfl⟩
    rw [← List.singleton_append, importRecords_append, importRecords_append, importRecords_append,
      parkMetrics_append, parkMetrics_append, parkMetrics_append, hfirst.1, hfirst.2, hrecords,
      hmetrics, hrecords', hmetrics', hrecords'', hmetrics'']
    simp [Except.isOk, Except.toBool, isParkMetric, parkMetric]

theorem ParkSucceeds.counts (h : ParkSucceeds d park t) :
    importRecords t = (if d.deps.errorStore then 1 else 0) ∧
      parkMetrics t = if d.deps.telemetry then 1 else 0 := by
  obtain ⟨hrecord, hlog⟩ := h
  rename_i row t t'
  obtain ⟨hrecords, hmetrics⟩ := hrecord.counts fun _ => rfl
  obtain ⟨hrecords', hmetrics'⟩ := hlog.counts
  obtain ⟨hrecords'', hmetrics''⟩ := tracked_counts d (parkMetric d park)
  have hfirst : importRecords [answered (.recordFailure d.parts) (.ok row)] = 0 ∧
      parkMetrics [answered (.recordFailure d.parts) (.ok row)] = 0 := ⟨rfl, rfl⟩
  rw [← List.singleton_append, importRecords_append, importRecords_append, importRecords_append,
    parkMetrics_append, parkMetrics_append, parkMetrics_append, hfirst.1, hfirst.2, hrecords,
    hmetrics, hrecords', hmetrics', hrecords'', hmetrics'']
  simp [Except.isOk, Except.toBool, isParkMetric, parkMetric]

end Counts

end DpIntegrator
