import DpIntegrator.Delivery.Import

/-!
# After the import was recorded

The ledger row, the tag and the records of their failures come after the import was
recorded, but their errors reach the same catch as all others. The import stays recorded
exactly when none of them escapes to it.
-/

namespace DpIntegrator

open Effects

variable {d : Delivery} {P : Preparations} {t tr : List Ev} {w w' : World} {key : String}
  {res : Except Thrown OrderHandlerOutcome}

/-- The ledger row of an import failed to be written. -/
def LedgerFailed (tr : List Ev) : Prop :=
  ∃ input e, input.status = .imported ∧ answered (.upsertSyncLog input) (.error e) ∈ tr

/-- The record of a failed tag failed to be written. -/
def TagRecordFailed (tr : List Ev) : Prop :=
  ∃ input e, input.flow = "order-tag-writeback" ∧ answered (.recordError input) (.error e) ∈ tr

/-! ## What escapes to the catch -/

section After

variable {internalId : String}

/-- A ledger row that was written, or did not have to be, did not fail. -/
theorem Logged.not_failed {shape : SyncLogShape} (h : Logged d shape t (.ok ()))
    {input : OrderSyncLogInput} {e : Thrown} : answered (.upsertSyncLog input) (.error e) ∉ t := by
  cases h with
  | unwired => simp
  | wired => simp

theorem Recorded.not_failed {input : String → NewErrorInput} (h : Recorded d input t (.ok ()))
    {input' : NewErrorInput} {e : Thrown} : answered (.recordError input') (.error e) ∉ t := by
  cases h with
  | unwired => simp
  | wired => simp

theorem Logged.no_record {shape : SyncLogShape} {r r' : Except Thrown Unit}
    (h : Logged d shape t r) {input : NewErrorInput} : answered (.recordError input) r' ∉ t := by
  cases h with
  | unwired => simp
  | wired => simp

theorem Recorded.no_log {input : String → NewErrorInput} {r r' : Except Thrown Unit}
    (h : Recorded d input t r) {input' : OrderSyncLogInput} :
    answered (.upsertSyncLog input') r' ∉ t := by
  cases h with
  | unwired | badKey => simp
  | wired => simp

/-- The ledger row of an import, when it fails, is a failed ledger row. -/
theorem Logged.failed {shape : SyncLogShape} {e : Thrown} (h : Logged d shape t (.error e))
    (hstatus : shape.status = .imported) : LedgerFailed t := by
  cases h with
  | wired => exact ⟨_, e, hstatus, List.mem_cons_self ..⟩

theorem Recorded.failed {input : String → NewErrorInput} {e : Thrown}
    (h : Recorded d input t (.error e)) (hkey : dedupKey d.parts = .ok key)
    (hflow : ∀ key, (input key).flow = "order-tag-writeback") : TagRecordFailed t := by
  cases h with
  | badKey hbad =>
    rw [hkey] at hbad
    cases hbad
  | wired => exact ⟨_, e, hflow _, List.mem_cons_self ..⟩

theorem TagExit.no_log {r r' : Except Thrown Unit} (h : TagExit d internalId t r)
    {input : OrderSyncLogInput} : answered (.upsertSyncLog input) r' ∉ t := by
  cases h with
  | off | tagged => simp
  | failed _ _ hrecord =>
    intro hmem
    obtain heq | hmem := List.mem_cons.mp hmem
    · cases heq
    · exact hrecord.no_log hmem

/-- The tag throws exactly when the record of its failure fails. -/
theorem TagExit.eq_ok_iff {r : Except Thrown Unit} (h : TagExit d internalId t r)
    (hkey : dedupKey d.parts = .ok key) : r = .ok () ↔ ¬TagRecordFailed t := by
  cases h with
  | off | tagged => simp [TagRecordFailed]
  | failed _ hflow hrecord =>
    constructor
    · rintro rfl ⟨input, e, _, hmem⟩
      obtain heq | hmem := List.mem_cons.mp hmem
      · cases heq
      · exact hrecord.not_failed hmem
    · intro hnot
      cases r with
      | ok u => rfl
      | error e =>
        obtain ⟨input, e', hflow', hmem⟩ := hrecord.failed hkey hflow
        exact absurd ⟨input, e', hflow', List.mem_cons_of_mem _ hmem⟩ hnot

/-- What follows an import throws exactly when the ledger row or the record of the failed
tag fails. -/
theorem AfterExit.eq_ok_iff {r : Except Thrown Unit} (h : AfterExit d internalId t r)
    (hkey : dedupKey d.parts = .ok key) :
    r = .ok () ↔ ¬LedgerFailed t ∧ ¬TagRecordFailed t := by
  cases h with
  | log himported hlog =>
    have hfailed := hlog.failed himported.1
    simp [hfailed]
  | @tag _ t t' _ _ hlog htag =>
    have hledger : ¬LedgerFailed (t ++ t') := by
      rintro ⟨input, e, _, hmem⟩
      obtain hmem | hmem := List.mem_append.mp hmem
      · exact hlog.not_failed hmem
      · exact htag.no_log hmem
    have hrecord : TagRecordFailed (t ++ t') ↔ TagRecordFailed t' := by
      constructor
      · rintro ⟨input, e, hflow, hmem⟩
        obtain hmem | hmem := List.mem_append.mp hmem
        · exact absurd hmem hlog.no_record
        · exact ⟨input, e, hflow, hmem⟩
      · rintro ⟨input, e, hflow, hmem⟩
        exact ⟨input, e, hflow, List.mem_append_right _ hmem⟩
    simp [hledger, hrecord, htag.eq_ok_iff hkey]

end After

/-! ## Deliveries whose import was recorded -/

/-- A ledger row or an error record. -/
inductive Evidence : Ev → Prop
  | log (input : OrderSyncLogInput) (r : Except Thrown Unit) :
      Evidence (answered (.upsertSyncLog input) r)
  | record (input : NewErrorInput) (r : Except Thrown Unit) :
      Evidence (answered (.recordError input) r)

/-- What follows the record of the import of `u`: the rest of an import, or an error that
escaped to the catch. -/
inductive AfterRecord (d : Delivery) (u : UpsertResult) :
    List Ev → Except Thrown OrderHandlerOutcome → Prop
  | imported {post : List Ev} {customer : CustomerResolution}
      (h : AfterExit d u.internalId post (.ok ())) :
      AfterRecord d u post (.ok (.imported d.connection.connectionId d.msg.orderGid u.internalId
        u.created customer))
  | escaped {post post' : List Ev} {e : Thrown} {res : Except Thrown OrderHandlerOutcome}
      (h : AfterExit d u.internalId post (.error e)) (hroute : RouteExit d e post' res) :
      AfterRecord d u (post ++ post') res

/-- The import of an upsert that returned `targetId` was recorded as `row`, before any
ledger row or error record. -/
def RecordedIn (d : Delivery) (t : List Ev) (targetId : String) (row : XrefRow)
    (res : Except Thrown OrderHandlerOutcome) : Prop :=
  ∃ u pre post, u.internalId = targetId ∧ t = pre ++ succeeded d u (.ok row) :: post ∧
    Only (fun ev => ¬Evidence ev) pre ∧ AfterRecord d u post res

section RecordedIn

variable {targetId : String} {row : XrefRow}

theorem RecordedIn.cons {ev : Ev} (h : RecordedIn d t targetId row res) (hev : ¬Evidence ev) :
    RecordedIn d (ev :: t) targetId row res := by
  obtain ⟨u, pre, post, hu, rfl, hpre, hafter⟩ := h
  exact ⟨u, ev :: pre, post, hu, rfl, .cons hev hpre, hafter⟩

theorem not_evidence_upserted {payload : NsOrderPayload} {r : Except Thrown UpsertResult} :
    ¬Evidence (upserted d payload r) := by
  intro h
  cases h

/-- The write of an order whose import was recorded: what followed the record decides how
it ends. -/
theorem WriteExit.recorded {customer : CustomerResolution} {payload : NsOrderPayload}
    (h : WriteExit d customer payload t res)
    (hmem : answered (.recordSuccess d.parts targetId d.msg.orderGid) (.ok row) ∈ t) :
    ∃ u post r, u.internalId = targetId ∧
      t = upserted d payload (.ok u) :: succeeded d u (.ok row) :: post ∧
      AfterExit d u.internalId post r ∧
      ((r = .ok () ∧ res = .ok (.imported d.connection.connectionId d.msg.orderGid u.internalId
        u.created customer)) ∨ ∃ e, r = .error e ∧ res = .error e) := by
  have hc : PipelineCall d (.recordSuccess d.parts targetId d.msg.orderGid) := .recordSuccess _
  cases h with
  | upsert e => cases List.mem_singleton.mp hmem
  | recordSuccess u e =>
    obtain heq | hmem := List.mem_cons.mp hmem
    · cases heq
    · cases List.mem_singleton.mp hmem
  | @after u row' t e hafter =>
    obtain heq | hmem := List.mem_cons.mp hmem
    · cases heq
    obtain heq | hmem := List.mem_cons.mp hmem
    · cases heq
      exact ⟨u, t, _, rfl, rfl, hafter, .inr ⟨e, rfl, rfl⟩⟩
    · exact absurd hmem (hafter.side.not_pipeline hc)
  | @imported u row' t hafter =>
    obtain heq | hmem := List.mem_cons.mp hmem
    · cases heq
    obtain heq | hmem := List.mem_cons.mp hmem
    · cases heq
      exact ⟨u, t, _, rfl, rfl, hafter, .inl ⟨rfl, rfl⟩⟩
    · exact absurd hmem (hafter.side.not_pipeline hc)

/-- The body after the claim, with its import recorded, is the write of an order. -/
theorem ImportExit.recorded (h : ImportExit d P t res)
    (hmem : answered (.recordSuccess d.parts targetId d.msg.orderGid) (.ok row) ∈ t) :
    ∃ order customer payload t', t = fetched d (.ok order) :: t' ∧
      WriteExit d customer payload t' res ∧
      answered (.recordSuccess d.parts targetId d.msg.orderGid) (.ok row) ∈ t' := by
  have hc : PipelineCall d (.recordSuccess d.parts targetId d.msg.orderGid) := .recordSuccess _
  have htail {order : ShopifyOrder} {t' : List Ev}
      (hmem : answered (.recordSuccess d.parts targetId d.msg.orderGid) (.ok row) ∈
        fetched d (.ok order) :: t') :
      answered (.recordSuccess d.parts targetId d.msg.orderGid) (.ok row) ∈ t' := by
    obtain heq | hmem := List.mem_cons.mp hmem
    · cases heq
    · exact hmem
  cases h with
  | fetch => cases List.mem_singleton.mp hmem
  | ineligible _ hignore => exact absurd (htail hmem) (hignore.not_pipeline hc)
  | call => cases List.mem_singleton.mp (htail hmem)
  | threw => cases htail hmem
  | parked _ _ hpark => exact absurd (htail hmem) (hpark.not_pipeline hc)
  | written _ _ hwrite => exact ⟨_, _, _, _, rfl, hwrite, htail hmem⟩

theorem ClaimedExit.recorded (h : ClaimedExit d P t res)
    (hmem : answered (.recordSuccess d.parts targetId d.msg.orderGid) (.ok row) ∈ t) :
    RecordedIn d t targetId row res := by
  have hfetched {order : ShopifyOrder} : ¬Evidence (fetched d (.ok order)) := by
    intro h
    cases h
  cases h with
  | returned himport =>
    obtain ⟨order, customer, payload, t', rfl, hwrite, hmem⟩ := himport.recorded hmem
    obtain ⟨u, post, r, hu, rfl, hafter, ⟨rfl, hres⟩ | ⟨e, _, hres⟩⟩ := hwrite.recorded hmem
    · rw [hres]
      exact ⟨u, [_, _], post, hu, rfl, .cons hfetched (.cons not_evidence_upserted .nil),
        .imported hafter⟩
    · cases hres
  | @thrown _ t' _ _ himport hroute =>
    have hc : PipelineCall d (.recordSuccess d.parts targetId d.msg.orderGid) := .recordSuccess _
    obtain hmem | hmem := List.mem_append.mp hmem
    · obtain ⟨order, customer, payload, t'', rfl, hwrite, hmem⟩ := himport.recorded hmem
      obtain ⟨u, post, r, hu, rfl, hafter, ⟨_, hres⟩ | ⟨e, rfl, hres⟩⟩ := hwrite.recorded hmem
      · cases hres
      · cases hres
        exact ⟨u, [_, _], post ++ t', hu, rfl, .cons hfetched (.cons not_evidence_upserted .nil),
          .escaped hafter hroute⟩
    · exact absurd hmem (hroute.not_pipeline hc)

theorem ClaimExit.recorded (h : ClaimExit d P t res)
    (hmem : answered (.recordSuccess d.parts targetId d.msg.orderGid) (.ok row) ∈ t) :
    RecordedIn d t targetId row res := by
  have hclaim {r : Except Thrown ClaimResult} : ¬Evidence (claimedBy d r) := by
    intro h
    cases h
  cases h with
  | failed | held => cases List.mem_singleton.mp hmem
  | claimed _ hclaimed =>
    obtain heq | hmem := List.mem_cons.mp hmem
    · cases heq
    · exact (hclaimed.recorded hmem).cons hclaim

/-- A delivery whose import was recorded claimed the row, fetched the order and upserted
it, and then only the follow-up is left. -/
theorem DeliverExit.recorded (h : DeliverExit d P t res)
    (hmem : answered (.recordSuccess d.parts targetId d.msg.orderGid) (.ok row) ∈ t) :
    RecordedIn d t targetId row res := by
  have hc : PipelineCall d (.recordSuccess d.parts targetId d.msg.orderGid) := .recordSuccess _
  have hlookup {r : Except Thrown (Option XrefRow)} : ¬Evidence (lookedUp d r) := by
    intro h
    cases h
  cases h with
  | direct _ hclaim => exact hclaim.recorded hmem
  | lookup => cases List.mem_singleton.mp hmem
  | unknown _ hignore =>
    obtain heq | hmem := List.mem_cons.mp hmem
    · cases heq
    · exact absurd hmem (hignore.not_pipeline hc)
  | known _ hclaim =>
    obtain heq | hmem := List.mem_cons.mp hmem
    · cases heq
    · exact (hclaim.recorded hmem).cons hlookup

/-- What came before the record of the import is no ledger row and no error record. -/
theorem failed_append {pre post : List Ev} {ev : Ev} (hpre : Only (fun ev => ¬Evidence ev) pre)
    (hev : ¬Evidence ev) : (LedgerFailed (pre ++ ev :: post) ↔ LedgerFailed post) ∧
      (TagRecordFailed (pre ++ ev :: post) ↔ TagRecordFailed post) := by
  have hmem {x : Ev} (hx : Evidence x) : x ∈ pre ++ ev :: post ↔ x ∈ post := by
    have hnot : x ∉ pre := fun h => hpre x h hx
    have hne : x ≠ ev := by
      rintro rfl
      exact hev hx
    simp [hnot, hne]
  constructor
  · simp only [LedgerFailed, hmem (.log _ _)]
  · simp only [TagRecordFailed, hmem (.record _ _)]

theorem LedgerFailed.mono {t' : List Ev} (h : LedgerFailed t) (hsub : t ⊆ t') :
    LedgerFailed t' := by
  obtain ⟨input, e, hstatus, hmem⟩ := h
  exact ⟨input, e, hstatus, hsub hmem⟩

theorem TagRecordFailed.mono {t' : List Ev} (h : TagRecordFailed t) (hsub : t ⊆ t') :
    TagRecordFailed t' := by
  obtain ⟨input, e, hflow, hmem⟩ := h
  exact ⟨input, e, hflow, hsub hmem⟩

/-- Ledger rows and error records are main calls. -/
theorem failed_main : (LedgerFailed (main t) ↔ LedgerFailed t) ∧
    (TagRecordFailed (main t) ↔ TagRecordFailed t) := by
  refine ⟨⟨fun h => h.mono fun _ => mem_of_mem_main, ?_⟩,
    ⟨fun h => h.mono fun _ => mem_of_mem_main, ?_⟩⟩
  · rintro ⟨input, e, hstatus, hmem⟩
    exact ⟨input, e, hstatus, mem_main rfl rfl hmem⟩
  · rintro ⟨input, e, hflow, hmem⟩
    exact ⟨input, e, hflow, mem_main rfl rfl hmem⟩

/-- The catch never imports. -/
theorem RouteExit.not_imported {err : Thrown} {connectionId orderGid targetId : String}
    {created : Bool} {customer : CustomerResolution} (h : RouteExit d err t res) :
    res ≠ .ok (.imported connectionId orderGid targetId created customer) := by
  rintro rfl
  cases h with
  | parked _ _ hpark => cases hpark

/-- What followed the record decides: the import is kept exactly when nothing escaped. -/
theorem AfterRecord.kept_iff {u : UpsertResult} (h : AfterRecord d u t res)
    (hkey : dedupKey d.parts = .ok key) (hrow : w.xref key = some row) (hsteps : w.Steps t w') :
    ((∃ connectionId orderGid created customer,
        res = .ok (.imported connectionId orderGid u.internalId created customer)) ∧
      w'.xref key = some row) ↔ ¬LedgerFailed t ∧ ¬TagRecordFailed t := by
  cases h with
  | imported hafter =>
    have hkept : w'.xref key = some row := by rw [hafter.side.xref_eq hsteps, hrow]
    have hnone := (hafter.eq_ok_iff hkey).mp rfl
    exact ⟨fun _ => hnone, fun _ => ⟨⟨_, _, _, _, rfl⟩, hkept⟩⟩
  | @escaped post post' e _ hafter hroute =>
    constructor
    · rintro ⟨⟨_, _, _, _, hres⟩, _⟩
      exact absurd hres hroute.not_imported
    · rintro ⟨hledger, hrecord⟩
      have hok : Except.error e = Except.ok () := (hafter.eq_ok_iff hkey).mpr
        ⟨fun h => hledger (h.mono (List.subset_append_left ..)),
          fun h => hrecord (h.mono (List.subset_append_left ..))⟩
      cases hok

theorem failed_cons {ev : Ev} (hev : ¬Evidence ev) :
    (LedgerFailed (ev :: t) ↔ LedgerFailed t) ∧ (TagRecordFailed (ev :: t) ↔ TagRecordFailed t) :=
  failed_append .nil hev

theorem deliver_kept_iff {parts : DedupKeyParts} {externalId : String}
    (h : Settles (deliver d) tr res) (hsteps : w.Steps tr w')
    (hmem : answered (.recordSuccess parts targetId externalId) (.ok row) ∈ tr) :
    ∃ key, dedupKey parts = .ok key ∧ row.status = .synced ∧ row.targetId = some targetId ∧
      (((∃ connectionId orderGid created customer,
          res = .ok (.imported connectionId orderGid targetId created customer)) ∧
        w'.xref key = some row) ↔ ¬LedgerFailed tr ∧ ¬TagRecordFailed tr) := by
  have hexit := deliver_exit h
  have hmem := mem_main rfl rfl hmem
  cases hexit.main_calls _ hmem with
  | side hside => cases hside
  | success u =>
    obtain ⟨u, pre, post, hu, hmain, hpre, hafter⟩ := hexit.recorded hmem
    have hrun := World.Steps.main hsteps
    rw [hmain] at hrun
    obtain ⟨w₁, _, hrest⟩ := steps_append.mp hrun
    obtain ⟨w₂, hsuccess, hfollow⟩ := steps_cons.mp hrest
    obtain ⟨key, hkey, _, hstatus, htarget, rfl⟩ := World.Step.recordSuccess_ok hsuccess
    have hnot : ¬Evidence (succeeded d u (.ok row)) := by
      intro h
      cases h
    have hkept := hafter.kept_iff hkey (XrefRows.put_self _ _ row) hfollow
    rw [World.forget_xref, hu] at hkept
    have hledger : LedgerFailed tr ↔ LedgerFailed post := by
      rw [← failed_main.1, hmain, (failed_append hpre hnot).1]
    have hrecord : TagRecordFailed tr ↔ TagRecordFailed post := by
      rw [← failed_main.2, hmain, (failed_append hpre hnot).2]
    rw [hledger, hrecord]
    exact ⟨key, hkey, hstatus, hu ▸ htarget, hkept⟩

end RecordedIn

/-- Once its import was recorded, a delivery returns `imported` and leaves the row as it was
recorded if and only if neither the ledger row of the import nor the record of a failed tag
failed to be written. -/
theorem import_kept_iff {deps : OrderHandlerDeps} {message : Js.Value}
    {attemptCtx : Option AttemptContext} {parts : DedupKeyParts} {targetId externalId : String}
    {row : XrefRow} (h : (Activity.handle deps message attemptCtx).Performs w (tr, res) w')
    (hmem : answered (.recordSuccess parts targetId externalId) (.ok row) ∈ tr) :
    ∃ key, dedupKey parts = .ok key ∧ row.status = .synced ∧ row.targetId = some targetId ∧
      (((∃ connectionId orderGid created customer,
          res = .ok (.imported connectionId orderGid targetId created customer)) ∧
        w'.xref key = some row) ↔ ¬LedgerFailed tr ∧ ¬TagRecordFailed tr) := by
  obtain ⟨hruns, hsteps⟩ := h
  cases handlerRun_of_settles hruns with
  | rejected ht =>
    obtain rfl | ⟨id, r, rfl, _⟩ := ht
    · cases hmem
    · cases List.mem_singleton.mp hmem
  | failed => cases List.mem_singleton.mp hmem
  | delivered _ _ _ hdeliver =>
    obtain heq | hmem := List.mem_cons.mp hmem
    · cases heq
    obtain ⟨w₁, hfind, hrest⟩ := steps_cons.mp hsteps
    obtain ⟨_, rfl⟩ := World.Step.findConnection_ok hfind
    have hnot {id : String} {r : Except Thrown (Option Connection)} :
        ¬Evidence (connectionFound deps id r) := by
      intro h
      cases h
    rw [(failed_cons hnot).1, (failed_cons hnot).2]
    exact deliver_kept_iff hdeliver hrest hmem

/-! ## The shop while the ledger fails -/

/-- What a call recorded as an import, and where. -/
def recordedBy : Ev → Option (DedupKeyParts × String × String × XrefRow)
  | ⟨.io (.recordSuccess parts targetId externalId), .ok row⟩ =>
    some (parts, targetId, externalId, row)
  | _ => none

theorem mem_of_recordedBy {parts : DedupKeyParts} {targetId externalId : String} {row : XrefRow}
    (h : (parts, targetId, externalId, row) ∈ tr.filterMap recordedBy) :
    answered (.recordSuccess parts targetId externalId) (.ok row) ∈ tr := by
  obtain ⟨ev, hev, hrow⟩ := List.mem_filterMap.mp h
  unfold recordedBy at hrow
  split at hrow
  · cases hrow
    exact hev
  · cases hrow

namespace Shop

/-- The delivery of the creation of the order. -/
def order1 : Delivery := delivery (Shop.message none "orders/create")

/-- Its handling, with given services. -/
def handled (s : Responder) :
    (Activity.handle deps (Shop.message none "orders/create").toJs order1.attemptCtx).Record × World :=
  s.perform (.handle deps (Shop.message none "orders/create").toJs order1.attemptCtx) world

theorem handled_performs (s : Responder) :
    (Activity.handle deps (Shop.message none "orders/create").toJs order1.attemptCtx).Performs world
      ((handled s).1.1, (handled s).1.2) (handled s).2 := s.performs _ _

/-- Stores of which the ledger rejects the rows of imports. -/
def withoutLedger : Responder :=
  down (fun c => match c with
    | .upsertSyncLog input => input.status = .imported
    | _ => false) (newError "order_sync_log: value too long")

/-- The row of the imported order. -/
def row : XrefRow :=
  { order1.claimInput.newRow with targetId := some "42", status := .synced, lastSyncedAt := some 0 }

theorem up_recorded : answered (.recordSuccess order1.parts "42" order.id) (.ok row) ∈
    (handled up).1.1 := mem_of_recordedBy (by decide +kernel)

theorem withoutLedger_recorded :
    answered (.recordSuccess order1.parts "42" order.id) (.ok row) ∈
      (handled withoutLedger).1.1 := mem_of_recordedBy (by decide +kernel)

end Shop

/-- The import of the order of the shop is kept. -/
theorem import_kept_iff_shop : ∃ key, dedupKey Shop.order1.parts = .ok key ∧
    Shop.row.status = .synced ∧ Shop.row.targetId = some "42" ∧
      (((∃ connectionId orderGid created customer, (Shop.handled Shop.up).1.2 =
          .ok (.imported connectionId orderGid "42" created customer)) ∧
        (Shop.handled Shop.up).2.xref key = some Shop.row) ↔
        ¬LedgerFailed (Shop.handled Shop.up).1.1 ∧ ¬TagRecordFailed (Shop.handled Shop.up).1.1) :=
  import_kept_iff (Shop.handled_performs Shop.up) Shop.up_recorded

/-- The ledger rejects the row of the import: the recorded import is flipped to an error. -/
theorem recorded_import_is_parked :
    ¬∀ (deps : OrderHandlerDeps) (message : Js.Value) (attemptCtx : Option AttemptContext)
      (w w' : World) (tr : List Ev) (res : Except Thrown OrderHandlerOutcome)
      (parts : DedupKeyParts) (targetId externalId key : String) (row : XrefRow),
      (Activity.handle deps message attemptCtx).Performs w (tr, res) w' →
      answered (.recordSuccess parts targetId externalId) (.ok row) ∈ tr →
      dedupKey parts = .ok key →
      (∃ connectionId orderGid created customer,
        res = .ok (.imported connectionId orderGid targetId created customer)) ∧
      w'.status key = some .synced := by
  intro h
  have hsynced := (h _ _ _ _ _ _ _ _ _ _ Shop.key _ (Shop.handled_performs Shop.withoutLedger)
    Shop.withoutLedger_recorded (Shop.dedupKey_parts rfl)).2
  have hparked : (Shop.handled Shop.withoutLedger).2.status Shop.key = some .error := by
    decide +kernel
  simp [hparked] at hsynced

end DpIntegrator
