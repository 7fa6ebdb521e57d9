import DpIntegrator.Delivery.Exits

/-!
# Which calls a delivery makes

Every main call of a delivery is one of a few, all about the delivery's own order. Among
them is at most one order upsert, which follows a new claim and the fetch of an eligible
order. All of this is read off the exits.
-/

namespace DpIntegrator

open Effects

variable {d : Delivery} {P : Preparations} {t tr : List Ev}

/-! ## The calls -/

/-- Calls of a delivery that leave the xref rows alone: error records, ledger rows, tags. -/
inductive SideCall (d : Delivery) : Ev → Prop
  | record (input : NewErrorInput) (r : Except Thrown Unit) :
      SideCall d (answered (.recordError input) r)
  | log (input : OrderSyncLogInput) (r : Except Thrown Unit) :
      SideCall d (answered (.upsertSyncLog input) r)
  | tag (tags : List String) (r : Except Thrown (List String)) :
      SideCall d (answered (.tagOrder d.connection d.msg.orderGid tags) r)

/-- The main calls of a delivery. -/
inductive MainCall (d : Delivery) : Ev → Prop
  | side {ev : Ev} (h : SideCall d ev) : MainCall d ev
  | lookup (r : Except Thrown (Option XrefRow)) : MainCall d (lookedUp d r)
  | claim (r : Except Thrown ClaimResult) : MainCall d (claimedBy d r)
  | fetch (r : Except Thrown ShopifyOrder) : MainCall d (fetched d r)
  | preparatory {c : Call} (h : c.isPreparatory = true) (e : Thrown) :
      MainCall d (answered c (.error e))
  | upsert (payload : NsOrderPayload) (r : Except Thrown UpsertResult) :
      MainCall d (upserted d payload r)
  | success (u : UpsertResult) (r : Except Thrown XrefRow) : MainCall d (succeeded d u r)
  | failure (r : Except Thrown XrefRow) : MainCall d (answered (.recordFailure d.parts) r)
  | ignore (r : Except Thrown XrefRow) : MainCall d (answered (.markIgnored d.parts) r)

/-- Every call of a list is of a kind. -/
def Only (kind : Ev → Prop) (t : List Ev) : Prop := ∀ ev ∈ t, kind ev

namespace Only

variable {kind kind' : Ev → Prop} {ev : Ev} {t' : List Ev}

theorem nil : Only kind [] := by simp [Only]

theorem cons (hev : kind ev) (h : Only kind t) : Only kind (ev :: t) :=
  List.forall_mem_cons.mpr ⟨hev, h⟩

theorem append (h : Only kind t) (h' : Only kind t') : Only kind (t ++ t') :=
  List.forall_mem_append.mpr ⟨h, h'⟩

theorem mono (h : Only kind t) (hkind : ∀ ev, kind ev → kind' ev) : Only kind' t :=
  fun ev hev => hkind ev (h ev hev)

end Only

section Side

theorem Logged.side {shape : SyncLogShape} {res : Except Thrown Unit} (h : Logged d shape t res) :
    Only (SideCall d) t := by
  cases h with
  | unwired => exact .nil
  | wired => exact .cons (.log _ _) .nil

theorem Recorded.side {input : String → NewErrorInput} {res : Except Thrown Unit}
    (h : Recorded d input t res) : Only (SideCall d) t := by
  cases h with
  | unwired | badKey => exact .nil
  | wired => exact .cons (.record _ _) .nil

theorem TagExit.side {internalId : String} {res : Except Thrown Unit}
    (h : TagExit d internalId t res) : Only (SideCall d) t := by
  cases h with
  | off => exact .nil
  | tagged => exact .cons (.tag _ _) .nil
  | failed _ _ hrecord => exact .cons (.tag _ _) hrecord.side

/-- What follows the record of an import leaves the rows alone. -/
theorem AfterExit.side {internalId : String} {res : Except Thrown Unit}
    (h : AfterExit d internalId t res) : Only (SideCall d) t := by
  cases h with
  | log _ hlog => exact hlog.side
  | tag _ hlog htag => exact hlog.side.append htag.side

theorem Only.main_calls (h : Only (SideCall d) t) : Only (MainCall d) t :=
  h.mono fun _ hev => .side hev

end Side

section MainCalls

variable {res : Except Thrown OrderHandlerOutcome}

theorem ParkExit.calls {park : ParkInput} (h : ParkExit d park t res) :
    ∃ r t', t = answered (.recordFailure d.parts) r :: t' ∧ Only (SideCall d) t' := by
  cases h with
  | row e => exact ⟨_, [], rfl, .nil⟩
  | record hrecord => exact ⟨_, _, rfl, hrecord.side⟩
  | log hrecord hlog => exact ⟨_, _, rfl, hrecord.side.append hlog.side⟩
  | parked hrecord hlog => exact ⟨_, _, rfl, hrecord.side.append hlog.side⟩

theorem ParkExit.main_calls {park : ParkInput} (h : ParkExit d park t res) :
    Only (MainCall d) t := by
  obtain ⟨r, t', rfl, hside⟩ := h.calls
  exact .cons (.failure r) hside.main_calls

theorem RouteExit.main_calls {err : Thrown} (h : RouteExit d err t res) : Only (MainCall d) t := by
  cases h with
  | unreadable | transient => exact .nil
  | authUnrecorded _ hrecord => exact hrecord.side.main_calls
  | auth _ hrecord => exact hrecord.side.main_calls
  | parked _ _ hpark => exact hpark.main_calls

theorem IgnoreExit.calls {shape : SyncLogShape} {o : OrderHandlerOutcome}
    (h : IgnoreExit d shape o t res) :
    ∃ r t', t = answered (.markIgnored d.parts) r :: t' ∧ Only (SideCall d) t' := by
  cases h with
  | row e => exact ⟨_, [], rfl, .nil⟩
  | log hlog => exact ⟨_, _, rfl, hlog.side⟩
  | ignored hlog => exact ⟨_, _, rfl, hlog.side⟩

theorem IgnoreExit.main_calls {shape : SyncLogShape} {o : OrderHandlerOutcome}
    (h : IgnoreExit d shape o t res) : Only (MainCall d) t := by
  obtain ⟨r, t', rfl, hside⟩ := h.calls
  exact .cons (.ignore r) hside.main_calls

/-- The write of an order is its upsert, then the record of the success, then side calls. -/
theorem WriteExit.calls {customer : CustomerResolution} {payload : NsOrderPayload}
    (h : WriteExit d customer payload t res) :
    ∃ r t', t = upserted d payload r :: t' ∧
      (t' = [] ∨ ∃ u r' t'', t' = succeeded d u r' :: t'' ∧ Only (SideCall d) t'') := by
  cases h with
  | upsert e => exact ⟨_, [], rfl, .inl rfl⟩
  | recordSuccess u e => exact ⟨_, _, rfl, .inr ⟨u, _, [], rfl, .nil⟩⟩
  | after hafter => exact ⟨_, _, rfl, .inr ⟨_, _, _, rfl, hafter.side⟩⟩
  | imported hafter => exact ⟨_, _, rfl, .inr ⟨_, _, _, rfl, hafter.side⟩⟩

theorem WriteExit.main_calls {customer : CustomerResolution} {payload : NsOrderPayload}
    (h : WriteExit d customer payload t res) : Only (MainCall d) t := by
  obtain ⟨r, t', rfl, rfl | ⟨u, r', t'', rfl, hside⟩⟩ := h.calls
  · exact .cons (.upsert payload r) .nil
  · exact .cons (.upsert payload r) (.cons (.success u r') hside.main_calls)

theorem ImportExit.main_calls (h : ImportExit d P t res) : Only (MainCall d) t := by
  cases h with
  | fetch e => exact .cons (.fetch _) .nil
  | ineligible _ hignore => exact .cons (.fetch _) hignore.main_calls
  | call _ hprep _ => exact .cons (.fetch _) (.cons (.preparatory hprep _) .nil)
  | threw => exact .cons (.fetch _) .nil
  | parked _ _ hpark => exact .cons (.fetch _) hpark.main_calls
  | written _ _ hwrite => exact .cons (.fetch _) hwrite.main_calls

theorem ClaimedExit.main_calls (h : ClaimedExit d P t res) : Only (MainCall d) t := by
  cases h with
  | returned himport => exact himport.main_calls
  | thrown himport hroute => exact himport.main_calls.append hroute.main_calls

theorem ClaimExit.main_calls (h : ClaimExit d P t res) : Only (MainCall d) t := by
  cases h with
  | failed | held => exact .cons (.claim _) .nil
  | claimed _ hclaimed => exact .cons (.claim _) hclaimed.main_calls

/-- Every main call of a delivery is a call about its own order. -/
theorem DeliverExit.main_calls (h : DeliverExit d P t res) : Only (MainCall d) t := by
  cases h with
  | direct _ hclaim => exact hclaim.main_calls
  | lookup => exact .cons (.lookup _) .nil
  | unknown _ hignore => exact .cons (.lookup _) hignore.main_calls
  | known _ hclaim => exact .cons (.lookup _) hclaim.main_calls

end MainCalls

/-! ## Calls of the pipeline -/

/-- The calls from the fetch of the order to the record of its import. -/
inductive PipelineCall (d : Delivery) : Call → Prop
  | fetch : PipelineCall d (.getOrder d.connection d.msg.orderGid)
  | preparatory {c : Call} (h : c.isPreparatory = true) : PipelineCall d c
  | upsert (payload : NsOrderPayload) :
      PipelineCall d (.upsertByExternalId (d.orderUpsert payload))
  | recordSuccess (targetId : String) :
      PipelineCall d (.recordSuccess d.parts targetId d.msg.orderGid)

section Pipeline

variable {res : Except Thrown OrderHandlerOutcome}

theorem PipelineCall.not_bestEffort {c : Call} (h : PipelineCall d c) : c.isBestEffort = false := by
  cases h with
  | preparatory hprep => cases c <;> first | rfl | cases hprep
  | _ => rfl

theorem SideCall.not_pipeline {c : Call} {r : Except Thrown c.Ret}
    (h : SideCall d (answered c r)) (hc : PipelineCall d c) : False := by
  cases h with
  | record | log | tag =>
    cases hc with
    | preparatory hprep => cases hprep

/-- What follows a failure does not look like one. -/
theorem Only.not_pipeline {c : Call} {r : Except Thrown c.Ret} (h : Only (SideCall d) t)
    (hc : PipelineCall d c) : answered c r ∉ t := fun hmem => (h _ hmem).not_pipeline hc

theorem ParkExit.not_pipeline {park : ParkInput} {c : Call} {r : Except Thrown c.Ret}
    (h : ParkExit d park t res) (hc : PipelineCall d c) : answered c r ∉ t := by
  obtain ⟨r', t', rfl, hside⟩ := h.calls
  intro hmem
  obtain heq | hmem := List.mem_cons.mp hmem
  · cases heq
    cases hc with
    | preparatory hprep => cases hprep
  · exact hside.not_pipeline hc hmem

theorem IgnoreExit.not_pipeline {shape : SyncLogShape} {o : OrderHandlerOutcome} {c : Call}
    {r : Except Thrown c.Ret} (h : IgnoreExit d shape o t res) (hc : PipelineCall d c) :
    answered c r ∉ t := by
  obtain ⟨r', t', rfl, hside⟩ := h.calls
  intro hmem
  obtain heq | hmem := List.mem_cons.mp hmem
  · cases heq
    cases hc with
    | preparatory hprep => cases hprep
  · exact hside.not_pipeline hc hmem

theorem RouteExit.not_pipeline {err : Thrown} {c : Call} {r : Except Thrown c.Ret}
    (h : RouteExit d err t res) (hc : PipelineCall d c) : answered c r ∉ t := by
  cases h with
  | unreadable | transient => simp
  | authUnrecorded _ hrecord => exact hrecord.side.not_pipeline hc
  | auth _ hrecord => exact hrecord.side.not_pipeline hc
  | parked _ _ hpark => exact hpark.not_pipeline hc

end Pipeline

/-! ## Order upserts -/

/-- An upsert of an order record, however it was answered. -/
def isOrderUpsert : Ev → Bool
  | ⟨.io (.upsertByExternalId args), _⟩ => args.recordType.isOrder
  | _ => false

/-- The order upserts of a list, in order. -/
def orderUpserts (tr : List Ev) : List Ev := tr.filter isOrderUpsert

@[simp] theorem orderUpserts_nil : orderUpserts [] = [] := rfl

@[simp] theorem orderUpserts_append {t t' : List Ev} :
    orderUpserts (t ++ t') = orderUpserts t ++ orderUpserts t' := List.filter_append ..

theorem orderUpserts_cons_of_not {ev : Ev} (h : isOrderUpsert ev = false) :
    orderUpserts (ev :: t) = orderUpserts t := List.filter_cons_of_neg (by simp [h])

@[simp] theorem isOrderUpsert_upserted {payload : NsOrderPayload}
    {r : Except Thrown UpsertResult} : isOrderUpsert (upserted d payload r) = true :=
  netsuiteOrderRecordType_isOrder d.connection

@[simp] theorem orderUpserts_upserted {payload : NsOrderPayload}
    {r : Except Thrown UpsertResult} :
    orderUpserts (upserted d payload r :: t) = upserted d payload r :: orderUpserts t :=
  List.filter_cons_of_pos isOrderUpsert_upserted

/-- Order upserts are main calls. -/
theorem orderUpserts_main (tr : List Ev) : orderUpserts (main tr) = orderUpserts tr := by
  have hmain : ∀ ev, isOrderUpsert ev = true → isMain ev = true := by
    rintro ⟨_ | _ | _, r⟩ hev
    case io c =>
      cases c with
      | upsertByExternalId args =>
        have hargs : args.recordType.isOrder = true := hev
        simp [isMain, Call.isBestEffort, Call.isPreparatory, hargs]
      | _ => cases hev
    all_goals cases hev
  unfold orderUpserts main
  rw [List.filter_filter]
  refine List.filter_congr fun ev _ => ?_
  cases hev : isOrderUpsert ev
  · rfl
  · rw [hmain ev hev]
    rfl

theorem SideCall.not_orderUpsert {ev : Ev} (h : SideCall d ev) : isOrderUpsert ev = false := by
  cases h <;> rfl

theorem not_orderUpsert_of_preparatory {c : Call} (h : c.isPreparatory = true)
    (r : Except Thrown c.Ret) : isOrderUpsert (answered c r) = false := by
  cases c <;> simp_all [Call.isPreparatory, isOrderUpsert]

section Upserts

variable {res : Except Thrown OrderHandlerOutcome}

theorem Only.no_upserts (h : Only (SideCall d) t) : orderUpserts t = [] :=
  List.filter_eq_nil_iff.mpr fun ev hev => by simp [(h ev hev).not_orderUpsert]

theorem ParkExit.no_upserts {park : ParkInput} (h : ParkExit d park t res) :
    orderUpserts t = [] := by
  obtain ⟨r, t', rfl, hside⟩ := h.calls
  exact hside.no_upserts

theorem RouteExit.no_upserts {err : Thrown} (h : RouteExit d err t res) :
    orderUpserts t = [] := by
  cases h with
  | unreadable | transient => rfl
  | authUnrecorded _ hrecord => exact hrecord.side.no_upserts
  | auth _ hrecord => exact hrecord.side.no_upserts
  | parked _ _ hpark => exact hpark.no_upserts

theorem IgnoreExit.no_upserts {shape : SyncLogShape} {o : OrderHandlerOutcome}
    (h : IgnoreExit d shape o t res) : orderUpserts t = [] := by
  obtain ⟨r, t', rfl, hside⟩ := h.calls
  exact hside.no_upserts

/-- The one order upsert of `t`, after the fetch of an eligible order. -/
def UpsertsOnce (d : Delivery) (t : List Ev) : Prop :=
  ∃ order payload r t', checkEligibility order d.msg.topic {} = .eligible ∧
    t = fetched d (.ok order) :: upserted d payload r :: t' ∧ orderUpserts t' = []

theorem ImportExit.upserts (h : ImportExit d P t res) : orderUpserts t = [] ∨ UpsertsOnce d t := by
  cases h with
  | fetch | threw => exact .inl rfl
  | ineligible _ hignore => exact .inl hignore.no_upserts
  | call _ hprep _ =>
    refine .inl ?_
    rw [orderUpserts_cons_of_not rfl, orderUpserts_cons_of_not (not_orderUpsert_of_preparatory hprep _)]
    rfl
  | parked _ _ hpark => exact .inl hpark.no_upserts
  | @written order _ payload _ _ helig _ hwrite =>
    obtain ⟨r, t', rfl, rfl | ⟨u, r', t'', rfl, hside⟩⟩ := hwrite.calls
    · exact .inr ⟨order, payload, r, [], helig, rfl, rfl⟩
    · exact .inr ⟨order, payload, r, _, helig, rfl, hside.no_upserts⟩

theorem ClaimedExit.upserts (h : ClaimedExit d P t res) :
    orderUpserts t = [] ∨ UpsertsOnce d t := by
  cases h with
  | returned himport => exact himport.upserts
  | thrown himport hroute =>
    obtain hnone | ⟨order, payload, r, t', helig, rfl, hrest⟩ := himport.upserts
    · exact .inl (by simp [hnone, hroute.no_upserts])
    · exact .inr ⟨order, payload, r, _, helig, rfl, by simp [hrest, hroute.no_upserts]⟩

/-- A delivery makes no order upsert, or one: after a new claim and an eligible fetch. -/
theorem DeliverExit.upserts (h : DeliverExit d P t res) : orderUpserts t = [] ∨
    ∃ pre claim t', claim.outcome = .claimed ∧ orderUpserts pre = [] ∧
      t = pre ++ claimedBy d (.ok claim) :: t' ∧ UpsertsOnce d t' := by
  have hclaim {t : List Ev} (h : ClaimExit d P t res) : orderUpserts t = [] ∨
      ∃ claim t', claim.outcome = .claimed ∧ t = claimedBy d (.ok claim) :: t' ∧
        UpsertsOnce d t' := by
    cases h with
    | failed | held => exact .inl rfl
    | claimed houtcome hclaimed =>
      obtain hnone | honce := hclaimed.upserts
      · exact .inl hnone
      · exact .inr ⟨_, _, houtcome, rfl, honce⟩
  cases h with
  | direct _ h =>
    obtain hnone | ⟨claim, t', houtcome, rfl, honce⟩ := hclaim h
    · exact .inl hnone
    · exact .inr ⟨[], claim, t', houtcome, rfl, rfl, honce⟩
  | lookup => exact .inl rfl
  | unknown _ hignore => exact .inl hignore.no_upserts
  | known _ h =>
    obtain hnone | ⟨claim, t', houtcome, rfl, honce⟩ := hclaim h
    · exact .inl hnone
    · exact .inr ⟨[_], claim, t', houtcome, rfl, rfl, honce⟩

end Upserts

end DpIntegrator
