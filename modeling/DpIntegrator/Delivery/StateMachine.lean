import DpIntegrator.Delivery.Responses

/-!
# The handler as a state machine

With stores that succeed, the result of a delivery and the row it leaves determine each
other. A delivery of an order with a row changes nothing but its attempt row; a delivery
of an order without one ends in one of four ways, each with its own status. Over a
history it follows that only the first delivery of an order has an effect.
-/

namespace DpIntegrator

open Effects

variable {d : Delivery} {P : Preparations} {t t' tr : List Ev} {w w' : World} {key : String}

/-! ## Stores that succeed -/

/-- No call to a store failed. -/
def StoresSucceed (tr : List Ev) : Prop :=
  ∀ (c : Call) (e : Thrown), c.isStore = true → answered c (.error e) ∉ tr

/-- A call to a store that failed. -/
def isFailedStoreCall : Ev → Bool
  | ⟨.io c, .error _⟩ => c.isStore
  | _ => false

theorem storesSucceed_iff : StoresSucceed tr ↔ ∀ ev ∈ tr, isFailedStoreCall ev = false := by
  constructor
  · intro h ev hev
    obtain ⟨_ | _ | _, r⟩ := ev
    case io c =>
      cases r with
      | ok => rfl
      | error e =>
        cases hstore : c.isStore
        · exact hstore
        · exact absurd hev (h c e hstore)
    all_goals rfl
  · intro h c e hstore hmem
    have hnot : c.isStore = false := h _ hmem
    simp [hstore] at hnot

instance : Decidable (StoresSucceed tr) := decidable_of_iff _ storesSucceed_iff.symm

namespace StoresSucceed

theorem of_subset (h : StoresSucceed t) (hsub : t' ⊆ t) : StoresSucceed t' :=
  fun c e hstore hmem => h c e hstore (hsub hmem)

theorem tail {ev : Ev} (h : StoresSucceed (ev :: t)) : StoresSucceed t :=
  h.of_subset (List.subset_cons_self ..)

theorem left (h : StoresSucceed (t ++ t')) : StoresSucceed t :=
  h.of_subset (List.subset_append_left ..)

theorem right (h : StoresSucceed (t ++ t')) : StoresSucceed t' :=
  h.of_subset (List.subset_append_right ..)

theorem main_calls (h : StoresSucceed tr) : StoresSucceed (main tr) :=
  h.of_subset fun _ hev => mem_of_mem_main hev

/-- The first call, if it is to a store, did not fail. -/
theorem head_ne_error {c : Call} {e : Thrown} (h : StoresSucceed (answered c (.error e) :: t))
    (hstore : c.isStore = true) : False := h c e hstore (List.mem_cons_self ..)

end StoresSucceed

section Writes

theorem Logged.eq_ok {shape : SyncLogShape} {res : Except Thrown Unit} (h : Logged d shape t res)
    (hstores : StoresSucceed t) : res = .ok () := by
  cases h with
  | unwired => rfl
  | wired =>
    cases res with
    | ok u => rfl
    | error e => exact (hstores.head_ne_error rfl).elim

theorem Recorded.eq_ok {input : String → NewErrorInput} {res : Except Thrown Unit}
    (h : Recorded d input t res) (hkey : dedupKey d.parts = .ok key)
    (hstores : StoresSucceed t) : res = .ok () := by
  cases h with
  | unwired => rfl
  | badKey hbad =>
    rw [hkey] at hbad
    cases hbad
  | wired =>
    cases res with
    | ok u => rfl
    | error e => exact (hstores.head_ne_error rfl).elim

/-- After an import was recorded, nothing fails but the tag, whose failure is swallowed. -/
theorem AfterExit.eq_ok {internalId : String} {res : Except Thrown Unit}
    (h : AfterExit d internalId t res) (hkey : dedupKey d.parts = .ok key)
    (hstores : StoresSucceed t) : res = .ok () := by
  cases h with
  | log _ hlog => cases hlog.eq_ok hstores
  | tag _ _ htag =>
    cases htag with
    | off | tagged => rfl
    | failed _ _ hrecord => exact hrecord.eq_ok hkey hstores.right.tail

theorem SideCall.rowOf_eq {ev : Ev} (h : SideCall d ev) : World.rowOf ev = none := by
  cases h <;> rfl

/-- Side calls leave the rows alone. -/
theorem Only.xref_eq (h : Only (SideCall d) t) (hsteps : w.Steps t w') : w'.xref = w.xref :=
  hsteps.xref_eq fun ev hev => (h ev hev).rowOf_eq

theorem Logged.errors_eq {shape : SyncLogShape} {res : Except Thrown Unit}
    (h : Logged d shape t res) (hsteps : w.Steps t w') : w'.errors = w.errors := by
  cases h with
  | unwired =>
    obtain rfl := steps_nil.mp hsteps
    rfl
  | wired =>
    obtain ⟨w₁, hstep, hrest⟩ := steps_cons.mp hsteps
    obtain rfl := steps_nil.mp hrest
    cases res with
    | error e => rw [World.Step.eq_of_error hstep]
    | ok u =>
      obtain ⟨now, rfl⟩ := World.Step.upsertSyncLog_ok hstep
      rfl

/-- A wired error store that succeeds has the one record. -/
theorem Recorded.errors_eq {input : String → NewErrorInput}
    (h : Recorded d input t (.ok ())) (hwired : d.deps.errorStore = true)
    (hsteps : w.Steps t w') :
    ∃ key now, w'.errors = w.errors.record (input key) now := by
  cases h with
  | unwired hunwired => simp [hwired] at hunwired
  | @wired key =>
    obtain ⟨w₁, hstep, hrest⟩ := steps_cons.mp hsteps
    obtain rfl := steps_nil.mp hrest
    obtain ⟨now, rfl⟩ := World.Step.recordError_ok hstep
    exact ⟨key, now, rfl⟩

end Writes

/-! ## The four endings -/

/-- One order-import error record was written. -/
def RecordedOnce (w w' : World) : Prop :=
  ∃ (input : NewErrorInput) (now : ℤ), input.flow = "order-import" ∧
    w'.errors = w.errors.record input now

/-- The row of `key` is synced with the id that the one order upsert of `tr` returned. -/
def SyncedByUpsert (d : Delivery) (key : String) (tr : List Ev) (w' : World) : Prop :=
  ∃ row payload u, w'.xref key = some row ∧ row.status = .synced ∧
    row.targetId = some u.internalId ∧ orderUpserts tr = [upserted d payload (.ok u)]

/-- How a delivery of an order without a row ends. -/
inductive Ending (d : Delivery) (key : String) (tr : List Ev) (w w' : World) :
    Except Thrown OrderHandlerOutcome → Prop
  | imported {targetId : String} {created : Bool} {customer : CustomerResolution}
      (h : SyncedByUpsert d key tr w') :
      Ending d key tr w w'
        (.ok (.imported d.connection.connectionId d.msg.orderGid targetId created customer))
  | parked {detail : String} {stage : Stage} {errorClass : ErrorClass}
      (hstatus : w'.status key = some .error) (hrecord : RecordedOnce w w') :
      Ending d key tr w w'
        (.ok (.parked d.connection.connectionId d.msg.orderGid stage detail errorClass))
  | ignored {reason : EligibilityReason} {detail : Option String}
      (hstatus : w'.status key = some .ignored) (hupserts : orderUpserts tr = []) :
      Ending d key tr w w'
        (.ok (.ignoredByEligibility d.connection.connectionId d.msg.orderGid reason detail))
  | thrown {e : Thrown} (hstatus : w'.status key = some .pending) :
      Ending d key tr w w' (.error e)

section Endings

variable {res : Except Thrown OrderHandlerOutcome}

theorem ParkExit.ending {park : ParkInput} (h : ParkExit d park t res)
    (hkey : dedupKey d.parts = .ok key) (hwired : d.deps.errorStore = true)
    (hstores : StoresSucceed t) (hsteps : w.Steps t w') : Ending d key tr w w' res := by
  cases h with
  | row => exact (hstores.head_ne_error rfl).elim
  | record hrecord => cases hrecord.eq_ok hkey hstores.tail
  | log _ hlog => cases hlog.eq_ok hstores.tail.right
  | parked hrecord hlog =>
    obtain ⟨w₁, hstep, hrest⟩ := steps_cons.mp hsteps
    obtain ⟨key', hkey', _, hstatus, rfl⟩ := World.Step.recordFailure_ok hstep
    obtain rfl : key' = key := Except.ok.inj (hkey'.symm.trans hkey)
    have hxref := (hrecord.side.append hlog.side).xref_eq hrest
    obtain ⟨w₂, hrec, hlogged⟩ := steps_append.mp hrest
    obtain ⟨key', now, herrors⟩ := hrecord.errors_eq hwired hrec
    refine .parked ?_ ⟨_, now, rfl, (hlog.errors_eq hlogged).trans herrors⟩
    simp [World.status, hxref, hstatus]

theorem RouteExit.ending {err : Thrown} (h : RouteExit d err t res)
    (hkey : dedupKey d.parts = .ok key) (hwired : d.deps.errorStore = true)
    (hstores : StoresSucceed t) (hrow : w.status key = some .pending) (hsteps : w.Steps t w') :
    Ending d key tr w w' res := by
  cases h with
  | unreadable | transient =>
    obtain rfl := steps_nil.mp hsteps
    exact .thrown hrow
  | authUnrecorded _ hrecord => cases hrecord.eq_ok hkey hstores
  | auth _ hrecord =>
    refine .thrown ?_
    rwa [World.status, hrecord.side.xref_eq hsteps]
  | parked _ _ hpark => exact hpark.ending hkey hwired hstores hsteps

theorem IgnoreExit.ending {shape : SyncLogShape} {reason : EligibilityReason}
    {detail : Option String}
    (h : IgnoreExit d shape
      (.ignoredByEligibility d.connection.connectionId d.msg.orderGid reason detail) t res)
    (hkey : dedupKey d.parts = .ok key) (hstores : StoresSucceed t) (hsteps : w.Steps t w')
    (hupserts : orderUpserts tr = []) : Ending d key tr w w' res := by
  cases h with
  | row => exact (hstores.head_ne_error rfl).elim
  | log hlog => cases hlog.eq_ok hstores.tail
  | ignored hlog =>
    obtain ⟨w₁, hstep, hrest⟩ := steps_cons.mp hsteps
    obtain ⟨key', hkey', hstatus, rfl⟩ := World.Step.markIgnored_ok hstep
    obtain rfl : key' = key := Except.ok.inj (hkey'.symm.trans hkey)
    refine .ignored ?_ hupserts
    simp [World.status, hlog.side.xref_eq hrest, hstatus]

/-- The write of an order with stores that succeed is imported, or its upsert failed. -/
theorem WriteExit.ending {customer : CustomerResolution} {payload : NsOrderPayload}
    (h : WriteExit d customer payload t res) (hkey : dedupKey d.parts = .ok key)
    (hstores : StoresSucceed t) (hsteps : w.Steps t w') :
    (w' = w ∧ ∃ e, res = .error e) ∨
      ∃ u row, res = .ok (.imported d.connection.connectionId d.msg.orderGid u.internalId
          u.created customer) ∧ w'.xref key = some row ∧ row.status = .synced ∧
        row.targetId = some u.internalId ∧ orderUpserts t = [upserted d payload (.ok u)] := by
  cases h with
  | upsert e =>
    obtain ⟨w₁, hstep, hrest⟩ := steps_cons.mp hsteps
    obtain rfl := steps_nil.mp hrest
    exact .inl ⟨World.Step.eq_of_error hstep, e, rfl⟩
  | recordSuccess => exact (hstores.tail.head_ne_error rfl).elim
  | after hafter => cases hafter.eq_ok hkey hstores.tail.tail
  | @imported u row t hafter =>
    obtain ⟨w₁, hstep, hrest⟩ := steps_cons.mp hsteps
    obtain rfl := World.Step.eq_of_outside hstep rfl
    obtain ⟨w₂, hsuccess, hrest₁⟩ := steps_cons.mp hrest
    obtain ⟨key', hkey', _, hstatus, htarget, rfl⟩ := World.Step.recordSuccess_ok hsuccess
    obtain rfl : key' = key := Except.ok.inj (hkey'.symm.trans hkey)
    refine .inr ⟨u, row, rfl, ?_, hstatus, htarget, ?_⟩
    · simp [hafter.side.xref_eq hrest₁]
    · rw [orderUpserts_upserted, orderUpserts_cons_of_not rfl, hafter.side.no_upserts]

/-- The body after the claim returned: it ends in one of the four ways. -/
theorem ImportExit.ending {o : OrderHandlerOutcome} (h : ImportExit d P t (.ok o))
    (hkey : dedupKey d.parts = .ok key) (hwired : d.deps.errorStore = true)
    (hstores : StoresSucceed t) (hsteps : w.Steps t w')
    (hupserts : orderUpserts tr = orderUpserts t) : Ending d key tr w w' (.ok o) := by
  cases h with
  | ineligible _ hignore =>
    obtain ⟨w₁, hstep, hrest⟩ := steps_cons.mp hsteps
    obtain rfl := World.Step.eq_of_outside hstep rfl
    refine hignore.ending hkey hstores.tail hrest (hupserts.trans ?_)
    rw [orderUpserts_cons_of_not rfl, hignore.no_upserts]
  | parked _ _ hpark =>
    obtain ⟨w₁, hstep, hrest⟩ := steps_cons.mp hsteps
    obtain rfl := World.Step.eq_of_outside hstep rfl
    exact hpark.ending hkey hwired hstores.tail hrest
  | @written order customer payload t _ _ _ hwrite =>
    obtain ⟨w₁, hstep, hrest⟩ := steps_cons.mp hsteps
    obtain rfl := World.Step.eq_of_outside hstep rfl
    obtain ⟨_, e, he⟩ | ⟨u, row, ho, hrow, hstatus, htarget, honce⟩ :=
      hwrite.ending hkey hstores.tail hrest
    · cases he
    · cases ho
      refine .imported ⟨row, payload, u, hrow, hstatus, htarget, ?_⟩
      rw [hupserts, orderUpserts_cons_of_not rfl, honce]

/-- The body after the claim threw: the rows and the error records are as they were. -/
theorem ImportExit.eq_of_thrown {e : Thrown} (h : ImportExit d P t (.error e))
    (hkey : dedupKey d.parts = .ok key) (hstores : StoresSucceed t) (hsteps : w.Steps t w') :
    w' = w := by
  cases h with
  | fetch =>
    obtain ⟨w₁, hstep, hrest⟩ := steps_cons.mp hsteps
    obtain rfl := steps_nil.mp hrest
    exact World.Step.eq_of_error hstep
  | ineligible _ hignore =>
    cases hignore with
    | row => exact (hstores.tail.head_ne_error rfl).elim
    | log hlog => cases hlog.eq_ok hstores.tail.tail
  | call =>
    obtain ⟨w₁, hstep, hrest⟩ := steps_cons.mp hsteps
    obtain ⟨w₂, hcall, hrest₁⟩ := steps_cons.mp hrest
    obtain rfl := steps_nil.mp hrest₁
    exact (World.Step.eq_of_error hcall).trans (World.Step.eq_of_outside hstep rfl)
  | threw =>
    obtain ⟨w₁, hstep, hrest⟩ := steps_cons.mp hsteps
    obtain rfl := steps_nil.mp hrest
    exact World.Step.eq_of_outside hstep rfl
  | parked _ _ hpark =>
    cases hpark with
    | row => exact (hstores.tail.head_ne_error rfl).elim
    | record hrecord => cases hrecord.eq_ok hkey hstores.tail.tail
    | log _ hlog => cases hlog.eq_ok hstores.tail.tail.right
  | written _ _ hwrite =>
    obtain ⟨w₁, hstep, hrest⟩ := steps_cons.mp hsteps
    obtain rfl := World.Step.eq_of_outside hstep rfl
    obtain ⟨rfl, _⟩ | ⟨u, row, ho, _⟩ := hwrite.ending hkey hstores.tail hrest
    · rfl
    · cases ho

theorem ClaimedExit.ending (h : ClaimedExit d P t res) (hkey : dedupKey d.parts = .ok key)
    (hwired : d.deps.errorStore = true) (hstores : StoresSucceed t)
    (hrow : w.status key = some .pending) (hsteps : w.Steps t w')
    (hupserts : orderUpserts tr = orderUpserts t) : Ending d key tr w w' res := by
  cases h with
  | returned himport => exact himport.ending hkey hwired hstores hsteps hupserts
  | thrown himport hroute =>
    obtain ⟨w₁, hbody, hcatch⟩ := steps_append.mp hsteps
    obtain rfl := himport.eq_of_thrown hkey hstores.left hbody
    exact hroute.ending hkey hwired hstores.right hrow hcatch

/-- What the error records were before the claim does not matter to how it ends. -/
theorem Ending.of_errors_eq {w₁ : World} (h : Ending d key tr w₁ w' res)
    (herrors : w₁.errors = w.errors) : Ending d key tr w w' res := by
  cases h with
  | imported h => exact .imported h
  | parked hstatus hrecord =>
    obtain ⟨input, now, hflow, hrecord⟩ := hrecord
    exact .parked hstatus ⟨input, now, hflow, by rw [hrecord, herrors]⟩
  | ignored hstatus hupserts => exact .ignored hstatus hupserts
  | thrown hstatus => exact .thrown hstatus

theorem ClaimExit.ending (h : ClaimExit d P t res) (hkey : dedupKey d.parts = .ok key)
    (hwired : d.deps.errorStore = true) (hstores : StoresSucceed t)
    (habsent : w.xref key = none) (hsteps : w.Steps t w')
    (hupserts : orderUpserts tr = orderUpserts t) : Ending d key tr w w' res := by
  cases h with
  | failed => exact (hstores.head_ne_error rfl).elim
  | held hne =>
    obtain ⟨w₁, hstep, _⟩ := steps_cons.mp hsteps
    obtain ⟨key', hkey', ⟨row, hrow, _⟩ | ⟨_, rfl, _⟩⟩ := World.Step.claim_ok hstep
    · obtain rfl : key' = key := Except.ok.inj (hkey'.symm.trans hkey)
      rw [habsent] at hrow
      cases hrow
    · exact absurd rfl hne
  | claimed _ hclaimed =>
    obtain ⟨w₁, hstep, hrest⟩ := steps_cons.mp hsteps
    obtain ⟨key', hkey', ⟨row, hrow, _⟩ | ⟨_, _, rfl⟩⟩ := World.Step.claim_ok hstep
    all_goals obtain rfl : key' = key := Except.ok.inj (hkey'.symm.trans hkey)
    · rw [habsent] at hrow
      cases hrow
    · rw [orderUpserts_cons_of_not rfl] at hupserts
      refine (hclaimed.ending hkey hwired hstores.tail ?_ hrest hupserts).of_errors_eq rfl
      simp [World.status, ClaimInput.newRow]

/-- A delivery of an order without a row ends in one of the four ways. -/
theorem DeliverExit.ending (h : DeliverExit d P t res) (hkey : dedupKey d.parts = .ok key)
    (hwired : d.deps.errorStore = true) (hstores : StoresSucceed t)
    (habsent : w.xref key = none) (hsteps : w.Steps t w')
    (hupserts : orderUpserts tr = orderUpserts t) : Ending d key tr w w' res := by
  cases h with
  | direct _ hclaim => exact hclaim.ending hkey hwired hstores habsent hsteps hupserts
  | lookup => exact (hstores.head_ne_error rfl).elim
  | unknown _ hignore =>
    obtain ⟨w₁, hstep, hrest⟩ := steps_cons.mp hsteps
    obtain ⟨_, _, _, rfl⟩ := World.Step.lookupXref_ok hstep
    refine hignore.ending hkey hstores.tail hrest (hupserts.trans ?_)
    rw [orderUpserts_cons_of_not rfl, hignore.no_upserts]
  | known =>
    obtain ⟨w₁, hstep, _⟩ := steps_cons.mp hsteps
    obtain ⟨key', hkey', hfound, _⟩ := World.Step.lookupXref_ok hstep
    obtain rfl : key' = key := Except.ok.inj (hkey'.symm.trans hkey)
    rw [habsent] at hfound
    cases hfound

/-- A delivery whose store calls succeed has a dedup key. -/
theorem DeliverExit.exists_key (h : DeliverExit d P t res) (hstores : StoresSucceed t)
    (hsteps : w.Steps t w') : ∃ key, dedupKey d.parts = .ok key := by
  have hclaim {t : List Ev} {w : World} (h : ClaimExit d P t res) (hstores : StoresSucceed t)
      (hsteps : w.Steps t w') : ∃ key, dedupKey d.parts = .ok key := by
    cases h with
    | failed => exact (hstores.head_ne_error rfl).elim
    | held | claimed =>
      obtain ⟨w₁, hstep, _⟩ := steps_cons.mp hsteps
      obtain ⟨key, hkey, _⟩ := World.Step.claim_ok hstep
      exact ⟨key, hkey⟩
  cases h with
  | direct _ h => exact hclaim h hstores hsteps
  | lookup => exact (hstores.head_ne_error rfl).elim
  | unknown | known =>
    obtain ⟨w₁, hstep, _⟩ := steps_cons.mp hsteps
    obtain ⟨key, hkey, _⟩ := World.Step.lookupXref_ok hstep
    exact ⟨key, hkey⟩

end Endings

/-! ## Orders with a row -/

/-- A call to a store, a reading of the clock or a metric: nothing outside. -/
inductive StoreCall : Ev → Prop
  | store {c : Call} (h : c.isStore = true) (r : Except Thrown c.Ret) : StoreCall (answered c r)
  | clock (now : ℤ) : StoreCall ⟨.clock, now⟩
  | track (metric : Metric) : StoreCall ⟨.track metric, ()⟩

section Held

variable {res : Except Thrown OrderHandlerOutcome} {row : XrefRow}

/-- The attempt row is written with calls to stores only. -/
theorem Delivery.recordAttempt_stores (d : Delivery) (l : Locals) :
    Issues StoreCall (d.recordAttempt l) := by
  unfold Delivery.recordAttempt
  split
  · refine (Issues.observe .clock).bind fun now => ?_
    exact (issues_quietly (.store rfl)).bind fun _ => .pure _
  · exact .pure _

/-- A short circuit leaves an attempt row at most. -/
theorem shortCircuit_held {o : OrderHandlerOutcome} (h : Settles (shortCircuit d o) tr res)
    (hsteps : w.Steps tr w') : Only StoreCall tr ∧ w'.forget = w.forget ∧ res = .ok o := by
  have hmain := hsteps.main
  rw [(shortCircuit_exit h).1] at hmain
  have hcalls : Issues StoreCall (shortCircuit d o) :=
    (d.recordAttempt_stores _).bind fun _ => .pure _
  exact ⟨hcalls _ _ h, steps_nil.mp hmain, (shortCircuit_exit h).2⟩

theorem claimAndImport_held (h : Settles (claimAndImport d) tr res)
    (hkey : dedupKey d.parts = .ok key) (hstores : StoresSucceed tr)
    (hrow : w.xref key = some row) (hsteps : w.Steps tr w') :
    Only StoreCall tr ∧ w'.forget = w.forget ∧ res = .ok (d.held row.claimOutcome) := by
  obtain ⟨e, rfl, hclaim⟩ | ⟨r, t₁, t₂, rfl, hclaim, hrest⟩ := settles_bind.mp h
  · obtain rfl := settles_io.mp hclaim
    exact (hstores.head_ne_error rfl).elim
  obtain rfl := settles_io.mp hclaim
  obtain ⟨w₁, hstep, hrun⟩ := steps_cons.mp hsteps
  obtain ⟨key', hkey', ⟨row', hrow', rfl, rfl⟩ | ⟨habsent, _⟩⟩ := World.Step.claim_ok hstep
  all_goals obtain rfl : key' = key := Except.ok.inj (hkey'.symm.trans hkey)
  · obtain rfl : row' = row := Option.some.inj (hrow'.symm.trans hrow)
    have hhead : StoreCall (claimedBy d (.ok ⟨row'.claimOutcome, row'⟩)) := .store rfl _
    have hheld {o : OrderHandlerOutcome} (ho : d.held row'.claimOutcome = o)
        (h : Settles (shortCircuit d o) t₂ res) :
        Only StoreCall (claimedBy d (.ok ⟨row'.claimOutcome, row'⟩) :: t₂) ∧
          w'.forget = w₁.forget ∧ res = .ok (d.held row'.claimOutcome) := by
      obtain ⟨hcalls, hforget, hres⟩ := shortCircuit_held h hrun
      exact ⟨.cons hhead hcalls, hforget, by rw [hres, ho]⟩
    split at hrest
    · next hoc => exact hheld (congrArg d.held hoc) hrest
    · next hoc => exact hheld (congrArg d.held hoc) hrest
    · next hoc => exact hheld (congrArg d.held hoc) hrest
    · next hoc => exact absurd hoc row'.claimOutcome_ne_claimed
  · rw [hrow] at habsent
    cases habsent

/-- A delivery of an order with a row calls stores only, leaves an attempt row at most, and
answers about the row. -/
theorem deliver_held (h : Settles (deliver d) tr res) (hkey : dedupKey d.parts = .ok key)
    (hstores : StoresSucceed tr) (hrow : w.xref key = some row) (hsteps : w.Steps tr w') :
    Only StoreCall tr ∧ w'.forget = w.forget ∧ res = .ok (d.held row.claimOutcome) := by
  unfold deliver at h
  split at h
  · obtain ⟨e, rfl, hlookup⟩ | ⟨found, t₁, t₂, rfl, hlookup, hrest⟩ := settles_bind.mp h
    · obtain rfl := settles_io.mp hlookup
      exact (hstores.head_ne_error rfl).elim
    obtain rfl := settles_io.mp hlookup
    obtain ⟨w₁, hstep, hrun⟩ := steps_cons.mp hsteps
    obtain ⟨key', hkey', rfl, rfl⟩ := World.Step.lookupXref_ok hstep
    obtain rfl : key' = key := Except.ok.inj (hkey'.symm.trans hkey)
    rw [hrow] at hrest
    obtain ⟨hcalls, hforget, hres⟩ := claimAndImport_held hrest hkey hstores.tail hrow hrun
    exact ⟨.cons (.store rfl _) hcalls, hforget, hres⟩
  · exact claimAndImport_held h hkey hstores hrow hsteps

end Held

/-! ## The documented state machine -/

/-- What is documented of a delivery: with the row that it found, or with none. -/
structure Documented (d : Delivery) (key : String) (tr : List Ev)
    (res : Except Thrown OrderHandlerOutcome) (w w' : World) : Prop where
  /-- An order with a row: stores only, attempt rows only, and the answer is its status. -/
  held : ∀ row, w.xref key = some row → Only StoreCall tr ∧ w'.forget = w.forget ∧
    (res = .ok (.alreadySynced d.connection.connectionId d.msg.orderGid) ↔
      row.status = .synced) ∧
    (res = .ok (.ignored d.connection.connectionId d.msg.orderGid) ↔ row.status = .ignored) ∧
    (res = .ok (.alreadyClaimed d.connection.connectionId d.msg.orderGid) ↔
      row.status = .pending ∨ row.status = .error)
  imported : w.xref key = none →
    ((∃ targetId created customer, res = .ok (.imported d.connection.connectionId d.msg.orderGid
      targetId created customer)) ↔ SyncedByUpsert d key tr w')
  parked : w.xref key = none →
    ((∃ stage detail errorClass, res = .ok (.parked d.connection.connectionId d.msg.orderGid
      stage detail errorClass)) ↔ w'.status key = some .error ∧ RecordedOnce w w')
  ignored : w.xref key = none →
    ((∃ reason detail, res = .ok (.ignoredByEligibility d.connection.connectionId d.msg.orderGid
      reason detail)) ↔ w'.status key = some .ignored ∧ orderUpserts tr = [])
  thrown : w.xref key = none → ((∃ e, res = .error e) ↔ w'.status key = some .pending)

section Documented

variable {res : Except Thrown OrderHandlerOutcome} {message : Js.Value}

theorem SyncedByUpsert.status_eq (h : SyncedByUpsert d key tr w') :
    w'.status key = some .synced := by
  obtain ⟨row, _, _, hrow, hstatus, _⟩ := h
  simp [World.status, hrow, hstatus]

/-- The four endings differ in the status they leave, so each is known by its status. -/
theorem Ending.iffs (h : Ending d key tr w w' res) :
    ((∃ targetId created customer, res = .ok (.imported d.connection.connectionId d.msg.orderGid
      targetId created customer)) ↔ SyncedByUpsert d key tr w') ∧
    ((∃ stage detail errorClass, res = .ok (.parked d.connection.connectionId d.msg.orderGid
      stage detail errorClass)) ↔ w'.status key = some .error ∧ RecordedOnce w w') ∧
    ((∃ reason detail, res = .ok (.ignoredByEligibility d.connection.connectionId d.msg.orderGid
      reason detail)) ↔ w'.status key = some .ignored ∧ orderUpserts tr = []) ∧
    ((∃ e, res = .error e) ↔ w'.status key = some .pending) := by
  have hsynced (hne : w'.status key ≠ some .synced) : ¬SyncedByUpsert d key tr w' :=
    fun h => hne h.status_eq
  cases h with
  | imported hs => simp [hs, hs.status_eq]
  | parked hstatus hrecord => simp [hstatus, hrecord, hsynced]
  | ignored hstatus hupserts => simp [hstatus, hupserts, hsynced]
  | thrown hstatus => simp [hstatus, hsynced]

/-- The answer about a row is its status. -/
theorem held_iffs (row : XrefRow) (hres : res = .ok (d.held row.claimOutcome)) :
    (res = .ok (.alreadySynced d.connection.connectionId d.msg.orderGid) ↔
      row.status = .synced) ∧
    (res = .ok (.ignored d.connection.connectionId d.msg.orderGid) ↔ row.status = .ignored) ∧
    (res = .ok (.alreadyClaimed d.connection.connectionId d.msg.orderGid) ↔
      row.status = .pending ∨ row.status = .error) := by
  subst hres
  cases hstatus : row.status <;> simp [XrefRow.claimOutcome, hstatus, Delivery.held]

end Documented

/-- A delivery of a well-formed message for an enabled connection, with the error store and
the ledger wired, all of whose store calls succeeded. -/
structure Delivery.Regular (d : Delivery) (message : Js.Value) (w : World) (tr : List Ev) :
    Prop where
  delivers : d.Delivers message w
  errorStore : d.deps.errorStore = true
  orderSyncLog : d.deps.orderSyncLog = true
  stores : StoresSucceed tr

section Regular

variable {res : Except Thrown OrderHandlerOutcome} {message : Js.Value}

/-- A regular delivery does what is documented, and leaves a row. -/
theorem Delivery.Regular.documented (hreg : d.Regular message w tr)
    (h : (d.handling message).Performs w (tr, res) w') :
    ∃ key, dedupKey d.parts = .ok key ∧ Documented d key tr res w w' := by
  obtain ⟨e, rfl, _⟩ | ⟨t, rfl, hdeliver, hsteps⟩ := hreg.delivers.performs h
  · exact (hreg.stores.head_ne_error rfl).elim
  have hmain := hsteps.main
  have hstores := hreg.stores.tail
  have hexit := deliver_exit hdeliver
  obtain ⟨key, hkey⟩ := hexit.exists_key hstores.main_calls hmain
  refine ⟨key, hkey, ?_⟩
  cases hrow : w.xref key with
  | some row =>
    obtain ⟨hcalls, hforget, hres⟩ := deliver_held hdeliver hkey hstores hrow hsteps
    refine ⟨fun row' hrow' => ?_, ?_, ?_, ?_, ?_⟩
    · obtain rfl : row = row' := Option.some.inj (hrow.symm.trans hrow')
      exact ⟨.cons (.store rfl _) hcalls, hforget, held_iffs row hres⟩
    all_goals
      intro habsent
      rw [hrow] at habsent
      cases habsent
  | none =>
    have hupserts : orderUpserts
        (connectionFound d.deps d.msg.connectionId (.ok (some d.connection)) :: t) =
          orderUpserts (main t) := by
      rw [orderUpserts_cons_of_not rfl, orderUpserts_main]
    have habsent : w.forget.xref key = none := hrow
    have hending := hexit.ending hkey hreg.errorStore hstores.main_calls habsent hmain hupserts
    obtain ⟨himported, hparked, hignored, hthrown⟩ := hending.iffs
    refine ⟨fun row hrow' => ?_, fun _ => himported, fun _ => hparked, fun _ => hignored,
      fun _ => hthrown⟩
    rw [hrow] at hrow'
    cases hrow'

/-- Deliveries delete no row. -/
theorem MainCall.not_delete {parts : DedupKeyParts} {r : Except Thrown (Option XrefRow)}
    (h : MainCall d (answered (.deleteXref parts) r)) : False := by
  cases h with
  | side h => cases h
  | preparatory hprep => cases hprep

theorem deliver_not_delete (h : Settles (deliver d) tr res) (parts : DedupKeyParts)
    (r : Except Thrown (Option XrefRow)) : answered (.deleteXref parts) r ∉ tr :=
  fun hmem => ((deliver_exit h).main_calls _ (mem_main rfl rfl hmem)).not_delete

/-- A regular delivery leaves rows where there were rows. -/
theorem Delivery.Regular.row_ne_none_of (hreg : d.Regular message w tr)
    (h : (d.handling message).Performs w (tr, res) w') (hrow : w.xref key ≠ none) :
    w'.xref key ≠ none := by
  obtain ⟨e, rfl, _⟩ | ⟨t, rfl, hdeliver, hsteps⟩ := hreg.delivers.performs h
  · exact (hreg.stores.head_ne_error rfl).elim
  · exact hsteps.row_ne_none (deliver_not_delete hdeliver) hrow

/-- A regular delivery leaves a row of its own key. -/
theorem Delivery.Regular.row_ne_none (hreg : d.Regular message w tr)
    (h : (d.handling message).Performs w (tr, res) w') (hkey : dedupKey d.parts = .ok key) :
    w'.xref key ≠ none := by
  by_cases hrow : w.xref key = none
  · obtain ⟨key', hkey', hdoc⟩ := hreg.documented h
    obtain rfl : key' = key := Except.ok.inj (hkey'.symm.trans hkey)
    intro habsent
    have hstatus : w'.status key' = none := by simp [World.status, habsent]
    obtain ⟨e, rfl, _⟩ | ⟨t, rfl, hdeliver, hsteps⟩ := hreg.delivers.performs h
    · exact (hreg.stores.head_ne_error rfl).elim
    have habsent₀ : w.forget.xref key' = none := hrow
    have hending := (deliver_exit hdeliver).ending hkey hreg.errorStore
      hreg.stores.tail.main_calls habsent₀ hsteps.main rfl
    cases hending with
    | imported hs =>
      have hsynced : w'.status key' = some .synced := hs.status_eq
      simp [hstatus] at hsynced
    | parked hs | ignored hs | thrown hs =>
      rw [World.forget_status, hstatus] at hs
      cases hs
  · exact hreg.row_ne_none_of h hrow

end Regular

/-! ## Histories of deliveries -/

/-- What a history says of a regular delivery: its handling, its calls and its result. -/
inductive RegularDelivery (w : World) (d : Delivery) : Event Activity Activity.Record → Prop
  | intro {message : Js.Value} {tr : List Ev} {res : Except Thrown OrderHandlerOutcome}
      (h : d.Regular message w tr) : RegularDelivery w d ⟨d.handling message, (tr, res)⟩

theorem Delivery.Regular.of_connections {message : Js.Value} (h : d.Regular message w tr)
    (hconn : w'.connections = w.connections) : d.Regular message w' tr :=
  { h with delivers := h.delivers.of_connections hconn }

/-- Induction on the history: an earlier delivery of the key leaves a row, and every later
delivery keeps it. -/
theorem row_ne_none_of_history {history : History} (hpasses : w.Passes history w')
    (hregular : ∀ ev ∈ history, ∃ d, RegularDelivery w d ev)
    (hearlier : w.xref key ≠ none ∨
      ∃ ev ∈ history, ∃ d, RegularDelivery w d ev ∧ dedupKey d.parts = .ok key) :
    w'.xref key ≠ none := by
  induction hpasses with
  | nil =>
    obtain hrow | ⟨ev, hev, _⟩ := hearlier
    · exact hrow
    · cases hev
  | @cons a r w w₁ w' history hperforms hrest ih =>
    have hconn : w₁.connections = w.connections := World.Steps.connections_eq hperforms.steps
    have hcarry {ev : Event Activity Activity.Record} {d : Delivery}
        (h : RegularDelivery w d ev) : RegularDelivery w₁ d ev := by
      obtain ⟨h⟩ := h
      exact .intro (h.of_connections hconn)
    obtain ⟨d, hd⟩ := hregular _ (List.mem_cons_self ..)
    refine ih (fun ev hev => ?_) ?_
    · obtain ⟨d', hd'⟩ := hregular ev (List.mem_cons_of_mem _ hev)
      exact ⟨d', hcarry hd'⟩
    obtain hrow | ⟨ev, hev, d', hd', hkey⟩ := hearlier
    · obtain ⟨hreg⟩ := hd
      exact .inl (hreg.row_ne_none_of hperforms hrow)
    obtain rfl | hev := List.mem_cons.mp hev
    · obtain ⟨hreg⟩ := hd'
      exact .inl (hreg.row_ne_none hperforms hkey)
    · exact .inr ⟨ev, hev, d', hcarry hd', hkey⟩

/-- The handler is the state machine that it documents: after any history of regular
deliveries, a regular delivery does what is documented, and if the history had one of the
same key, it calls stores only and changes nothing but attempt rows. -/
theorem handler_is_stateMachine {history : History} {message : Js.Value} {w₂ : World}
    {res : Except Thrown OrderHandlerOutcome} (hpasses : w.Passes history w')
    (hregular : ∀ ev ∈ history, ∃ d, RegularDelivery w d ev)
    (hreg : d.Regular message w' tr) (h : (d.handling message).Performs w' (tr, res) w₂) :
    ∃ key, dedupKey d.parts = .ok key ∧ Documented d key tr res w' w₂ ∧
      ((∃ ev ∈ history, ∃ d₀, RegularDelivery w d₀ ev ∧ dedupKey d₀.parts = .ok key) →
        Only StoreCall tr ∧ w₂.forget = w'.forget) := by
  obtain ⟨key, hkey, hdoc⟩ := hreg.documented h
  refine ⟨key, hkey, hdoc, fun hearlier => ?_⟩
  have hrow := row_ne_none_of_history hpasses hregular (.inr hearlier)
  obtain ⟨row, hrow⟩ := Option.ne_none_iff_exists'.mp hrow
  obtain ⟨hcalls, hforget, _⟩ := hdoc.held row hrow
  exact ⟨hcalls, hforget⟩

/-- The order of the shop, delivered twice: the second delivery changes nothing. -/
theorem handler_is_stateMachine_twice :
    let d := Shop.delivery (Shop.message none "orders/create")
    let m := (Shop.message none "orders/create").toJs
    let first := Shop.up.perform (d.handling m) Shop.world
    let second := Shop.up.perform (d.handling m) first.2
    ∃ key, dedupKey d.parts = .ok key ∧
      Documented d key second.1.1 second.1.2 first.2 second.2 ∧
      ((∃ ev ∈ [⟨d.handling m, first.1⟩], ∃ d₀,
          RegularDelivery Shop.world d₀ ev ∧ dedupKey d₀.parts = .ok key) →
        Only StoreCall second.1.1 ∧ second.2.forget = first.2.forget) := by
  intro d m first second
  have hpasses : Shop.world.Passes [⟨d.handling m, first.1⟩] first.2 :=
    .cons (Shop.up.performs _ _) (.nil _)
  have hdelivers : d.Delivers m Shop.world :=
    Shop.delivers (Shop.message_wellFormed _ (by decide)) rfl rfl rfl
  have hfirst : d.Regular m Shop.world first.1.1 := ⟨hdelivers, rfl, rfl, by decide +kernel⟩
  have hsecond : d.Regular m first.2 second.1.1 :=
    ⟨hdelivers.of_connections hpasses.connections_eq, rfl, rfl, by decide +kernel⟩
  refine handler_is_stateMachine hpasses (fun ev hev => ?_) hsecond (Shop.up.performs _ _)
  obtain rfl := List.mem_singleton.mp hev
  exact ⟨d, .intro hfirst⟩

end DpIntegrator
