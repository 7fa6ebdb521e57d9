import DpIntegrator.Delivery.OtherOrders
import DpIntegrator.Effects.Lockstep

/-!
# Two runs of a delivery

Two runs of the handler for one message, against stores that agree on the rows of its order
and on nothing else, at different times. Times aside they make the same calls, end in the
same way and leave the same rows of the order.
-/

namespace DpIntegrator

open Effects

variable {d : Delivery} {α β : Type}

/-! ## Times aside -/

/-- Some time, if there is one. -/
abbrev noTime (t : Option ℤ) : Option ℤ := t.map fun _ => 0

def ClaimResult.timeless (r : ClaimResult) : ClaimResult := { r with row := r.row.timeless }

def OrderSyncLogInput.timeless (input : OrderSyncLogInput) : OrderSyncLogInput :=
  { input with syncedAt := noTime input.syncedAt }

def OrderAttemptInput.timeless (input : OrderAttemptInput) : OrderAttemptInput :=
  { input with finishedAt := 0, durationMs := 0 }

/-- A metric without its duration. -/
def Metric.timeless : Metric → Metric
  | .imported environment connectionId _ => .imported environment connectionId 0
  | metric => metric

/-- An operation without the times among its arguments. -/
def Op.timeless : Op → Op
  | .io (.upsertSyncLog input) => .io (.upsertSyncLog input.timeless)
  | .io (.recordAttempt input) => .io (.recordAttempt input.timeless)
  | .track metric => .track metric.timeless
  | o => o

/-- An answered operation without the times in it. -/
def timeless : Ev → Ev
  | ⟨.io (.upsertSyncLog input), r⟩ => answered (.upsertSyncLog input.timeless) r
  | ⟨.io (.recordAttempt input), r⟩ => answered (.recordAttempt input.timeless) r
  | ⟨.io (.lookupXref parts), r⟩ => answered (.lookupXref parts) (r.map (Option.map XrefRow.timeless))
  | ⟨.io (.claim input), r⟩ => answered (.claim input) (r.map ClaimResult.timeless)
  | ⟨.io (.recordSuccess parts targetId externalId), r⟩ =>
    answered (.recordSuccess parts targetId externalId) (r.map XrefRow.timeless)
  | ⟨.io (.recordFailure parts), r⟩ => answered (.recordFailure parts) (r.map XrefRow.timeless)
  | ⟨.io (.markIgnored parts), r⟩ => answered (.markIgnored parts) (r.map XrefRow.timeless)
  | ⟨.io (.deleteXref parts), r⟩ =>
    answered (.deleteXref parts) (r.map (Option.map XrefRow.timeless))
  | ⟨.track metric, u⟩ => ⟨.track metric.timeless, u⟩
  | ⟨.clock, _⟩ => ⟨.clock, (0 : ℤ)⟩
  | ev => ev

/-- The same operation at another time. -/
def SameOp (o o' : Op) : Prop := o.timeless = o'.timeless

/-- The same operation, answered in the same way, at another time. -/
def SameEv (ev ev' : Ev) : Prop := timeless ev = timeless ev'

/-- Calls and answers without times. -/
def Call.isTimeless : Call → Bool
  | .upsertSyncLog .. | .recordAttempt .. | .lookupXref .. | .claim .. | .recordSuccess ..
  | .recordFailure .. | .markIgnored .. | .deleteXref .. => false
  | _ => true

theorem timeless_of_isTimeless {c : Call} (h : c.isTimeless = true) (r : Except Thrown c.Ret) :
    timeless (answered c r) = answered c r := by
  cases c <;> first | rfl | cases h

/-! ## Parts of the handler -/

/-- Two runs of a program stay in step, whatever the time is. -/
abbrev Steady (x : Async α) : Prop := InStep SameOp SameEv Eq x x

abbrev SteadyFrom (x : Handler α) : Prop := InStepFrom SameOp SameEv Eq x x

namespace Steady

variable {x : Async α} {f : α → Async β}

theorem pure (a : α) : Steady (Pure.pure a : Async α) := InStep.pure rfl

theorem bind (hx : Steady x) (hf : ∀ a, Steady (f a)) : Steady (x >>= f) := by
  refine InStep.bind hx fun a b hab => ?_
  subst hab
  exact hf a

theorem io {c : Call} (h : c.isTimeless = true) : Steady (Async.io c) := by
  refine .call rfl fun r r' halike => ?_
  have heq : timeless (answered c r) = timeless (answered c r') := halike
  rw [timeless_of_isTimeless h, timeless_of_isTimeless h] at heq
  obtain rfl : r = r' := by simpa using heq
  cases r with
  | error e => exact .ret (.error e)
  | ok a => exact .ret (.ok rfl)

theorem ofExcept (r : Except Thrown α) : Steady (Async.ofExcept r) := by
  cases r with
  | error e => exact .ret (.error e)
  | ok a => exact .ret (.ok rfl)

theorem quietly {c : Call} (h : c.isTimeless = true) : Steady (Async.quietly c) :=
  InStep.tryCatch ((Steady.io h).bind fun _ => .pure _) fun _ => InStep.pure rfl

/-- What is built of timeless calls. -/
theorem of_built {allowed : Call → Prop} (h : Built allowed x)
    (hallowed : ∀ c, allowed c → c.isTimeless = true) : Steady x := by
  induction h with
  | pure a => exact .pure a
  | throw e => exact .throw e
  | ofExcept r => exact .ofExcept r
  | io h => exact .io (hallowed _ h)
  | bind _ _ ih ih' => exact ih.bind ih'

end Steady

namespace SteadyFrom

variable {x : Handler α} {f : α → Handler β}

theorem pure (a : α) : SteadyFrom (Pure.pure a : Handler α) := InStepFrom.pure rfl

theorem bind (hx : SteadyFrom x) (hf : ∀ a, SteadyFrom (f a)) : SteadyFrom (x >>= f) := by
  refine InStepFrom.bind hx fun a b hab => ?_
  subst hab
  exact hf a

theorem await {y : Async α} (h : Steady y) : SteadyFrom (Scoped.await y : Handler α) :=
  InStepFrom.await h

end SteadyFrom

/-- The clock may show anything. -/
theorem inStep_now : InStep SameOp SameEv (fun _ _ => True) Async.now Async.now :=
  .call rfl fun _ _ _ => .ret (.ok trivial)

/-- The same metric at another time. -/
theorem inStep_track {metric metric' : Metric} (h : metric.timeless = metric'.timeless) :
    InStep SameOp SameEv Eq (d.track metric) (d.track metric') := by
  unfold Delivery.track
  split
  · have hop : SameOp (.track metric) (.track metric') := congrArg Op.track h
    exact .call hop fun _ _ _ => .ret (.ok rfl)
  · exact .pure rfl

/-- The same ledger row at another time. -/
theorem inStep_writeSyncLog {shape shape' : SyncLogShape}
    (h : (d.syncLogInput shape).timeless = (d.syncLogInput shape').timeless) :
    InStep SameOp SameEv Eq (d.writeSyncLog shape) (d.writeSyncLog shape') := by
  unfold Delivery.writeSyncLog
  split
  · refine .call (congrArg (fun input => Op.io (.upsertSyncLog input)) h) fun r r' halike => ?_
    have heq : answered (.upsertSyncLog (d.syncLogInput shape).timeless) r =
        answered (.upsertSyncLog (d.syncLogInput shape').timeless) r' := halike
    rw [h] at heq
    obtain rfl : r = r' := by simpa using heq
    cases r with
    | error e => exact .ret (.error e)
    | ok u => exact .ret (.ok rfl)
  · exact .pure rfl

theorem steady_recordError (input : String → NewErrorInput) : Steady (d.recordError input) := by
  unfold Delivery.recordError
  split
  · exact (Steady.ofExcept _).bind fun _ => .io rfl
  · exact .pure _

/-- Calls of which the times in the answer are of no interest. -/
theorem inStep_io {c : Call} (aside : c.Ret → c.Ret)
    (h : ∀ r, timeless (answered c r) = answered c (r.map aside)) :
    InStep SameOp SameEv (fun a b => aside a = aside b) (Async.io c) (Async.io c) := by
  refine .call rfl fun r r' halike => ?_
  have heq : timeless (answered c r) = timeless (answered c r') := halike
  rw [h, h] at heq
  have hmap : r.map aside = r'.map aside := by simpa using heq
  cases r with
  | error e =>
    cases r' with
    | error e' =>
      cases hmap
      exact .ret (.error e)
    | ok b => cases hmap
  | ok a =>
    cases r' with
    | error e' => cases hmap
    | ok b => exact .ret (.ok (Except.ok.inj hmap))

/-- The same attempt row at another time; its failure is swallowed. -/
theorem inStep_quietly {input input' : OrderAttemptInput} (h : input.timeless = input'.timeless) :
    InStep SameOp SameEv (fun _ _ => True) (Async.quietly (.recordAttempt input))
      (Async.quietly (.recordAttempt input')) := by
  have hop : SameOp (.io (.recordAttempt input)) (.io (.recordAttempt input')) :=
    congrArg (fun input => Op.io (.recordAttempt input)) h
  refine .call hop fun r r' _ => ?_
  cases r with
  | error e => cases r' <;> exact .ret (.ok trivial)
  | ok u => cases r' <;> exact .ret (.ok trivial)

theorem steady_recordAttempt (l : Locals) : Steady (d.recordAttempt l) := by
  unfold Delivery.recordAttempt
  split
  · refine InStep.bind inStep_now fun now now' _ => ?_
    exact InStep.bind (inStep_quietly rfl) fun _ _ _ => InStep.pure rfl
  · exact .pure _

theorem steady_parkOutcome (park : ParkInput) : Steady (parkOutcome d park) := by
  refine InStep.bind (inStep_io XrefRow.timeless fun _ => rfl) fun _ _ _ => ?_
  refine (steady_recordError _).bind fun _ => ?_
  refine Steady.bind (inStep_track rfl) fun _ => ?_
  exact Steady.bind (inStep_writeSyncLog rfl) fun _ => .pure _

theorem steady_classifyAndRoute (err : Thrown) (order : Option ShopifyOrder) :
    Steady (classifyAndRoute d err order) := by
  unfold classifyAndRoute
  dsimp only
  split
  · split
    · refine (steady_recordError _).bind fun _ => ?_
      exact Steady.bind (inStep_track rfl) fun _ => InStep.throw err
    · exact InStep.throw err
  · exact steady_parkOutcome _

theorem PreparatoryFor.isTimeless {connection : Connection} {c : Call}
    (h : PreparatoryFor connection c) : c.isTimeless = true := by
  cases h <;> rfl

theorem steady_prepareOrder (order : ShopifyOrder) : Steady (prepareOrder d order) :=
  .of_built (built_prepareOrder d order) fun _ h => h.isTimeless

theorem steady_writeTag (internalId : String) : Steady (writeTag d internalId) := by
  unfold writeTag
  split
  · refine InStep.tryCatch ((Steady.io rfl).bind fun _ => .pure _) fun _ => ?_
    exact steady_recordError _
  · exact .pure _

/-- The time of the import goes into the metric and the ledger row, and nowhere else. -/
theorem steady_afterImport (order : ShopifyOrder) (internalId : String) (uri : Option String) :
    Steady (afterImport d order internalId uri) := by
  refine InStep.bind inStep_now fun now now' _ => ?_
  refine InStep.bind (inStep_track rfl) fun _ _ _ => ?_
  exact InStep.bind (inStep_writeSyncLog rfl) fun _ _ _ => steady_writeTag internalId

theorem steady_finish (o : OrderHandlerOutcome) : SteadyFrom (finish o) :=
  SteadyFrom.bind (InStepFrom.modify _) fun _ => .pure o

theorem steady_archive {payload : Js.Fields} {kind : PayloadKind}
    {nsAccountId nsRecordType : Option String} {set : Option String → Locals → Locals} :
    SteadyFrom (d.archive payload kind nsAccountId nsRecordType set) := by
  unfold Delivery.archive
  split
  · exact (SteadyFrom.await (.quietly rfl)).bind fun _ => InStepFrom.modify _
  · exact .pure _

theorem steady_writeOrder (order : ShopifyOrder) (customer : CustomerResolution)
    (payload : NsOrderPayload) : SteadyFrom (writeOrder d order customer payload) := by
  refine steady_archive.bind fun _ => ?_
  refine SteadyFrom.bind (InStepFrom.modify _) fun _ => ?_
  refine (SteadyFrom.await (.io rfl)).bind fun upserted => ?_
  have hrecord : SteadyFrom (do
      let _ ← Scoped.await (Async.io (.recordSuccess d.parts upserted.internalId d.msg.orderGid))
      let l ← get
      Scoped.await (afterImport d order upserted.internalId l.outboundPayloadUri)
      finish (.imported d.connection.connectionId d.msg.orderGid upserted.internalId
        upserted.created customer)) := by
    refine InStepFrom.bind (InStepFrom.await (inStep_io XrefRow.timeless fun _ => rfl))
      fun _ _ _ => ?_
    refine SteadyFrom.bind InStepFrom.get fun l => ?_
    exact (SteadyFrom.await (steady_afterImport _ _ _)).bind fun _ => steady_finish _
  dsimp only
  split
  · refine SteadyFrom.bind (InStepFrom.modify _) fun _ => ?_
    exact steady_archive.bind fun _ => hrecord
  · exact hrecord

theorem steady_importOrder : SteadyFrom (importOrder d) := by
  refine (SteadyFrom.await (.io rfl)).bind fun order => ?_
  refine SteadyFrom.bind (InStepFrom.modify _) fun _ => ?_
  refine steady_archive.bind fun _ => ?_
  split
  · refine InStepFrom.bind (InStepFrom.await (inStep_io XrefRow.timeless fun _ => rfl))
      fun _ _ _ => ?_
    refine (SteadyFrom.await (inStep_writeSyncLog rfl)).bind fun _ => ?_
    exact (SteadyFrom.await (inStep_track rfl)).bind fun _ => steady_finish _
  · refine (SteadyFrom.await (steady_prepareOrder order)).bind fun prepared => ?_
    cases prepared with
    | parked stage detail errorClass =>
      exact (SteadyFrom.await (steady_parkOutcome _)).bind fun _ => steady_finish _
    | ready customer payload => exact steady_writeOrder _ _ _

theorem steady_routeThrown (err : Thrown) : SteadyFrom (routeThrown d err) := by
  have harchive : SteadyFrom (archiveThrown d err) := by
    unfold archiveThrown
    split
    · exact InStepFrom.throw _
    · exact InStepFrom.throw _
    · exact SteadyFrom.bind (InStepFrom.modify _) fun _ => steady_archive
    · exact .pure _
  refine harchive.bind fun _ => SteadyFrom.bind InStepFrom.get fun l => ?_
  refine InStepFrom.tryCatch ?_ fun _ =>
    SteadyFrom.bind (InStepFrom.modify _) fun _ => InStepFrom.throw _
  exact (SteadyFrom.await (steady_classifyAndRoute _ _)).bind fun _ => steady_finish _

/-- The claim answers about its outcome; the row in its answer nobody reads. -/
theorem steady_claimAndImport : Steady (claimAndImport d) := by
  refine InStep.bind (inStep_io ClaimResult.timeless fun _ => rfl) fun claim claim' hclaim => ?_
  have houtcome : claim.timeless.outcome = claim'.timeless.outcome :=
    congrArg ClaimResult.outcome hclaim
  change claim.outcome = claim'.outcome at houtcome
  have hshort (o : OrderHandlerOutcome) : Steady (shortCircuit d o) :=
    (steady_recordAttempt _).bind fun _ => .pure _
  rw [← houtcome]
  split
  · exact hshort _
  · exact hshort _
  · exact hshort _
  · exact InStepFrom.withFinally (InStepFrom.tryCatch steady_importOrder steady_routeThrown) _
      steady_recordAttempt

theorem steady_deliver : Steady (deliver d) := by
  unfold deliver
  split
  · refine InStep.bind (inStep_io (Option.map XrefRow.timeless) fun _ => rfl)
      fun found found' hfound => ?_
    cases found with
    | none =>
      obtain rfl : found' = none := by simpa using hfound.symm
      refine InStep.bind (inStep_io XrefRow.timeless fun _ => rfl) fun _ _ _ => ?_
      refine Steady.bind (inStep_writeSyncLog rfl) fun _ => ?_
      refine Steady.bind (inStep_track rfl) fun _ => ?_
      exact (steady_recordAttempt _).bind fun _ => .pure _
    | some row =>
      cases found' with
      | none => cases hfound
      | some row' => exact steady_claimAndImport
  · exact steady_claimAndImport

/-- Two runs of the handler stay in step, whatever the time is. -/
theorem steady_handleOrderMessage (deps : OrderHandlerDeps) (message : Js.Value)
    (attemptCtx : Option AttemptContext) : Steady (handleOrderMessage deps message attemptCtx) := by
  unfold handleOrderMessage
  split
  · exact .pure _
  · split
    · exact .pure _
    · refine (Steady.io rfl).bind fun found => ?_
      cases found with
      | none => exact .pure _
      | some connection =>
        dsimp only
        split
        · exact steady_deliver
        · exact .pure _

end DpIntegrator
