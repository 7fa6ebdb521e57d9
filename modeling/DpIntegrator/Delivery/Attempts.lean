import DpIntegrator.Delivery.Responses

/-!
# Attempt rows

A delivery leaves an attempt row where it ends: inline when the claim finds the row held,
and in the `finally` of the pipeline after a new claim. This file follows the variables of
the pipeline to that `finally`, shows that the row it writes tells how the delivery ended,
and finds the deliveries that end without a row.
-/

namespace DpIntegrator

open Effects

/-! ## Rows -/

/-- The attempt row that an answered call wrote, if it wrote one. -/
def attemptRow : Ev → Option OrderAttemptInput
  | ⟨.io (.recordAttempt input), .ok _⟩ => some input
  | _ => none

/-- The attempt rows that a list of calls wrote, in order. -/
def attemptRows (tr : List Ev) : List OrderAttemptInput := tr.filterMap attemptRow

@[simp] theorem attemptRows_append {t t' : List Ev} :
    attemptRows (t ++ t') = attemptRows t ++ attemptRows t' := List.filterMap_append

theorem World.Step.attempts_eq {ev : Ev} {w w' : World} (h : Step ev.1 w ev.2 w') :
    w'.attempts.map OrderAttempt.toOrderAttemptInput =
      w.attempts.map OrderAttempt.toOrderAttemptInput ++ attemptRows [ev] := by
  obtain ⟨o, r⟩ := ev
  cases o with
  | clock | track =>
    cases h
    simp [attemptRows, attemptRow]
  | io c =>
    by_cases hc : ∃ input, c = .recordAttempt input
    · obtain ⟨input, rfl⟩ := hc
      cases r with
      | error e =>
        rw [h.eq_of_error]
        simp [attemptRows, attemptRow]
      | ok r =>
        obtain ⟨now, rfl⟩ := h.recordAttempt_ok
        simp [attemptRows, attemptRow, recordAttemptRow]
    · have hnone : attemptRow ⟨.io c, r⟩ = none := by
        unfold attemptRow
        split
        · next heq => exact absurd ⟨_, Op.io.inj (Sigma.mk.inj heq).1⟩ hc
        · rfl
      rw [h.attempts_same fun input heq => hc ⟨input, heq⟩]
      simp [attemptRows, hnone]

/-- The attempt rows of the stores are those that were written. -/
theorem World.Steps.attempts_eq {tr : List Ev} {w w' : World} (h : Steps w tr w') :
    w'.attempts.map OrderAttempt.toOrderAttemptInput =
      w.attempts.map OrderAttempt.toOrderAttemptInput ++ attemptRows tr := by
  induction h with
  | nil w => simp [attemptRows]
  | @cons o r w w₁ w' tr hstep _ ih =>
    have hfirst := @Step.attempts_eq ⟨o, r⟩ _ _ hstep
    rw [ih, hfirst, List.append_assoc, ← attemptRows_append, List.singleton_append]

/-- The kind of an outcome, as attempt rows tell it. -/
def OrderHandlerOutcome.attempt : OrderHandlerOutcome → OrderAttemptOutcome
  | .imported .. => .imported
  | .parked .. => .parked
  | .ignoredByEligibility .. => .ignoredByEligibility
  | .alreadySynced .. => .alreadySynced
  | .alreadyClaimed .. => .alreadyClaimed
  | .ignored .. => .ignored
  | .rejected .. => .rejected

/-- The ending of a delivery: the kind that was returned, or the class of what was thrown. -/
def ending (sdk : NetSuiteSdk) : Except Thrown OrderHandlerOutcome → OrderAttemptOutcome
  | .ok o => o.attempt
  | .error e => if classifyHandlerError sdk e = .auth then .authThrow else .transientThrow

/-! ## The variables at the end -/

theorem resolved_outcome (o : OrderHandlerOutcome) : o.resolved.outcome = o.attempt := by
  cases o <;> rfl

/-- The variables tell how the pipeline ended. -/
def Locals.Tells (sdk : NetSuiteSdk) (l : Locals) (res : Except Thrown OrderHandlerOutcome) :
    Prop := (resolveAttemptOutcome sdk l.outcome l.throwErr).outcome = ending sdk res

section Tells

variable {sdk : NetSuiteSdk} {l : Locals}

theorem tells_of_outcome {o : OrderHandlerOutcome} (houtcome : l.outcome = some o)
    (hthrow : l.throwErr = none) : l.Tells sdk (.ok o) := by
  unfold Locals.Tells resolveAttemptOutcome
  rw [houtcome, hthrow]
  exact resolved_outcome o

/-- A thrown `undefined` is told by the lack of an outcome. -/
theorem tells_of_throwErr {e : Thrown} (houtcome : l.outcome = none)
    (hthrow : l.throwErr = some e) : l.Tells sdk (.error e) := by
  unfold Locals.Tells resolveAttemptOutcome
  rw [houtcome, hthrow]
  cases e <;> rfl

/-- A throw that nothing captured is told as transient. -/
theorem tells_of_uncaptured {e : Thrown} (houtcome : l.outcome = none) (hthrow : l.throwErr = none)
    (hclass : classifyHandlerError sdk e ≠ .auth) : l.Tells sdk (.error e) := by
  have hending : ending sdk (.error e) = .transientThrow := if_neg hclass
  unfold Locals.Tells resolveAttemptOutcome
  rw [houtcome, hthrow, hending]

end Tells

theorem classify_typeError (sdk : NetSuiteSdk) (message : String) :
    classifyHandlerError sdk (typeError message) = classOfMessage message := by
  have hname : "TypeError" ≠ "NetSuiteError" := by decide
  have hkind : (typeError message).isOrderNotFound = false := rfl
  unfold classifyHandlerError
  rw [hkind]
  simp only [typeError, Bool.false_eq_true, if_false, if_neg hname]

/-- The errors of the language itself that the catch can raise are no auth errors. -/
theorem unreadable_not_auth (sdk : NetSuiteSdk) :
    classifyHandlerError sdk
        (typeError "Cannot read properties of null (reading 'rawNsResponse')") ≠ .auth ∧
      classifyHandlerError sdk
        (typeError "Cannot read properties of undefined (reading 'rawNsResponse')") ≠ .auth := by
  rw [classify_typeError, classify_typeError]
  constructor <;> decide +kernel

/-! ## Calls of the pipeline -/

/-- The calls before the pipeline, and the attempt row after it. -/
def Call.frames : Call → Bool
  | .lookupXref .. | .claim .. | .recordAttempt .. => true
  | _ => false

/-- A call between the claim and the attempt row. -/
def Inside (ev : Ev) : Prop := ∀ c r, ev = answered c r → c.frames = false

theorem inside_io {c : Call} (h : c.frames = false) (r : Except Thrown c.Ret) :
    Inside (answered c r) := by
  rintro c' r' heq
  cases heq
  exact h

/-- A reading of the clock or a metric. -/
def NotAnswered (ev : Ev) : Prop := ∀ c r, ev ≠ answered c r

theorem NotAnswered.inside {ev : Ev} (h : NotAnswered ev) : Inside ev :=
  fun c r heq => absurd heq (h c r)

theorem observed_clock (t : ℤ) : NotAnswered ⟨Op.clock, t⟩ := by simp [NotAnswered]

theorem observed_track (metric : Metric) : NotAnswered ⟨Op.track metric, ()⟩ := by simp [NotAnswered]

theorem attemptRows_of_inside {tr : List Ev} (h : ∀ ev ∈ tr, Inside ev) : attemptRows tr = [] := by
  refine List.filterMap_eq_nil_iff.mpr fun ev hev => ?_
  unfold attemptRow
  split
  · cases h _ hev _ _ rfl
  · rfl

variable {d : Delivery}

section Inside

theorem observes_track (metric : Metric) : Issues NotAnswered (d.track metric) := by
  unfold Delivery.track
  split
  · exact .observe fun _ => observed_track metric
  · exact .pure _

theorem issues_track (metric : Metric) : Issues Inside (d.track metric) :=
  fun tr res h ev hev => (observes_track metric tr res h ev hev).inside

theorem issues_writeSyncLog (shape : SyncLogShape) : Issues Inside (d.writeSyncLog shape) := by
  unfold Delivery.writeSyncLog
  split
  · exact issues_io (inside_io rfl)
  · exact .pure _

theorem issues_recordError (input : String → NewErrorInput) :
    Issues Inside (d.recordError input) := by
  unfold Delivery.recordError
  split
  · exact (issues_ofExcept _).bind fun _ => issues_io (inside_io rfl)
  · exact .pure _

theorem issues_parkOutcome (park : ParkInput) : Issues Inside (parkOutcome d park) := by
  refine (issues_io (inside_io rfl)).bind fun _ => ?_
  refine (issues_recordError _).bind fun _ => ?_
  refine (issues_track _).bind fun _ => ?_
  exact (issues_writeSyncLog _).bind fun _ => .pure _

theorem issues_classifyAndRoute (err : Thrown) (order : Option ShopifyOrder) :
    Issues Inside (classifyAndRoute d err order) := by
  unfold classifyAndRoute
  dsimp only
  split
  · split
    · refine (issues_recordError _).bind fun _ => ?_
      exact (issues_track _).bind fun _ => .throw _
    · exact .throw _
  · exact issues_parkOutcome _

/-- Preparing an order issues preparatory calls only. -/
theorem issues_prepareOrder (order : ShopifyOrder) : Issues Inside (prepareOrder d order) := by
  intro tr res h ev hev
  obtain ⟨hprep, r⟩ := (prepares_prepareOrder d order tr res h).1 ev hev
  rename_i c
  refine inside_io ?_ r
  cases c <;> first | rfl | cases hprep

theorem issues_afterImport (order : ShopifyOrder) (internalId : String) (uri : Option String) :
    Issues Inside (afterImport d order internalId uri) := by
  refine Issues.bind (.observe fun t => (observed_clock t).inside) fun _ => ?_
  refine (issues_track _).bind fun _ => (issues_writeSyncLog _).bind fun _ => ?_
  unfold writeTag
  split
  · refine .tryCatch ((issues_io (inside_io rfl)).bind fun _ => .pure _) fun _ => ?_
    exact issues_recordError _
  · exact .pure _

end Inside

/-! ## The pipeline -/

/-- The variables that decide what the attempt row tells. -/
def Locals.told (l : Locals) : Option OrderHandlerOutcome × Option Thrown := (l.outcome, l.throwErr)

/-- `x` issues calls inside the pipeline only. It leaves what the attempt row tells as it
is, unless it returns: then it has set the outcome that it returns. -/
def Concludes (x : Handler OrderHandlerOutcome) : Prop :=
  ∀ l tr res l', SettlesFrom x l tr res l' → (∀ ev ∈ tr, Inside ev) ∧ l'.throwErr = l.throwErr ∧
    ((∃ e, res = .error e ∧ l'.outcome = l.outcome) ∨ ∃ o, res = .ok o ∧ l'.outcome = some o)

theorem concludes_finish (o : OrderHandlerOutcome) : Concludes (finish o) := by
  intro l tr res l' h
  obtain ⟨e, rfl, hset⟩ | ⟨u, l₁, t₁, t₂, rfl, hset, hret⟩ := settlesFrom_bind.mp h
  · cases (settlesFrom_modify.mp hset).2.1
  obtain ⟨rfl, _, rfl⟩ := settlesFrom_modify.mp hset
  obtain ⟨rfl, rfl, rfl⟩ := settlesFrom_pure.mp hret
  exact ⟨by simp, rfl, .inr ⟨o, rfl, rfl⟩⟩

theorem concludes_bind {α : Type} {x : Handler α} {f : α → Handler OrderHandlerOutcome}
    (hx : Confined Inside Locals.told x) (hf : ∀ a, Concludes (f a)) : Concludes (x >>= f) := by
  intro l tr res l' h
  obtain ⟨e, rfl, h₁⟩ | ⟨a, l₁, t₁, t₂, rfl, h₁, h₂⟩ := settlesFrom_bind.mp h
  · obtain ⟨hinside, hl⟩ := hx l tr _ l' h₁
    obtain ⟨houtcome, hthrow⟩ := Prod.mk.inj hl
    exact ⟨hinside, hthrow, .inl ⟨e, rfl, houtcome⟩⟩
  · obtain ⟨hinside, hl⟩ := hx l t₁ _ l₁ h₁
    obtain ⟨houtcome, hthrow⟩ := Prod.mk.inj hl
    obtain ⟨hinside', hthrow', hends⟩ := hf a l₁ t₂ res l' h₂
    refine ⟨List.forall_mem_append.mpr ⟨hinside, hinside'⟩, hthrow'.trans hthrow, ?_⟩
    obtain ⟨e, rfl, hsame⟩ | hreturned := hends
    · exact .inl ⟨e, rfl, hsame.trans houtcome⟩
    · exact .inr hreturned

theorem confined_archive {payload : Js.Fields} {kind : PayloadKind}
    {nsAccountId nsRecordType : Option String} {set : Option String → Locals → Locals}
    (hset : ∀ uri l, (set uri l).told = l.told) :
    Confined Inside Locals.told (d.archive payload kind nsAccountId nsRecordType set) := by
  unfold Delivery.archive
  split
  · refine (Confined.await (issues_quietly (inside_io rfl))).bind fun uri => ?_
    exact .modify (hset uri)
  · exact .pure _

theorem concludes_writeOrder (order : ShopifyOrder) (customer : CustomerResolution)
    (payload : NsOrderPayload) : Concludes (writeOrder d order customer payload) := by
  refine concludes_bind (confined_archive fun _ _ => rfl) fun _ => ?_
  refine concludes_bind (.modify fun _ => rfl) fun _ => ?_
  refine concludes_bind (.await (issues_io (inside_io rfl))) fun upserted => ?_
  have hrecord : Concludes (do
      let _ ← Scoped.await (Async.io (.recordSuccess d.parts upserted.internalId d.msg.orderGid))
      let l ← get
      Scoped.await (afterImport d order upserted.internalId l.outboundPayloadUri)
      finish (.imported d.connection.connectionId d.msg.orderGid upserted.internalId
        upserted.created customer)) := by
    refine concludes_bind (.await (issues_io (inside_io rfl))) fun _ => ?_
    refine concludes_bind .get fun l => ?_
    exact concludes_bind (.await (issues_afterImport _ _ _)) fun _ => concludes_finish _
  dsimp only
  split
  · refine concludes_bind (.modify fun _ => rfl) fun _ => ?_
    exact concludes_bind (confined_archive fun _ _ => rfl) fun _ => hrecord
  · exact hrecord

theorem concludes_ignoreOrder (order : ShopifyOrder) (reason : EligibilityReason)
    (detail : Option String) : Concludes (ignoreOrder d order reason detail) := by
  refine concludes_bind (.await (issues_io (inside_io rfl))) fun _ => ?_
  refine concludes_bind (.await (issues_writeSyncLog _)) fun _ => ?_
  exact concludes_bind (.await (issues_track _)) fun _ => concludes_finish _

theorem concludes_importOrder : Concludes (importOrder d) := by
  refine concludes_bind (.await (issues_io (inside_io rfl))) fun order => ?_
  refine concludes_bind (.modify fun _ => rfl) fun _ => ?_
  refine concludes_bind (confined_archive fun _ _ => rfl) fun _ => ?_
  split
  · exact concludes_ignoreOrder _ _ _
  · refine concludes_bind (.await (issues_prepareOrder order)) fun prepared => ?_
    cases prepared with
    | parked stage detail errorClass =>
      exact concludes_bind (.await (issues_parkOutcome _)) fun _ => concludes_finish _
    | ready customer payload => exact concludes_writeOrder _ _ _

/-! ## The row at the end -/

theorem confined_archiveThrown (err : Thrown) :
    Confined Inside Locals.told (archiveThrown d err) := by
  unfold archiveThrown
  split
  · exact .throw _
  · exact .throw _
  · refine Confined.bind (.modify fun _ => rfl) fun _ => ?_
    exact confined_archive fun _ _ => rfl
  · exact .pure _

/-- What the catch throws before it routes an error is no auth error. -/
theorem archiveThrown_not_auth {err e : Thrown} {l l' : Locals} {tr : List Ev}
    (h : SettlesFrom (archiveThrown d err) l tr (.error e) l') :
    classifyHandlerError d.deps.sdk e ≠ .auth := by
  unfold archiveThrown at h
  split at h
  · obtain ⟨_, he, _⟩ := settlesFrom_throw.mp h
    cases he
    exact (unreadable_not_auth _).1
  · obtain ⟨_, he, _⟩ := settlesFrom_throw.mp h
    cases he
    exact (unreadable_not_auth _).2
  · obtain ⟨e', he, hset⟩ | ⟨u, l₁, t₁, t₂, rfl, hset, hrest⟩ := settlesFrom_bind.mp h
    · cases (settlesFrom_modify.mp hset).2.1
    · cases (Delivery.archive_settles hrest).2
  · cases (settlesFrom_pure.mp h).2.1

/-- The catch leaves variables that tell how it ended. -/
theorem routeThrown_tells {err : Thrown} {l l' : Locals} {tr : List Ev}
    {res : Except Thrown OrderHandlerOutcome} (h : SettlesFrom (routeThrown d err) l tr res l')
    (houtcome : l.outcome = none) (hthrow : l.throwErr = none) :
    (∀ ev ∈ tr, Inside ev) ∧ l'.Tells d.deps.sdk res := by
  obtain ⟨e, rfl, harch⟩ | ⟨u, l₁, t₁, t₂, rfl, harch, hrest⟩ := settlesFrom_bind.mp h
  · obtain ⟨hinside, hl⟩ := confined_archiveThrown err _ _ _ _ harch
    obtain ⟨houtcome', hthrow'⟩ := Prod.mk.inj hl
    have hclass := archiveThrown_not_auth harch
    exact ⟨hinside, tells_of_uncaptured (houtcome'.trans houtcome) (hthrow'.trans hthrow) hclass⟩
  obtain ⟨hinside, hl⟩ := confined_archiveThrown err _ _ _ _ harch
  obtain ⟨houtcome₁, hthrow₁⟩ := Prod.mk.inj hl
  obtain ⟨e, rfl, hget⟩ | ⟨l₂, l₃, t₃, t₄, rfl, hget, hrest₁⟩ := settlesFrom_bind.mp hrest
  · cases (settlesFrom_get.mp hget).2.1
  obtain ⟨rfl, _, rfl⟩ := settlesFrom_get.mp hget
  have hroute : Concludes (do finish (← Scoped.await (classifyAndRoute d err l₂.order))) :=
    concludes_bind (.await (issues_classifyAndRoute err l₂.order)) fun o => concludes_finish o
  rw [List.nil_append]
  obtain ⟨o, rfl, hbody⟩ | ⟨e, l₄, t₅, t₆, rfl, hbody, hrethrow⟩ := settlesFrom_tryCatch.mp hrest₁
  · obtain ⟨hinside', hthrow', ⟨e, he, _⟩ | ⟨o', ho, houtcome'⟩⟩ := hroute _ _ _ _ hbody
    · cases he
    cases ho
    refine ⟨List.forall_mem_append.mpr ⟨hinside, hinside'⟩, ?_⟩
    exact tells_of_outcome houtcome' (hthrow'.trans (hthrow₁.trans hthrow))
  · obtain ⟨hinside', _, ⟨e', _, houtcome'⟩ | ⟨o', ho, _⟩⟩ := hroute _ _ _ _ hbody
    · obtain ⟨e', he, hset⟩ | ⟨u', l₅, t₇, t₈, rfl, hset, hret⟩ := settlesFrom_bind.mp hrethrow
      · cases (settlesFrom_modify.mp hset).2.1
      obtain ⟨rfl, _, rfl⟩ := settlesFrom_modify.mp hset
      obtain ⟨rfl, rfl, rfl⟩ := settlesFrom_throw.mp hret
      have htells := houtcome'.trans (houtcome₁.trans houtcome)
      rw [List.append_nil, List.append_nil]
      exact ⟨List.forall_mem_append.mpr ⟨hinside, hinside'⟩, tells_of_throwErr htells rfl⟩
    · cases ho

/-- The row that was written for the delivery tells that it ended as `res`. -/
structure Delivery.Tells (d : Delivery) (ctx : AttemptContext) (input : OrderAttemptInput)
    (res : Except Thrown OrderHandlerOutcome) : Prop where
  environment : input.environment = d.deps.environment
  connectionId : input.connectionId = d.connection.connectionId
  shopifyOrderGid : input.shopifyOrderGid = d.msg.orderGid
  deliveryCount : input.deliveryCount = ctx.deliveryCount
  outcome : input.outcome = ending d.deps.sdk res

section Recorded

variable {ctx : AttemptContext} {tr : List Ev} {res : Except Thrown OrderHandlerOutcome}

/-- The calls of `tr` are calls of a kind and then one attempt row, which tells how the
delivery ended. -/
inductive Recounts (d : Delivery) (ctx : AttemptContext) (res : Except Thrown OrderHandlerOutcome)
    (kind : Ev → Prop) : List Ev → Prop
  | intro {t : List Ev} {input : OrderAttemptInput} {r : Except Thrown Unit}
      (hkind : ∀ ev ∈ t, kind ev) (htells : d.Tells ctx input res) :
      Recounts d ctx res kind (t ++ [answered (.recordAttempt input) r])

namespace Recounts

variable {kind : Ev → Prop} {t : List Ev}

theorem append (h : Recounts d ctx res kind tr) (ht : ∀ ev ∈ t, kind ev) :
    Recounts d ctx res kind (t ++ tr) := by
  obtain ⟨hkind, htells⟩ := h
  rw [← List.append_assoc]
  exact .intro (List.forall_mem_append.mpr ⟨ht, hkind⟩) htells

theorem inside (h : Recounts d ctx res NotAnswered tr) : Recounts d ctx res Inside tr := by
  obtain ⟨hkind, htells⟩ := h
  exact .intro (fun ev hev => (hkind ev hev).inside) htells

end Recounts

theorem recordAttempt_recounts {l : Locals} {u : Except Thrown Unit}
    (hstore : d.deps.orderAttemptStore = true) (hctx : d.attemptCtx = some ctx)
    (h : Settles (d.recordAttempt l) tr u) (htells : l.Tells d.deps.sdk res) :
    Recounts d ctx res NotAnswered tr := by
  unfold Delivery.recordAttempt at h
  simp only [hstore, hctx] at h
  obtain ⟨e, rfl, hnow⟩ | ⟨t, t₁, t₂, rfl, hnow, hrest⟩ := settles_bind.mp h
  · obtain ⟨_, _, he⟩ := settles_now.mp hnow
    cases he
  obtain ⟨now, rfl, _⟩ := settles_now.mp hnow
  obtain ⟨e, rfl, hput⟩ | ⟨a, s₁, s₂, rfl, hput, hret⟩ := settles_bind.mp hrest
  · obtain ⟨_, _, he⟩ := settles_quietly.mp hput
    cases he
  obtain ⟨r, rfl, _⟩ := settles_quietly.mp hput
  obtain ⟨rfl, _⟩ := settles_pure.mp hret
  rw [List.append_nil]
  refine .intro ?_ ⟨rfl, rfl, rfl, rfl, htells⟩
  intro ev hev
  obtain rfl := List.mem_singleton.mp hev
  exact observed_clock now

theorem shortCircuit_recounts {o : OrderHandlerOutcome}
    (hstore : d.deps.orderAttemptStore = true) (hctx : d.attemptCtx = some ctx)
    (h : Settles (shortCircuit d o) tr res) : Recounts d ctx res NotAnswered tr := by
  obtain ⟨e, rfl, hrecord⟩ | ⟨u, t₁, t₂, rfl, hrecord, hret⟩ := settles_bind.mp h
  · cases (Delivery.recordAttempt_settles hrecord).2
  obtain ⟨rfl, rfl⟩ := settles_pure.mp hret
  rw [List.append_nil]
  exact recordAttempt_recounts hstore hctx hrecord (tells_of_outcome rfl rfl)

/-- After a new claim the `finally` writes one row, which tells how the pipeline ended. -/
theorem importClaimedOrder_recounts (hstore : d.deps.orderAttemptStore = true)
    (hctx : d.attemptCtx = some ctx) (h : Settles (importClaimedOrder d) tr res) :
    Recounts d ctx res Inside tr := by
  have hattempt : ∀ l tr e, ¬Settles (d.recordAttempt l) tr (.error e) := fun l tr e h => by
    cases (Delivery.recordAttempt_settles h).2
  obtain ⟨l', t₁, t₂, rfl, hbody, hrecord⟩ := (settles_withFinally hattempt).mp h
  obtain ⟨o, rfl, himport⟩ | ⟨e, l₁, t₃, t₄, rfl, himport, hroute⟩ := settlesFrom_tryCatch.mp hbody
  · obtain ⟨hinside, hthrow, ⟨e, he, _⟩ | ⟨o', ho, houtcome⟩⟩ := concludes_importOrder _ _ _ _ himport
    · cases he
    cases ho
    have htells : l'.Tells d.deps.sdk (.ok o) := tells_of_outcome houtcome hthrow
    exact (recordAttempt_recounts hstore hctx hrecord htells).inside.append hinside
  · obtain ⟨hinside, hthrow, ⟨e', _, houtcome⟩ | ⟨o', ho, _⟩⟩ := concludes_importOrder _ _ _ _ himport
    · obtain ⟨hinside', htells⟩ := routeThrown_tells hroute houtcome hthrow
      refine (recordAttempt_recounts hstore hctx hrecord htells).inside.append ?_
      exact List.forall_mem_append.mpr ⟨hinside, hinside'⟩
    · cases ho

end Recorded

/-! ## Deliveries without a row -/

/-- One attempt row was written. It is about the delivery of `msg` in the context `ctx`, and
it tells that the delivery ended as `res`. -/
def ToldOnce (deps : OrderHandlerDeps) (msg : ReceivedMessage) (ctx : AttemptContext)
    (tr : List Ev) (res : Except Thrown OrderHandlerOutcome) : Prop :=
  ∃ connection input, connectionFound deps msg.connectionId (.ok (some connection)) ∈ tr ∧
    attemptRows tr = [input] ∧
    Delivery.Tells { deps, connection, msg, attemptCtx := some ctx } ctx input res

/-- None of the calls before the pipeline failed: the lookup of the gate, its ignoring of an
order without a row, and the claim. -/
structure Passed (tr : List Ev) : Prop where
  lookup : ∀ parts e, answered (.lookupXref parts) (.error e) ∉ tr
  claim : ∀ input e, answered (.claim input) (.error e) ∉ tr
  gate : ∀ parts, answered (.lookupXref parts) (.ok none) ∈ tr →
    (∀ parts e, answered (.markIgnored parts) (.error e) ∉ tr) ∧
      ∀ input e, answered (.upsertSyncLog input) (.error e) ∉ tr

/-- The message is for the environment of the handler, an enabled connection was found for
it, and none of the calls before the pipeline failed. -/
structure Admitted (deps : OrderHandlerDeps) (msg : ReceivedMessage) (tr : List Ev) : Prop where
  environment : msg.environment = deps.environment.text
  connection : ∃ connection, connectionFound deps msg.connectionId (.ok (some connection)) ∈ tr ∧
    connection.enabled = true
  passed : Passed tr

section Told

variable {deps : OrderHandlerDeps} {ctx : AttemptContext} {message : Js.Value}
  {msg : ReceivedMessage} {tr : List Ev} {res : Except Thrown OrderHandlerOutcome}

/-- The pipeline neither looks a row up nor claims one. -/
theorem Recounts.not_frame {c : Call} {r : Except Thrown c.Ret} (h : Recounts d ctx res Inside tr)
    (hc : c.frames = true) (hattempt : ∀ input, c ≠ .recordAttempt input) :
    answered c r ∉ tr := by
  obtain ⟨hinside, _⟩ := h
  intro hmem
  obtain hmem | hmem := List.mem_append.mp hmem
  · have hfalse := hinside _ hmem c r rfl
    rw [hc] at hfalse
    cases hfalse
  · cases List.mem_singleton.mp hmem
    exact hattempt _ rfl

/-- A row that follows observations only is the only call. -/
theorem Recounts.not_call {c : Call} {r : Except Thrown c.Ret} (h : Recounts d ctx res NotAnswered tr)
    (hattempt : ∀ input, c ≠ .recordAttempt input) : answered c r ∉ tr := by
  obtain ⟨hobserved, _⟩ := h
  intro hmem
  obtain hmem | hmem := List.mem_append.mp hmem
  · exact hobserved _ hmem c r rfl
  · cases List.mem_singleton.mp hmem
    exact hattempt _ rfl

/-- The row is written, where the attempt store does not fail. -/
theorem Recounts.rows (h : Recounts d ctx res Inside tr)
    (hwritten : ∀ input e, answered (.recordAttempt input) (.error e) ∉ tr) :
    ∃ input, attemptRows tr = [input] ∧ d.Tells ctx input res := by
  obtain @⟨t, input, r, hinside, htells⟩ := h
  refine ⟨input, ?_, htells⟩
  cases r with
  | error e => exact absurd (by simp) (hwritten input e)
  | ok u =>
    rw [attemptRows_append, attemptRows_of_inside hinside]
    rfl

/-- How a delivery ends, by its attempt rows: one of the calls before the pipeline fails, or
they succeed and one row follows. -/
inductive Recounted (d : Delivery) (ctx : AttemptContext)
    (res : Except Thrown OrderHandlerOutcome) : List Ev → Prop
  | lookup (e : Thrown) : Recounted d ctx res [lookedUp d (.error e)]
  | ignore (e : Thrown) :
      Recounted d ctx res [lookedUp d (.ok none), answered (.markIgnored d.parts) (.error e)]
  | log (row : XrefRow) (input : OrderSyncLogInput) (e : Thrown) :
      Recounted d ctx res [lookedUp d (.ok none), answered (.markIgnored d.parts) (.ok row),
        answered (.upsertSyncLog input) (.error e)]
  | ignored {row : XrefRow} {logged t : List Ev}
      (hlogged : logged = [] ∨ ∃ input u, logged = [answered (.upsertSyncLog input) (.ok u)])
      (h : Recounts d ctx res NotAnswered t) :
      Recounted d ctx res
        (lookedUp d (.ok none) :: answered (.markIgnored d.parts) (.ok row) :: (logged ++ t))
  | claim {gate : List Ev} (hgate : gate = [] ∨ ∃ row, gate = [lookedUp d (.ok (some row))])
      (e : Thrown) : Recounted d ctx res (gate ++ [claimedBy d (.error e)])
  | claimed {gate t : List Ev} {claim : ClaimResult}
      (hgate : gate = [] ∨ ∃ row, gate = [lookedUp d (.ok (some row))])
      (h : Recounts d ctx res Inside t) :
      Recounted d ctx res (gate ++ claimedBy d (.ok claim) :: t)

theorem claimAndImport_recounted {gate : List Ev}
    (hgate : gate = [] ∨ ∃ row, gate = [lookedUp d (.ok (some row))])
    (hstore : d.deps.orderAttemptStore = true) (hctx : d.attemptCtx = some ctx)
    (h : Settles (claimAndImport d) tr res) : Recounted d ctx res (gate ++ tr) := by
  obtain ⟨e, rfl, hclaim⟩ | ⟨r, t₁, t₂, rfl, hclaim, hrest⟩ := settles_bind.mp h
  · obtain rfl := settles_io.mp hclaim
    exact .claim hgate e
  obtain rfl := settles_io.mp hclaim
  split at hrest
  · exact .claimed hgate (shortCircuit_recounts hstore hctx hrest).inside
  · exact .claimed hgate (shortCircuit_recounts hstore hctx hrest).inside
  · exact .claimed hgate (shortCircuit_recounts hstore hctx hrest).inside
  · exact .claimed hgate (importClaimedOrder_recounts hstore hctx hrest)

theorem ignoreUpdate_recounted (hstore : d.deps.orderAttemptStore = true)
    (hctx : d.attemptCtx = some ctx) (h : Settles (ignoreUpdate d) tr res) :
    Recounted d ctx res (lookedUp d (.ok none) :: tr) := by
  obtain ⟨e, rfl, hrow⟩ | ⟨row, t₁, t₂, rfl, hrow, hrest⟩ := settles_bind.mp h
  · obtain rfl := settles_io.mp hrow
    exact .ignore e
  obtain rfl := settles_io.mp hrow
  have hlog {t : List Ev} {r : Except Thrown Unit} {shape : SyncLogShape}
      (h : Settles (d.writeSyncLog shape) t r) :
      (t = [] ∧ r = .ok ()) ∨ t = [answered (.upsertSyncLog (d.syncLogInput shape)) r] := by
    unfold Delivery.writeSyncLog at h
    split at h
    · exact .inr (settles_io.mp h)
    · exact .inl (settles_pure.mp h)
  obtain ⟨e, rfl, hwrite⟩ | ⟨u, t₃, t₄, rfl, hwrite, hrest₁⟩ := settles_bind.mp hrest
  · obtain ⟨_, he⟩ | rfl := hlog hwrite
    · cases he
    · exact .log row _ e
  obtain ⟨e, rfl, htrack⟩ | ⟨u', t₅, t₆, rfl, htrack, hrest₂⟩ := settles_bind.mp hrest₁
  · cases (Delivery.track_settles htrack).2
  have hlogged : t₃ = [] ∨ ∃ input u, t₃ = [answered (.upsertSyncLog input) (.ok u)] := by
    obtain ⟨rfl, _⟩ | rfl := hlog hwrite
    · exact .inl rfl
    · exact .inr ⟨_, u, rfl⟩
  have hrow := (shortCircuit_recounts hstore hctx hrest₂).append (observes_track _ _ _ htrack)
  rw [List.singleton_append]
  exact .ignored hlogged hrow

theorem deliver_recounted (hstore : d.deps.orderAttemptStore = true)
    (hctx : d.attemptCtx = some ctx) (h : Settles (deliver d) tr res) :
    Recounted d ctx res tr := by
  unfold deliver at h
  split at h
  · obtain ⟨e, rfl, hlookup⟩ | ⟨found, t₁, t₂, rfl, hlookup, hrest⟩ := settles_bind.mp h
    · obtain rfl := settles_io.mp hlookup
      exact .lookup e
    obtain rfl := settles_io.mp hlookup
    cases found with
    | none => exact ignoreUpdate_recounted hstore hctx hrest
    | some row => exact claimAndImport_recounted (.inr ⟨row, rfl⟩) hstore hctx hrest
  · exact claimAndImport_recounted (.inl rfl) hstore hctx h

/-- Where the calls before the pipeline succeed, one row follows and none came before. -/
theorem Recounts.told {t : List Ev} (h : Recounts d ctx res Inside tr) (ht : attemptRows t = [])
    (hwritten : ∀ input e, answered (.recordAttempt input) (.error e) ∉ t ++ tr) :
    ∃ input, attemptRows (t ++ tr) = [input] ∧ d.Tells ctx input res := by
  rw [attemptRows_append, ht, List.nil_append]
  exact h.rows fun input e hmem => hwritten input e (List.mem_append_right _ hmem)

/-- A delivery leaves one row that tells how it ended if no call before the pipeline failed,
and none otherwise. -/
theorem Recounted.told_or_silent (h : Recounted d ctx res tr)
    (hwritten : ∀ input e, answered (.recordAttempt input) (.error e) ∉ tr) :
    (Passed tr ∧ ∃ input, attemptRows tr = [input] ∧ d.Tells ctx input res) ∨
      (¬Passed tr ∧ attemptRows tr = []) := by
  cases h with
  | lookup e => exact .inr ⟨fun hpassed => hpassed.lookup d.parts e (by simp), rfl⟩
  | ignore e =>
    exact .inr ⟨fun hpassed => (hpassed.gate d.parts (by simp)).1 d.parts e (by simp), rfl⟩
  | log row input e =>
    exact .inr ⟨fun hpassed => (hpassed.gate d.parts (by simp)).2 input e (by simp), rfl⟩
  | @ignored row logged t hlogged h =>
    have heq : lookedUp d (.ok none) :: answered (.markIgnored d.parts) (.ok row) :: (logged ++ t) =
        (lookedUp d (.ok none) :: answered (.markIgnored d.parts) (.ok row) :: logged) ++ t := rfl
    have hcall {c : Call} {r : Except Thrown c.Ret} (hc : ∀ input, c ≠ .recordAttempt input) :
        answered c r ∉ t := h.not_call hc
    rw [heq] at hwritten ⊢
    refine .inl ⟨⟨?_, ?_, ?_⟩, h.inside.told ?_ hwritten⟩
    case refine_4 => obtain rfl | ⟨input, u, rfl⟩ := hlogged <;> rfl
    all_goals obtain rfl | ⟨input, u, rfl⟩ := hlogged <;> simp [hcall]
  | @claim gate hgate e =>
    refine .inr ⟨fun hpassed => hpassed.claim d.claimInput e (by simp), ?_⟩
    obtain rfl | ⟨row, rfl⟩ := hgate <;> rfl
  | @claimed gate t claim hgate h =>
    have heq : gate ++ claimedBy d (.ok claim) :: t = (gate ++ [claimedBy d (.ok claim)]) ++ t := by
      simp
    have hlookup (parts : DedupKeyParts) (r : Except Thrown (Option XrefRow)) :
        answered (.lookupXref parts) r ∉ t := h.not_frame rfl (by simp)
    have hclaim (input : ClaimInput) (r : Except Thrown ClaimResult) :
        answered (.claim input) r ∉ t := h.not_frame rfl (by simp)
    rw [heq] at hwritten ⊢
    refine .inl ⟨⟨?_, ?_, ?_⟩, h.told ?_ hwritten⟩
    case refine_4 => obtain rfl | ⟨row, rfl⟩ := hgate <;> rfl
    all_goals obtain rfl | ⟨row, rfl⟩ := hgate <;> simp [hlookup, hclaim]

/-- The lookup of the connection is no call before the pipeline. -/
theorem passed_cons {connectionId : String} {r : Except Thrown (Option Connection)} :
    Passed (connectionFound deps connectionId r :: tr) ↔ Passed tr := by
  constructor
  · rintro ⟨hlookup, hclaim, hgate⟩
    exact ⟨by simpa using hlookup, by simpa using hclaim, by simpa using hgate⟩
  · rintro ⟨hlookup, hclaim, hgate⟩
    exact ⟨by simpa using hlookup, by simpa using hclaim, by simpa using hgate⟩

/-- With an attempt store that does not fail, a delivery leaves exactly one attempt row that
tells how it ended, if and only if it is admitted. -/
theorem told_once_iff (hstore : deps.orderAttemptStore = true)
    (hmsg : parseOrderWebhookMessage message = .ok msg)
    (h : Settles (handleOrderMessage deps message (some ctx)) tr res)
    (hwritten : ∀ input e, answered (.recordAttempt input) (.error e) ∉ tr) :
    ToldOnce deps msg ctx tr res ↔ Admitted deps msg tr := by
  cases handlerRun_of_settles h with
  | rejected ht =>
    refine iff_of_false ?_ ?_
    · rintro ⟨connection, input, _, hrows, _⟩
      obtain rfl | ⟨id, r, rfl, _⟩ := ht <;> cases hrows
    · rintro ⟨_, ⟨connection, hmem, henabled⟩, _⟩
      obtain rfl | ⟨id, r, rfl, hdisabled⟩ := ht
      · cases hmem
      · cases List.mem_singleton.mp hmem
        rw [hdisabled connection rfl] at henabled
        cases henabled
  | failed id e =>
    refine iff_of_false ?_ ?_
    · rintro ⟨connection, input, _, hrows, _⟩
      cases hrows
    · rintro ⟨_, ⟨connection, hmem, _⟩, _⟩
      cases List.mem_singleton.mp hmem
  | @delivered msg' connection t res hmsg' henv henabled hdeliver =>
    obtain rfl : msg' = msg := Except.ok.inj (hmsg'.symm.trans hmsg)
    have hrecounted := deliver_recounted hstore rfl hdeliver
    have hwritten' : ∀ input e, answered (.recordAttempt input) (.error e) ∉ t :=
      fun input e hmem => hwritten input e (List.mem_cons_of_mem _ hmem)
    have hfound : connectionFound deps msg'.connectionId (.ok (some connection)) ∈
        connectionFound deps msg'.connectionId (.ok (some connection)) :: t := List.mem_cons_self ..
    obtain ⟨hpassed, input, hrows, htells⟩ | ⟨hpassed, hrows⟩ :=
      hrecounted.told_or_silent hwritten'
    · refine iff_of_true ⟨connection, input, hfound, hrows, htells⟩ ?_
      exact ⟨henv, ⟨connection, hfound, henabled⟩, passed_cons.mpr hpassed⟩
    · refine iff_of_false ?_ fun hadmitted => hpassed (passed_cons.mp hadmitted.passed)
      rintro ⟨connection', input, _, hrows', _⟩
      have hnil : attemptRows t = [input] := hrows'
      rw [hrows] at hnil
      cases hnil

end Told

namespace Shop

/-- The delivery of the creation of the order. -/
def firstDelivery : Delivery := delivery (message none "orders/create")

theorem creation_parsed :
    parseOrderWebhookMessage (message none "orders/create").toJs = .ok firstDelivery.msg :=
  parseOrderWebhookMessage_toJs (message_wellFormed none (by decide))

/-- A run of the creation of an order that is synced already. -/
theorem creation_settles : ∃ input,
    Settles (handleOrderMessage deps (message none "orders/create").toJs firstDelivery.attemptCtx)
      [connectionFound deps "conn-a" (.ok (some connection)),
        claimedBy firstDelivery (.ok ⟨.alreadySynced, firstDelivery.claimInput.newRow⟩),
        ⟨Op.clock, (0 : ℤ)⟩, answered (.recordAttempt input) (.ok ())]
      (.ok (.alreadySynced "conn-a" order.id)) := by
  have hlive : firstDelivery.isLiveUpdate = false := by decide
  apply Exists.intro
  unfold handleOrderMessage
  rw [creation_parsed]
  refine settles_bind.mpr (.inr ⟨some connection, [_], _, rfl, settles_io.mpr rfl, ?_⟩)
  change Settles (deliver firstDelivery) _ _
  unfold deliver
  rw [if_neg (by simp [hlive])]
  refine settles_bind.mpr (.inr ⟨_, [_], _, rfl, settles_io.mpr rfl, ?_⟩)
  refine settles_bind.mpr (.inr ⟨(), [_, _], [], rfl, ?_, settles_pure.mpr ⟨rfl, rfl⟩⟩)
  refine settles_bind.mpr (.inr ⟨0, [_], [_], rfl, settles_now.mpr ⟨0, rfl, rfl⟩, ?_⟩)
  refine settles_bind.mpr (.inr ⟨_, [_], [], rfl, settles_quietly.mpr ⟨.ok (), rfl, rfl⟩, ?_⟩)
  exact settles_pure.mpr ⟨rfl, rfl⟩

/-- A creation of an order that is synced already is told by its one row. -/
theorem told_once_iff_shop : ∃ ctx tr, firstDelivery.attemptCtx = some ctx ∧
    Settles (handleOrderMessage deps (message none "orders/create").toJs (some ctx)) tr
      (.ok (.alreadySynced "conn-a" order.id)) ∧
    ToldOnce deps firstDelivery.msg ctx tr (.ok (.alreadySynced "conn-a" order.id)) := by
  obtain ⟨input, hsettles⟩ := creation_settles
  refine ⟨_, _, rfl, hsettles, (told_once_iff rfl creation_parsed hsettles (by simp)).mpr ?_⟩
  exact ⟨rfl, ⟨connection, List.mem_cons_self .., rfl⟩, ⟨by simp, by simp, by simp⟩⟩

/-- A delivery for a connection that is unknown leaves no row. -/
theorem rejected_untold : ¬∀ (deps : OrderHandlerDeps) (message : Js.Value) (msg : ReceivedMessage)
    (ctx : AttemptContext) (tr : List Ev) (res : Except Thrown OrderHandlerOutcome),
    deps.orderAttemptStore = true → parseOrderWebhookMessage message = .ok msg →
    Settles (handleOrderMessage deps message (some ctx)) tr res →
    (∀ input e, answered (.recordAttempt input) (.error e) ∉ tr) → ToldOnce deps msg ctx tr res := by
  intro hall
  have hsettles : Settles (handleOrderMessage deps (message none "orders/create").toJs
      firstDelivery.attemptCtx) [connectionFound deps "conn-a" (.ok none)]
      (.ok (.rejected .unknownConnection "connectionId=conn-a")) := by
    unfold handleOrderMessage
    rw [creation_parsed]
    exact settles_bind.mpr (.inr ⟨none, _, [], rfl, settles_io.mpr rfl, settles_pure.mpr ⟨rfl, rfl⟩⟩)
  obtain ⟨_, input, _, hrows, _⟩ := hall _ _ _ _ _ _ rfl creation_parsed hsettles (by simp)
  cases hrows

end Shop

end DpIntegrator
