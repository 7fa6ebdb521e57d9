import DpIntegrator.Functions.Reconciliation
import DpIntegrator.Delivery.Rescue

/-!
# One connection fails, and the others

The catch-up timer polls the enabled connections one after another, and the daily sweep
reconciles them one after another. Nothing catches what the work on one connection throws, so
the connections after it in the list are not reached.
-/

namespace DpIntegrator

open Effects

variable {tr t : List Ev} {w w' v v' : World} {connection : Connection}

/-! ## Sweeps -/

/-- A function that works through the enabled connections. -/
inductive Sweep
  | catchup (deps : CatchupDeps) (config : CatchupConfig)
  | reconciliation (deps : ReconciliationDeps) (config : ReconciliationConfig)

namespace Sweep

@[reducible] def Out : Sweep → Type
  | catchup .. => List ConnectionCatchupOutcome
  | reconciliation .. => List ConnectionReconcileResult

def program : (sweep : Sweep) → Async sweep.Out
  | catchup deps config => pollCatchup deps config
  | reconciliation deps config => runReconciliation deps config

def environment : Sweep → Environment
  | catchup deps _ => deps.environment
  | reconciliation deps _ => deps.environment

/-- Whether there is anything to do: the stores are there, and there are days to reconcile. -/
def isReady : Sweep → Bool
  | catchup deps _ => deps.xrefStore && deps.watermarkStore
  | reconciliation deps config =>
    deps.orderSyncLog && deps.reconciliationStore && decide (0 < config.daysBack)

/-- What the work on one connection returns. -/
@[reducible] def Item : Sweep → Type
  | catchup .. => ConnectionCatchupOutcome
  | reconciliation .. => List ConnectionReconcileResult

/-- The work on one connection, in a sweep that began at the time `now`. -/
def body : (sweep : Sweep) → ℤ → Connection → Async sweep.Item
  | catchup deps config, _, connection =>
    if deps.xrefStore && deps.watermarkStore then
      pollOneConnection deps config connection.connectionId
    else pure (.skipped connection.connectionId)
  | reconciliation deps config, now, connection => reconcileConnection deps config now connection

end Sweep

/-- The enabled connections of an environment, in the order in which they are listed. -/
def World.enabled (w : World) (environment : Environment) : List Connection :=
  w.connections.filter fun c => c.environment = environment && c.enabled

theorem pollConnections_eq {deps : CatchupDeps} {config : CatchupConfig}
    (connections : List Connection) :
    pollConnections deps config connections =
      connections.mapM fun connection => (Sweep.catchup deps config).body 0 connection := by
  induction connections with
  | nil => rfl
  | cons connection rest ih =>
    rw [List.mapM_cons, pollConnections, ih]
    simp only [Sweep.body]
    split <;> rfl

/-! ## Calls of one connection -/

/-- The connection that a call is made for. -/
def Call.owner : Call → Option String
  | findConnection _ connectionId => some connectionId
  | lookupXref parts => some parts.connectionId
  | enqueue _ body => some body.connectionId
  | getWatermark parts | setWatermark parts _ => some parts.connectionId
  | listOrdersUpdatedSince connection .. | getDailyOrderAggregate connection .. =>
    some connection.connectionId
  | listSyncLog filter => filter.connectionId
  | upsertSnapshot input => some input.connectionId
  | _ => none

def owner : Ev → Option String
  | ⟨.io c, _⟩ => c.owner
  | _ => none

/-- Messages, cursors and snapshots that are written. -/
def isWrite : Ev → Bool
  | ⟨.io (.enqueue ..), _⟩ | ⟨.io (.setWatermark ..), _⟩ | ⟨.io (.upsertSnapshot ..), _⟩ => true
  | _ => false

/-- A call for the connection `id`, or for none. -/
def OwnedBy (id : String) (ev : Ev) : Prop := ∀ id', owner ev = some id' → id' = id

theorem ownedBy_of_eq {id : String} {ev : Ev} (h : owner ev = some id) : OwnedBy id ev := by
  intro id' hid'
  exact Option.some.inj (hid'.symm.trans h)

theorem ownedBy_of_none {id : String} {ev : Ev} (h : owner ev = none) : OwnedBy id ev := by
  intro id' hid'
  rw [h] at hid'
  cases hid'

/-! ## Errors that escape -/

/-- A call that failed. -/
def Failed (ev : Ev) : Prop := isFailedCall ev = true

theorem escapes_io {c : Call} : Escapes Failed (Async.io c) := by
  intro tr res h
  obtain rfl := settles_io.mp h
  cases res <;> simp [Failed, isFailedCall]

theorem escapes_now : Escapes Failed Async.now := .observe fun _ => Bool.false_ne_true

theorem escapes_track {metric : Metric} : Escapes Failed (Async.track metric) :=
  .observe fun _ => Bool.false_ne_true

section Poll

variable {deps : CatchupDeps} {config : CatchupConfig} {connectionId : String}

theorem escapes_enqueueMissing {now : ℤ} (orders : List OrderSummary) (n : ℕ) :
    Escapes Failed (enqueueMissing deps connectionId connection now orders n) := by
  induction orders generalizing n with
  | nil => exact .pure _
  | cons summary rest ih =>
    refine escapes_io.bind fun existing => ?_
    by_cases hterminal : (existing.any fun row => row.status.isTerminal) = true
    · simp only [hterminal, if_true]
      exact ih n
    · simp only [hterminal]
      exact escapes_io.bind fun _ => ih (n + 1)

/-- A poll catches nothing. -/
theorem escapes_pollOneConnection : Escapes Failed (pollOneConnection deps config connectionId) := by
  refine escapes_now.bind fun now => escapes_io.bind fun found => ?_
  cases found with
  | none => exact .pure _
  | some connection =>
    refine escapes_io.bind fun existing => escapes_io.bind fun orders => ?_
    refine (escapes_enqueueMissing orders 0).bind fun n => escapes_io.bind fun _ => ?_
    by_cases htelemetry : deps.telemetry = true
    · simp only [htelemetry, if_true]
      exact escapes_track.bind fun _ => .pure _
    · simp only [htelemetry]
      exact .pure _

theorem enqueueMissing_owned {now : ℤ} (orders : List OrderSummary) (n : ℕ) :
    Issues (OwnedBy connectionId) (enqueueMissing deps connectionId connection now orders n) := by
  induction orders generalizing n with
  | nil => exact .pure _
  | cons summary rest ih =>
    refine (issues_io fun _ => ownedBy_of_eq rfl).bind fun existing => ?_
    by_cases hterminal : (existing.any fun row => row.status.isTerminal) = true
    · simp only [hterminal, if_true]
      exact ih n
    · simp only [hterminal]
      exact (issues_io fun _ => ownedBy_of_eq rfl).bind fun _ => ih (n + 1)

/-- A poll makes calls of its own connection. -/
theorem poll_owned {out : Except Thrown ConnectionCatchupOutcome}
    (h : Settles (pollOneConnection deps config connectionId) t out) (hsteps : v.Steps t v') :
    ∀ ev ∈ t, OwnedBy connectionId ev := by
  unfold pollOneConnection at h
  obtain ⟨e, rfl, hnow⟩ | ⟨now, t₁, t₂, rfl, hnow, hrest⟩ := settles_bind.mp h
  · obtain ⟨_, _, he⟩ := settles_now.mp hnow
    cases he
  obtain ⟨clock, rfl, _⟩ := settles_now.mp hnow
  have hclock : OwnedBy connectionId ⟨.clock, clock⟩ := ownedBy_of_none rfl
  have hlooked {r : Except Thrown (Option Connection)} : OwnedBy connectionId
      (answered (.findConnection deps.environment connectionId) r) := ownedBy_of_eq rfl
  obtain ⟨e, rfl, hfind⟩ | ⟨found, t₃, t₄, rfl, hfind, hrest₁⟩ := settles_bind.mp hrest
  · obtain rfl := settles_io.mp hfind
    simp [hclock, hlooked]
  obtain rfl := settles_io.mp hfind
  suffices hlater : ∀ ev ∈ t₄, OwnedBy connectionId ev by simpa [hclock, hlooked] using hlater
  cases found with
  | none =>
    obtain ⟨rfl, _⟩ := settles_pure.mp hrest₁
    simp
  | some connection =>
    have hfound : some connection = v.findById deps.environment connectionId :=
      hsteps.found (by simp)
    obtain ⟨_, hid⟩ := findById_connectionId hfound.symm
    refine Issues.bind (issues_io fun _ => ownedBy_of_eq rfl) (fun existing => ?_) _ _ hrest₁
    refine (issues_io (c := .listOrdersUpdatedSince connection _ _)
      fun _ => ownedBy_of_eq (congrArg some hid)).bind fun orders => ?_
    refine (enqueueMissing_owned orders 0).bind fun n => ?_
    refine (issues_io fun _ => ownedBy_of_eq rfl).bind fun _ => ?_
    by_cases htelemetry : deps.telemetry = true
    · simp only [htelemetry, if_true]
      exact (Issues.observe fun _ => ownedBy_of_none rfl).bind fun _ => .pure _
    · simp only [htelemetry]
      exact .pure _

end Poll

/-! ## Answers -/

/-- The services outside answer every call that succeeds as `answers` says, and the clock
shows the time `now`. -/
structure AnsweredAs (answers : (c : Call) → Except Thrown c.Ret) (now : ℤ) (tr : List Ev) :
    Prop where
  outside : ∀ (c : Call) (r : c.Ret), c.isStore = false → answered c (.ok r) ∈ tr → answers c = .ok r
  clock : ∀ t : ℤ, (⟨.clock, t⟩ : Ev) ∈ tr → t = now

variable {answers : (c : Call) → Except Thrown c.Ret} {now : ℤ}

theorem AnsweredAs.of_subset (h : AnsweredAs answers now tr) (hsub : t ⊆ tr) :
    AnsweredAs answers now t :=
  ⟨fun c r hout hmem => h.outside c r hout (hsub hmem), fun t hmem => h.clock t (hsub hmem)⟩

/-- What an operation is answered, if it succeeds, as long as the stores are those of `w`. -/
def World.answer (w : World) (answers : (c : Call) → Except Thrown c.Ret) (now : ℤ) :
    (o : Op) → o.Resp
  | .io c =>
    match w.serve now c with
    | some (res, _) => res
    | none => answers c
  | .clock => now
  | .track _ => ()

section Poll

variable {deps : CatchupDeps} {config : CatchupConfig} {connectionId : String}
  {existing : Option SyncWatermarkRow} {orders : List OrderSummary} {n : ℕ}

/-- What a poll of the connection depends on is as in `w`. -/
structure PollState (deps : CatchupDeps) (connectionId : String) (w v : World) : Prop where
  connections : v.connections = w.connections
  xref : v.xref = w.xref
  watermark : v.watermarks (watermarkKey deps.environment connectionId).text =
    w.watermarks (watermarkKey deps.environment connectionId).text

theorem Visits.mem_cases {ev : Ev}
    (h : Visits deps connectionId connection now orders t n) (hev : ev ∈ t) :
    (∃ parts row, ev = answered (.lookupXref parts) (.ok row)) ∨
      ∃ sessionId msg, ev = answered (.enqueue sessionId msg) (.ok ()) := by
  induction h with
  | nil => cases hev
  | skipped _ _ ih =>
    obtain rfl | hev := List.mem_cons.mp hev
    · exact .inl ⟨_, _, rfl⟩
    · exact ih hev
  | enqueued _ _ ih =>
    obtain rfl | hev := List.mem_cons.mp hev
    · exact .inl ⟨_, _, rfl⟩
    obtain rfl | hev := List.mem_cons.mp hev
    · exact .inr ⟨_, _, rfl⟩
    · exact ih hev

/-- A poll that succeeds is answered as the state that it depends on says, and writes the cursor
of its connection. -/
theorem poll_answers {out : ConnectionCatchupOutcome}
    (h : Settles (pollOneConnection deps config connectionId) t (.ok out)) (hsteps : v.Steps t v')
    (hstate : PollState deps connectionId w v)
    (hfound : w.findById deps.environment connectionId ≠ none)
    (hanswers : AnsweredAs answers now t) :
    (∀ ev ∈ t, ev.2 = w.answer answers now ev.1) ∧
      ∃ ev ∈ t, owner ev = some connectionId ∧ isWrite ev = true := by
  have hfind {environment : Environment} {id : String} {found : Option Connection}
      (hev : answered (.findConnection environment id) (.ok found) ∈ t) :
      found = w.findById environment id := by
    have hv := hsteps.found hev
    rwa [World.findById, hstate.connections] at hv
  have hlookups {parts : DedupKeyParts} {row : Option XrefRow}
      (hev : answered (.lookupXref parts) (.ok row) ∈ t) : w.xref.lookup parts = .ok row := by
    obtain ⟨key, hkey, hrow⟩ := poll_lookup h hsteps hev
    rw [hrow, hstate.xref, XrefRows.lookup, hkey]
    rfl
  generalize hout : Except.ok out = res at h
  have hends : PollEnds deps config connectionId t res := pollOneConnection_ends h
  clear h
  cases hends with
  | idle | broken | unset => cases hout
  | skipped => exact absurd (hfind (by simp)).symm hfound
  | @polled connection clock existing orders t post n hvisits hpost =>
    constructor
    · intro ev hev
      obtain hlisting | hlater := List.mem_append.mp hev
      · simp only [listing, List.mem_cons, List.not_mem_nil, or_false] at hlisting
        obtain rfl | rfl | rfl | rfl := hlisting
        · exact hanswers.clock clock hev
        · exact congrArg Except.ok (hfind hev)
        · exact congrArg Except.ok ((listing_existing hsteps).trans hstate.watermark)
        · exact (hanswers.outside _ _ rfl hev).symm
      obtain hvisit | hlater := List.mem_append.mp hlater
      · obtain ⟨parts, row, rfl⟩ | ⟨sessionId, msg, rfl⟩ := hvisits.mem_cases hvisit
        · exact (hlookups hev).symm
        · rfl
      obtain rfl | hlater := List.mem_cons.mp hlater
      · rfl
      · obtain ⟨metric, rfl⟩ := hpost ev hlater
        rfl
    · exact ⟨_, List.mem_append_right _ (List.mem_append_right _ (List.mem_cons_self ..)), rfl, rfl⟩

theorem watermarkKey_text_inj {environment : Environment} {id id' : String}
    (h : (watermarkKey environment id).text = (watermarkKey environment id').text) : id = id' := by
  have htext : environment.text ++ "|" ++ id ++ "|" ++ catchupFlow =
      environment.text ++ "|" ++ id' ++ "|" ++ catchupFlow := h
  simpa using htext

/-- A poll of another connection leaves what this one depends on as it is. -/
theorem PollState.of_poll {connectionId' : String} {out : Except Thrown ConnectionCatchupOutcome}
    (hstate : PollState deps connectionId w v) (hne : connectionId' ≠ connectionId)
    (h : Settles (pollOneConnection deps config connectionId') t out) (hsteps : v.Steps t v') :
    PollState deps connectionId w v' where
  connections := (World.Steps.connections_eq hsteps).trans hstate.connections
  xref := (pollOneConnection_enqueues h hsteps).1.trans hstate.xref
  watermark := by
    refine Eq.trans ?_ hstate.watermark
    have hends := pollOneConnection_ends h
    refine Effects.Steps.frame (f := fun w =>
      w.watermarks (watermarkKey deps.environment connectionId).text) hsteps ?_
    intro ev hev v₁ v₂ hstep
    by_cases hset : ∃ parts cursor u, ev = answered (.setWatermark parts cursor) (.ok u)
    · obtain ⟨parts, cursor, u, rfl⟩ := hset
      obtain ⟨rfl, _⟩ := hends.of_mem_set hev
      obtain ⟨now, rfl⟩ := World.Step.setWatermark_ok hstep
      exact Function.update_of_ne (fun heq => hne (watermarkKey_text_inj heq).symm) ..
    · push Not at hset
      exact congrFun (World.Step.watermarks_eq hstep hset) _

end Poll

section Reconciliation

variable {deps : ReconciliationDeps} {config : ReconciliationConfig}
  {connectionId businessDate : String} {res : Except Thrown ConnectionReconcileResult}

/-- How the reconciliation of a day goes. -/
inductive DayRun (deps : ReconciliationDeps) (config : ReconciliationConfig)
    (connectionId businessDate : String) :
    List Ev → Except Thrown ConnectionReconcileResult → Prop
  | notReady (h : (deps.orderSyncLog && deps.reconciliationStore) = false) :
      DayRun deps config connectionId businessDate [] (.ok (notReady connectionId businessDate))
  | failed (e : Thrown) : DayRun deps config connectionId businessDate
      [answered (.findConnection deps.environment connectionId) (.error e)] (.error e)
  | skipped {found : Option Connection} (h : ∀ connection, found = some connection →
      connection.enabled = false) :
      DayRun deps config connectionId businessDate
        [answered (.findConnection deps.environment connectionId) (.ok found)]
        (.ok (notReady connectionId businessDate))
  | found {connection : Connection} {t : List Ev} {res : Except Thrown ConnectionReconcileResult}
      (h : Settles (reconcileDay deps config connection connectionId businessDate) t res) :
      DayRun deps config connectionId businessDate
        (answered (.findConnection deps.environment connectionId) (.ok (some connection)) :: t) res

theorem dayRun_of_settles
    (h : Settles (reconcileOneDay deps config connectionId businessDate) t res) :
    DayRun deps config connectionId businessDate t res := by
  unfold reconcileOneDay at h
  split at h
  · next hready =>
    obtain ⟨rfl, rfl⟩ := settles_pure.mp h
    refine .notReady (Bool.and_eq_false_iff.mpr ?_)
    simpa using hready
  obtain ⟨e, rfl, hfind⟩ | ⟨found, t₁, t₂, rfl, hfind, hrest⟩ := settles_bind.mp h
  · obtain rfl := settles_io.mp hfind
    exact .failed e
  obtain rfl := settles_io.mp hfind
  cases found with
  | none =>
    obtain ⟨rfl, rfl⟩ := settles_pure.mp hrest
    exact .skipped (by simp)
  | some connection =>
    by_cases henabled : connection.enabled = true
    · simp only [henabled, if_true] at hrest
      exact .found hrest
    · simp only [henabled] at hrest
      obtain ⟨rfl, rfl⟩ := settles_pure.mp hrest
      refine .skipped fun c hc => ?_
      obtain rfl := Option.some.inj hc
      simpa using henabled

/-- A day catches nothing. -/
theorem escapes_reconcileOneDay :
    Escapes Failed (reconcileOneDay deps config connectionId businessDate) := by
  unfold reconcileOneDay
  split
  · exact .pure _
  refine escapes_io.bind fun found => ?_
  cases found with
  | none => exact .pure _
  | some connection =>
    by_cases henabled : connection.enabled = true
    · simp only [henabled, if_true]
      refine escapes_io.bind fun agg => escapes_io.bind fun ledger => escapes_io.bind fun snapshot => ?_
      dsimp only
      split
      · exact escapes_track.bind fun _ => .pure _
      · exact .pure _
    · simp only [henabled]
      exact .pure _

/-- What a day of a connection that was found asks. -/
inductive DayCall (connection : Connection) (connectionId : String) : Ev → Prop
  | aggregate {fromInclusive toExclusive : String} {r : Except Thrown OrderDailyAggregate} :
      DayCall connection connectionId
        (answered (.getDailyOrderAggregate connection fromInclusive toExclusive) r)
  | ledger {filter : OrderSyncLogListFilter} {r : Except Thrown (List OrderSyncLog)}
      (h : filter.connectionId = connectionId) :
      DayCall connection connectionId (answered (.listSyncLog filter) r)
  | snapshot {input : ReconciliationSnapshotInput} {r : Except Thrown ReconciliationSnapshot}
      (h : input.connectionId = connectionId) :
      DayCall connection connectionId (answered (.upsertSnapshot input) r)
  | track (metric : Metric) : DayCall connection connectionId ⟨.track metric, ()⟩

theorem reconcileDay_calls : Issues (DayCall connection connectionId)
    (reconcileDay deps config connection connectionId businessDate) := by
  unfold reconcileDay
  refine (issues_io fun _ => .aggregate).bind fun agg => ?_
  refine (issues_io fun _ => .ledger rfl).bind fun ledger => ?_
  refine (issues_io fun _ => .snapshot rfl).bind fun snapshot => ?_
  dsimp only
  split
  · exact (Issues.observe fun _ => .track _).bind fun _ => .pure _
  · exact .pure _

theorem DayCall.ownedBy {ev : Ev} (h : DayCall connection connectionId ev)
    (hid : connection.connectionId = connectionId) : OwnedBy connectionId ev := by
  cases h with
  | aggregate => exact ownedBy_of_eq (congrArg some hid)
  | ledger h => exact ownedBy_of_eq h
  | snapshot h => exact ownedBy_of_eq (congrArg some h)
  | track => exact ownedBy_of_none rfl

/-- A day that succeeds wrote its snapshot. -/
theorem reconcileDay_writes {out : ConnectionReconcileResult}
    (h : Settles (reconcileDay deps config connection connectionId businessDate) t (.ok out)) :
    ∃ input r, input.connectionId = connectionId ∧ answered (.upsertSnapshot input) r ∈ t := by
  unfold reconcileDay at h
  obtain ⟨agg, t₁, t₂, rfl, _, hrest⟩ := settles_bind_ok.mp h
  obtain ⟨ledger, t₃, t₄, rfl, _, hrest₁⟩ := settles_bind_ok.mp hrest
  obtain ⟨snapshot, t₅, t₆, rfl, hsnapshot, _⟩ := settles_bind_ok.mp hrest₁
  obtain rfl := settles_io.mp hsnapshot
  exact ⟨_, _, rfl, List.mem_append_right _ (List.mem_append_right _ (List.mem_cons_self ..))⟩

/-- The connections are as in `w`. -/
abbrev SameConnections (w v : World) : Prop := v.connections = w.connections

/-- A day makes calls of its own connection. -/
theorem day_owned (h : DayRun deps config connectionId businessDate t res) (hsteps : v.Steps t v') :
    ∀ ev ∈ t, OwnedBy connectionId ev := by
  cases h with
  | notReady => simp
  | failed | skipped =>
    intro ev hev
    rw [List.mem_singleton.mp hev]
    exact ownedBy_of_eq rfl
  | @found connection t _ h =>
    intro ev hev
    obtain rfl | hev := List.mem_cons.mp hev
    · exact ownedBy_of_eq rfl
    · have hfound := hsteps.found (List.mem_cons_self ..)
      obtain ⟨_, hid⟩ := findById_connectionId hfound.symm
      exact (reconcileDay_calls _ _ h ev hev).ownedBy hid

theorem day_starts (h : DayRun deps config connectionId businessDate t res)
    (hready : (deps.orderSyncLog && deps.reconciliationStore) = true) :
    ∃ ev ∈ t, owner ev = some connectionId := by
  cases h with
  | notReady hnot =>
    rw [hready] at hnot
    cases hnot
  | failed | skipped | found => exact ⟨_, List.mem_cons_self .., rfl⟩

/-- A day without failing calls is answered as the connections and the services say. -/
theorem day_answers (h : DayRun deps config connectionId businessDate t res)
    (hsteps : v.Steps t v') (hstate : SameConnections w v) (hanswers : AnsweredAs answers now t)
    (hnone : ∀ ev ∈ t, ¬Failed ev) : ∀ ev ∈ t, ev.2 = w.answer answers now ev.1 := by
  have hfind {found : Option Connection}
      (hev : answered (.findConnection deps.environment connectionId) (.ok found) ∈ t) :
      found = w.findById deps.environment connectionId := by
    have hv := hsteps.found hev
    rwa [World.findById, hstate] at hv
  have houtside {c : Call} {r : Except Thrown c.Ret} (hout : c.isStore = false)
      (hserve : w.serve now c = none) (hev : answered c r ∈ t) :
      r = w.answer answers now (.io c) := by
    cases r with
    | error e => exact absurd rfl (hnone _ hev)
    | ok r => simp only [World.answer, hserve, hanswers.outside c r hout hev]
  intro ev hev
  cases h with
  | notReady => cases hev
  | failed e => exact absurd rfl (hnone _ (List.mem_cons_self ..))
  | skipped =>
    obtain rfl := List.mem_singleton.mp hev
    exact congrArg Except.ok (hfind hev)
  | found h =>
    obtain rfl | hlater := List.mem_cons.mp hev
    · exact congrArg Except.ok (hfind hev)
    · cases reconcileDay_calls _ _ h ev hlater with
      | aggregate | ledger | snapshot => exact houtside rfl rfl hev
      | track => rfl

/-- A day of an enabled connection that succeeds writes a snapshot. -/
theorem day_writes {out : ConnectionReconcileResult}
    (h : DayRun deps config connectionId businessDate t (.ok out)) (hsteps : v.Steps t v')
    (hready : (deps.orderSyncLog && deps.reconciliationStore) = true)
    (hfound : v.findById deps.environment connectionId = some connection)
    (henabled : connection.enabled = true) :
    ∃ ev ∈ t, owner ev = some connectionId ∧ isWrite ev = true := by
  generalize hout : Except.ok out = res at h
  cases h with
  | notReady hnot =>
    rw [hready] at hnot
    cases hnot
  | failed => cases hout
  | skipped hskip =>
    have hsame := hsteps.found (List.mem_cons_self ..)
    rw [hskip connection (hsame.trans hfound)] at henabled
    cases henabled
  | found h =>
    subst hout
    obtain ⟨input, r, hid, hmem⟩ := reconcileDay_writes h
    exact ⟨_, List.mem_cons_of_mem _ hmem, congrArg some hid, rfl⟩

end Reconciliation

/-! ## The work on one connection -/

/-- How the work of a sweep on one connection goes, when its calls are answered as usual: it
makes its own calls, throws exactly when one of them failed, and otherwise does what the
answers determine, and writes something. -/
structure Works (sweep : Sweep) (answers : (c : Call) → Except Thrown c.Ret) (now : ℤ) (w : World)
    (connection : Connection) (t : List Ev) (res : Except Thrown sweep.Item) : Prop where
  iteration : Iteration owner Failed connection.connectionId t res
  determined : (∃ b, res = .ok b) →
    t = ((sweep.body now connection).run.eval (w.answer answers now)).1
  writes : (∃ b, res = .ok b) →
    ∃ ev ∈ t, owner ev = some connection.connectionId ∧ isWrite ev = true

theorem mem_enabled {environment : Environment} (h : connection ∈ w.enabled environment) :
    connection ∈ w.connections ∧ connection.environment = environment ∧ connection.enabled = true := by
  have hmem := List.mem_filter.mp h
  simpa using hmem

theorem findById_of_enabled {environment : Environment} (hconf : Configured w.connections)
    (h : connection ∈ w.enabled environment) :
    w.findById environment connection.connectionId = some connection := by
  obtain ⟨hmem, rfl, _⟩ := mem_enabled h
  exact hconf.findById_self hmem

theorem Works.of_body {sweep : Sweep} {res : Except Thrown sweep.Item}
    (h : Settles (sweep.body now connection) t res)
    (hescapes : Escapes Failed (sweep.body now connection))
    (hown : ∀ ev ∈ t, OwnedBy connection.connectionId ev)
    (hstarts : ∃ ev ∈ t, owner ev = some connection.connectionId)
    (hok : (∃ b, res = .ok b) → (∀ ev ∈ t, ev.2 = w.answer answers now ev.1) ∧
      ∃ ev ∈ t, owner ev = some connection.connectionId ∧ isWrite ev = true) :
    Works sweep answers now w connection t res where
  iteration := ⟨fun ev hev k' hk => hown ev hev k' hk, hstarts, hescapes t res h⟩
  determined hres := (congrArg Prod.fst (Runs.eq_eval h (hok hres).1)).symm
  writes hres := (hok hres).2

section Catchup

variable {deps : CatchupDeps} {config : CatchupConfig} {connectionId : String}

theorem poll_starts {out : Except Thrown ConnectionCatchupOutcome}
    (h : Settles (pollOneConnection deps config connectionId) t out) :
    ∃ ev ∈ t, owner ev = some connectionId := by
  unfold pollOneConnection at h
  obtain ⟨e, rfl, hnow⟩ | ⟨now, t₁, t₂, rfl, hnow, hrest⟩ := settles_bind.mp h
  · obtain ⟨_, _, he⟩ := settles_now.mp hnow
    cases he
  obtain ⟨e, rfl, hfind⟩ | ⟨found, t₃, t₄, rfl, hfind, _⟩ := settles_bind.mp hrest
  · obtain rfl := settles_io.mp hfind
    exact ⟨_, List.mem_append_right _ (List.mem_cons_self ..), rfl⟩
  · obtain rfl := settles_io.mp hfind
    exact ⟨_, List.mem_append_right _ (List.mem_cons_self ..), rfl⟩

theorem catchup_body (hready : (Sweep.catchup deps config).isReady = true) :
    (Sweep.catchup deps config).body now connection =
      pollOneConnection deps config connection.connectionId := if_pos hready

theorem catchup_works {res : Except Thrown ConnectionCatchupOutcome}
    (hready : (Sweep.catchup deps config).isReady = true) (hconf : Configured w.connections)
    (hmem : connection ∈ w.enabled deps.environment)
    (hstate : PollState deps connection.connectionId w v) (hsteps : v.Steps t v')
    (hanswers : AnsweredAs answers now t)
    (h : Settles ((Sweep.catchup deps config).body now connection) t res) :
    Works (.catchup deps config) answers now w connection t res := by
  have hpoll : Settles (pollOneConnection deps config connection.connectionId) t res := by
    rwa [← catchup_body hready]
  have hfound : w.findById deps.environment connection.connectionId ≠ none := by
    simp [findById_of_enabled hconf hmem]
  refine .of_body h ?_ (poll_owned hpoll hsteps) (poll_starts hpoll) fun hok => ?_
  · rw [catchup_body hready]
    exact escapes_pollOneConnection
  · obtain ⟨b, rfl⟩ := hok
    exact poll_answers hpoll hsteps hstate hfound hanswers

end Catchup

section Reconciliation

variable {deps : ReconciliationDeps} {config : ReconciliationConfig}

theorem reconciliation_works {res : Except Thrown (List ConnectionReconcileResult)}
    (hready : (Sweep.reconciliation deps config).isReady = true) (hconf : Configured w.connections)
    (hmem : connection ∈ w.enabled deps.environment) (hstate : SameConnections w v)
    (hsteps : v.Steps t v') (hanswers : AnsweredAs answers now t)
    (h : Settles (reconcileConnection deps config now connection) t res) :
    Works (.reconciliation deps config) answers now w connection t res := by
  obtain ⟨hstores, hdays⟩ : (deps.orderSyncLog && deps.reconciliationStore) = true ∧
      0 < config.daysBack := by simpa [Sweep.isReady] using hready
  have hescapes : Escapes Failed (reconcileConnection deps config now connection) :=
    .mapM fun _ => escapes_reconcileOneDay
  have hruns : Loops (DayRun deps config connection.connectionId) (businessDates config now) t res :=
    (loops_of_settles h).mono fun _ _ _ _ _ hday => dayRun_of_settles hday
  have hapart : (businessDates config now).Pairwise fun _ _ => True :=
    List.pairwise_of_forall fun _ _ => trivial
  have hsteady : Loops (fun date s r => DayRun deps config connection.connectionId date s r ∧
      ∃ u u', SameConnections w u ∧ u.Steps s u') (businessDates config now) t res :=
    hruns.steps hsteps hapart (fun _ _ => hstate) fun _ _ _ _ _ _ _ _ hday hsame =>
      (World.Steps.connections_eq hday).trans hsame
  have hloop : Loops (fun date s r => (DayRun deps config connection.connectionId date s r ∧
      ∃ u u', SameConnections w u ∧ u.Steps s u') ∧ s ⊆ t) (businessDates config now) t res :=
    hsteady.mono fun _ _ _ _ hsub hday => ⟨hday, hsub⟩
  obtain ⟨date, dates, hdates⟩ : ∃ date dates, businessDates config now = date :: dates := by
    apply List.exists_cons_of_ne_nil
    simp only [businessDates, ne_eq, List.map_eq_nil_iff, List.range_eq_nil]
    omega
  have hfirst := hloop
  rw [hdates] at hfirst
  obtain ⟨s, r, ⟨⟨hday, u, u', hu, hsteps'⟩, hsub⟩, _, hends⟩ := hfirst.exists_first
  refine .of_body h hescapes (fun ev hev => ?_) ?_ fun hok => ⟨fun ev hev => ?_, ?_⟩
  · obtain ⟨_, _, _, _, ⟨⟨hday, _, _, _, hsteps'⟩, _⟩, hev⟩ := hloop.exists_mem hev
    exact day_owned hday hsteps' ev hev
  · obtain ⟨ev, hev, hid⟩ := day_starts hday hstores
    exact ⟨ev, hsub hev, hid⟩
  · have hnone : ∀ ev ∈ t, ¬Failed ev := by
      intro ev hev hfailed
      obtain ⟨e, rfl⟩ := (hescapes t _ h).mpr ⟨ev, hev, hfailed⟩
      obtain ⟨b, hb⟩ := hok
      cases hb
    obtain ⟨_, _, _, _, ⟨⟨hday, _, _, hu, hsteps'⟩, hsub⟩, hev⟩ := hloop.exists_mem hev
    exact day_answers hday hsteps' hu (hanswers.of_subset hsub) (fun ev hev => hnone ev (hsub hev))
      ev hev
  · obtain ⟨b, rfl⟩ := hends hok
    obtain ⟨_, _, henabled⟩ := mem_enabled hmem
    have hfound : u.findById deps.environment connection.connectionId = some connection := by
      rw [World.findById, hu]
      exact findById_of_enabled hconf hmem
    obtain ⟨ev, hev, hwrite⟩ := day_writes hday hsteps' hstores hfound henabled
    exact ⟨ev, hsub hev, hwrite⟩

end Reconciliation

/-! ## Whole sweeps -/

theorem World.Step.listEnabled_ok {environment : Environment} {listed : List Connection}
    (h : World.Step (.io (.listEnabled environment)) w (.ok listed) w') :
    listed = w.enabled environment ∧ w' = w := by
  obtain ⟨now, h⟩ := h.served_of_ok rfl
  simp only [serve, Option.some.injEq, Prod.mk.injEq, Except.ok.injEq] at h
  exact ⟨h.1.symm, h.2.symm⟩

/-- The failing calls are calls of failing connections, and no failing connection is reached
without a failing call. -/
structure FailsFor (failing : String → Prop) (tr : List Ev) : Prop where
  only : ∀ ev ∈ tr, Failed ev → ∃ id, owner ev = some id ∧ failing id
  reached : ∀ id, failing id → (∃ ev ∈ tr, owner ev = some id) →
    ∃ ev ∈ tr, owner ev = some id ∧ Failed ev

section Loops

variable {sweep : Sweep}

/-- What the work on a connection depends on is as in `w`. -/
def Sweep.State (sweep : Sweep) (w : World) (connection : Connection) (v : World) : Prop :=
  match sweep with
  | catchup deps _ => PollState deps connection.connectionId w v
  | reconciliation .. => SameConnections w v

theorem Sweep.state_self : sweep.State w connection w := by
  cases sweep with
  | catchup => exact ⟨rfl, rfl, rfl⟩
  | reconciliation => rfl

theorem Sweep.state_frame {connection' : Connection} {res : Except Thrown sweep.Item}
    (hready : sweep.isReady = true) (hne : connection.connectionId ≠ connection'.connectionId)
    (h : Settles (sweep.body now connection) t res) (hsteps : v.Steps t v')
    (hstate : sweep.State w connection' v) : sweep.State w connection' v' := by
  cases sweep with
  | catchup deps config =>
    rw [catchup_body hready] at h
    exact PollState.of_poll hstate hne h hsteps
  | reconciliation => exact (World.Steps.connections_eq hsteps).trans hstate

theorem Sweep.works {res : Except Thrown sweep.Item} (hready : sweep.isReady = true)
    (hconf : Configured w.connections) (hmem : connection ∈ w.enabled sweep.environment)
    (hstate : sweep.State w connection v) (hsteps : v.Steps t v')
    (hanswers : AnsweredAs answers now t) (h : Settles (sweep.body now connection) t res) :
    Works sweep answers now w connection t res := by
  cases sweep with
  | catchup => exact catchup_works hready hconf hmem hstate hsteps hanswers h
  | reconciliation => exact reconciliation_works hready hconf hmem hstate hsteps hanswers h

theorem pairwise_enabled {environment : Environment} (hconf : Configured w.connections) :
    (w.enabled environment).Pairwise fun a b => a.connectionId ≠ b.connectionId := by
  have hfiltered := hconf.distinct.filter fun c => c.environment = environment && c.enabled
  refine hfiltered.imp_of_mem fun ha hb hne => ?_
  obtain ⟨_, henv, _⟩ := mem_enabled ha
  obtain ⟨_, henv', _⟩ := mem_enabled hb
  exact hne (henv.trans henv'.symm)

/-- The loop of a sweep over the enabled connections. -/
theorem works_of_settles {results : Except Thrown (List sweep.Item)}
    (hready : sweep.isReady = true) (hconf : Configured w.connections) (hsteps : w.Steps t w')
    (hanswers : AnsweredAs answers now t)
    (h : Settles ((w.enabled sweep.environment).mapM (sweep.body now)) t results) :
    Loops (Works sweep answers now w) (w.enabled sweep.environment) t results := by
  have hloop := (loops_of_settles h).steps hsteps (pairwise_enabled hconf)
    (fun connection _ => (Sweep.state_self : sweep.State w connection w))
    fun _ _ _ _ _ _ hne hbody hv hstate => Sweep.state_frame hready hne hbody hv hstate
  refine hloop.mono fun connection hmem s r hsub hbody => ?_
  obtain ⟨hsettles, v, v', hstate, hv⟩ := hbody
  exact Sweep.works hready hconf hmem hstate hv (hanswers.of_subset hsub) hsettles

/-- A sweep lists the connections and loops over the enabled ones. -/
theorem Sweep.loops {res : Except Thrown sweep.Out} (hready : sweep.isReady = true)
    (hconf : Configured w.connections) (h : Exec World.Step sweep.program.run w tr res w')
    (hanswers : AnsweredAs answers now tr)
    (honly : ∀ ev ∈ tr, Failed ev → ∃ id, owner ev = some id) :
    ∃ (pre t : List Ev) (results : Except Thrown (List sweep.Item)), tr = pre ++ t ∧
      (∀ ev ∈ pre, owner ev = none ∧ ¬Failed ev) ∧
      Loops (Works sweep answers now w) (w.enabled sweep.environment) t results := by
  obtain ⟨hruns, hsteps⟩ := h
  have hlisted {environment : Environment} {r : Except Thrown (List Connection)}
      (hev : answered (.listEnabled environment) r ∈ tr) : ∃ listed, r = .ok listed := by
    cases r with
    | ok listed => exact ⟨listed, rfl⟩
    | error e =>
      obtain ⟨id, hid⟩ := honly _ hev rfl
      cases hid
  have hquiet {environment : Environment} {listed : List Connection} {r : Except Thrown (List Connection)}
      (hr : r = .ok listed) : owner (answered (.listEnabled environment) r) = none ∧
        ¬Failed (answered (.listEnabled environment) r) := by
    subst hr
    exact ⟨rfl, Bool.false_ne_true⟩
  cases sweep with
  | catchup deps config =>
    have hsettles : Settles (pollCatchup deps config) tr res := hruns
    unfold pollCatchup at hsettles
    obtain ⟨e, rfl, hlist⟩ | ⟨listed, t₁, t₂, rfl, hlist, hrest⟩ := settles_bind.mp hsettles
    · obtain rfl := settles_io.mp hlist
      obtain ⟨_, he⟩ := hlisted (List.mem_cons_self ..)
      cases he
    obtain rfl := settles_io.mp hlist
    obtain ⟨w₁, hstep, hloop⟩ := steps_cons.mp hsteps
    obtain ⟨rfl, rfl⟩ := World.Step.listEnabled_ok hstep
    rw [pollConnections_eq] at hrest
    have hworks : Loops (Works (.catchup deps config) answers now w₁) (w₁.enabled deps.environment)
        t₂ res :=
      works_of_settles hready hconf hloop (hanswers.of_subset (List.subset_append_right ..)) hrest
    exact ⟨[_], t₂, res, rfl, by simpa using hquiet rfl, hworks⟩
  | reconciliation deps config =>
    have hsettles : Settles (runReconciliation deps config) tr res := hruns
    unfold runReconciliation at hsettles
    obtain ⟨e, rfl, hnow⟩ | ⟨clock, t₀, t₁, rfl, hnow, hrest⟩ := settles_bind.mp hsettles
    · obtain ⟨_, _, he⟩ := settles_now.mp hnow
      cases he
    obtain ⟨clock, rfl, hclock⟩ := settles_now.mp hnow
    cases hclock
    obtain rfl : clock = now := hanswers.clock clock (List.mem_cons_self ..)
    obtain ⟨e, rfl, hlist⟩ | ⟨listed, t₂, t₃, rfl, hlist, hrest₁⟩ := settles_bind.mp hrest
    · obtain rfl := settles_io.mp hlist
      obtain ⟨_, he⟩ := hlisted (List.mem_cons_of_mem _ (List.mem_cons_self ..))
      cases he
    obtain rfl := settles_io.mp hlist
    obtain ⟨w₁, hstep, hsteps₁⟩ := steps_cons.mp hsteps
    obtain ⟨w₂, hstep₁, hloop⟩ := steps_cons.mp hsteps₁
    cases hstep
    obtain ⟨rfl, rfl⟩ := World.Step.listEnabled_ok hstep₁
    obtain ⟨results, hmap⟩ : ∃ results, Settles ((w₂.enabled deps.environment).mapM
        fun connection => reconcileConnection deps config clock connection) t₃ results := by
      obtain ⟨e, rfl, hmap⟩ | ⟨items, s₁, s₂, rfl, hmap, hpure⟩ := settles_bind.mp hrest₁
      · exact ⟨_, hmap⟩
      · obtain ⟨rfl, _⟩ := settles_pure.mp hpure
        rw [List.append_nil]
        exact ⟨_, hmap⟩
    have hsub : t₃ ⊆ [⟨.clock, clock⟩] ++
        ([answered (.listEnabled deps.environment) (.ok (w₂.enabled deps.environment))] ++ t₃) := by
      intro ev hev
      exact List.mem_append_right _ (List.mem_append_right _ hev)
    have hworks : Loops (Works (.reconciliation deps config) answers clock w₂)
        (w₂.enabled deps.environment) t₃ results :=
      works_of_settles hready hconf hloop (hanswers.of_subset hsub) hmap
    refine ⟨[⟨.clock, clock⟩, answered (.listEnabled deps.environment) _], t₃, results, rfl, ?_, hworks⟩
    simpa using ⟨⟨rfl, Bool.false_ne_true⟩, hquiet rfl⟩

/-- A sweep that has nothing to do makes no call for a connection. -/
theorem Sweep.idle (hidle : sweep.isReady = false) :
    Issues (fun ev => owner ev = none) sweep.program := by
  cases sweep with
  | catchup deps config =>
    refine (issues_io fun _ => rfl).bind fun listed => ?_
    rw [pollConnections_eq]
    refine .mapM fun connection _ => ?_
    have hbody : (Sweep.catchup deps config).body 0 connection =
        pure (.skipped connection.connectionId) := if_neg (by simpa [Sweep.isReady] using hidle)
    rw [hbody]
    exact .pure _
  | reconciliation deps config =>
    refine (Issues.observe fun _ => rfl).bind fun clock => (issues_io fun _ => rfl).bind fun listed => ?_
    refine (Issues.mapM fun connection _ => ?_).bind fun results => .pure _
    refine .mapM fun businessDate hdate => ?_
    have hdays : 0 < config.daysBack := by
      simp only [businessDates, List.mem_map, List.mem_range] at hdate
      obtain ⟨i, hi, _⟩ := hdate
      omega
    have hstores : (!deps.orderSyncLog || !deps.reconciliationStore) = true := by
      simp only [Sweep.isReady, hdays, decide_true, Bool.and_true] at hidle
      rw [← Bool.not_and, hidle]
      rfl
    unfold reconcileOneDay
    rw [if_pos hstores]
    exact .pure _

end Loops

section Result

variable {sweep : Sweep} {failing : String → Prop} {tr₀ tr₁ : List Ev} {w₀ w₁ : World}
  {res₀ res₁ : Except Thrown sweep.Out}

/-- The work that succeeds writes what the answers determine, and something. -/
theorem Works.writes_eq {b : sweep.Item} (h : Works sweep answers now w connection t (.ok b)) :
    writesOf owner isWrite connection.connectionId t =
        writesOf owner isWrite connection.connectionId
          ((sweep.body now connection).run.eval (w.answer answers now)).1 ∧
      writesOf owner isWrite connection.connectionId t ≠ [] := by
  constructor
  · rw [← h.determined ⟨b, rfl⟩]
  · obtain ⟨ev, hev, hid, hwrite⟩ := h.writes ⟨b, rfl⟩
    refine List.ne_nil_of_mem (List.mem_filter.mpr ⟨hev, ?_⟩)
    simp [hid, hwrite]

/-- In a run without failing calls, every enabled connection writes what its work determines. -/
theorem writes_of_smooth (hready : sweep.isReady = true) (hconf : Configured w.connections)
    (h : Exec World.Step sweep.program.run w tr₀ res₀ w₀) (hanswers : AnsweredAs answers now tr₀)
    (hnone : ∀ ev ∈ tr₀, ¬Failed ev) : ∀ connection ∈ w.enabled sweep.environment,
      writesOf owner isWrite connection.connectionId tr₀ =
          writesOf owner isWrite connection.connectionId
            ((sweep.body now connection).run.eval (w.answer answers now)).1 ∧
        writesOf owner isWrite connection.connectionId tr₀ ≠ [] := by
  obtain ⟨pre, t, results, rfl, hpre, hloop⟩ := Sweep.loops hready hconf h hanswers
    fun ev hev hfailed => absurd hfailed (hnone ev hev)
  have hends : ∀ connection t r, Works sweep answers now w connection t r →
      Iteration owner Failed connection.connectionId t r := fun _ _ _ hworks => hworks.iteration
  obtain ⟨items, rfl⟩ : ∃ items, results = .ok items := by
    cases results with
    | ok items => exact ⟨items, rfl⟩
    | error e =>
      obtain ⟨ev, hev, hfailed⟩ := hloop.exists_failed hends
      exact absurd hfailed (hnone ev (List.mem_append_right _ hev))
  have hsome : ∀ connection ∈ w.enabled sweep.environment,
      writesOf owner isWrite connection.connectionId
        ((sweep.body now connection).run.eval (w.answer answers now)).1 ≠ [] := by
    intro connection hmem
    obtain ⟨s, b, hworks⟩ := hloop.exists_of_ok hmem
    obtain ⟨heq, hne⟩ := hworks.writes_eq
    rwa [heq] at hne
  -- nobody fails, so everybody is spared
  obtain ⟨nobody, hnobody⟩ : ∃ nobody : String → Prop, ∀ id, ¬nobody id := ⟨fun _ => False, by simp⟩
  have hreached : ∀ id, nobody id → (∃ ev ∈ t, owner ev = some id) →
      ∃ ev ∈ t, owner ev = some id ∧ Failed ev := fun id hid => absurd hid (hnobody id)
  have hlater : (w.enabled sweep.environment).Pairwise fun a b =>
      nobody a.connectionId → nobody b.connectionId :=
    List.pairwise_of_forall fun a _ hid => absurd hid (hnobody a.connectionId)
  have hspared := (hloop.spares_iff hends (fun connection s b hworks => hworks.writes_eq.1) hsome
    (pairwise_enabled hconf)
    (fun ev hev hfailed => absurd hfailed (hnone ev (List.mem_append_right _ hev))) hreached).mpr hlater
  intro connection hmem
  have hpost := hspared connection hmem (hnobody connection.connectionId)
  have hwhole : writesOf owner isWrite connection.connectionId (pre ++ t) =
      writesOf owner isWrite connection.connectionId t := by
    rw [writesOf_append, writesOf_eq_nil fun ev hev => by simp [(hpre ev hev).1], List.nil_append]
  rw [hwhole, hpost]
  exact ⟨rfl, hsome connection hmem⟩

/-- Let the connections of `failing` fail, wherever a call reaches them, and let all else go as in
a run in which no call fails. The other connections are sent the same messages and keep the same
cursors and snapshots if and only if no connection that fails stands before one of them. -/
theorem sweep_spares_iff (hconf : Configured w.connections)
    (h₀ : Exec World.Step sweep.program.run w tr₀ res₀ w₀)
    (h₁ : Exec World.Step sweep.program.run w tr₁ res₁ w₁)
    (hanswers₀ : AnsweredAs answers now tr₀) (hanswers₁ : AnsweredAs answers now tr₁)
    (hnone : ∀ ev ∈ tr₀, ¬Failed ev) (hfails : FailsFor failing tr₁) :
    (∀ connection ∈ w.enabled sweep.environment, ¬failing connection.connectionId →
      writesOf owner isWrite connection.connectionId tr₁ =
        writesOf owner isWrite connection.connectionId tr₀) ↔
      (sweep.isReady = true → (w.enabled sweep.environment).Pairwise fun a b =>
        failing a.connectionId → failing b.connectionId) := by
  by_cases hready : sweep.isReady = true
  · have hsmooth := writes_of_smooth hready hconf h₀ hanswers₀ hnone
    obtain ⟨pre, t, results, rfl, hpre, hloop⟩ := Sweep.loops hready hconf h₁ hanswers₁
      fun ev hev hfailed => (hfails.only ev hev hfailed).imp fun _ hid => hid.1
    have hwhole (id : String) :
        writesOf owner isWrite id (pre ++ t) = writesOf owner isWrite id t := by
      rw [writesOf_append, writesOf_eq_nil fun ev hev => by simp [(hpre ev hev).1], List.nil_append]
    have hreached : ∀ id, failing id → (∃ ev ∈ t, owner ev = some id) →
        ∃ ev ∈ t, owner ev = some id ∧ Failed ev := by
      intro id hid howned
      obtain ⟨ev, hev, howner⟩ := howned
      obtain ⟨ev', hev', howner', hfailed⟩ :=
        hfails.reached id hid ⟨ev, List.mem_append_right _ hev, howner⟩
      obtain hev' | hev' := List.mem_append.mp hev'
      · exact absurd hfailed (hpre ev' hev').2
      · exact ⟨ev', hev', howner', hfailed⟩
    have hmain := hloop.spares_iff (fun _ _ _ hworks => hworks.iteration)
      (fun connection s b hworks => hworks.writes_eq.1)
      (fun connection hmem => by
        rw [← (hsmooth connection hmem).1]
        exact (hsmooth connection hmem).2)
      (pairwise_enabled hconf)
      (fun ev hev hfailed => hfails.only ev (List.mem_append_right _ hev) hfailed) hreached
    have hdrop : (sweep.isReady = true → (w.enabled sweep.environment).Pairwise fun a b =>
        failing a.connectionId → failing b.connectionId) ↔
        (w.enabled sweep.environment).Pairwise fun a b =>
          failing a.connectionId → failing b.connectionId := by simp [hready]
    rw [hdrop, ← hmain]
    refine forall_congr' fun connection => forall_congr' fun hmem => ?_
    rw [hwhole, (hsmooth connection hmem).1]
  · have hidle := Sweep.idle (Bool.eq_false_iff.mpr hready)
    have hnil {res : Except Thrown sweep.Out} {tr : List Ev} {v : World}
        (h : Exec World.Step sweep.program.run w tr res v) (id : String) :
        writesOf owner isWrite id tr = [] :=
      writesOf_eq_nil fun ev hev => by simp [hidle tr res h.1 ev hev]
    constructor
    · intro _ hready'
      exact absurd hready' hready
    · intro _ connection _ _
      rw [hnil h₀, hnil h₁]

end Result

/-! ## Two connections, one of which fails -/

theorem Responder.answeredAs {s : Responder} (h : ∀ ev ∈ tr, ∃ v, ev.2 = (s.respond ev.1 v).1) :
    AnsweredAs s.answers s.now tr where
  outside c r hout hmem := by
    obtain ⟨v, hanswer⟩ := h _ hmem
    have hserve : v.serve s.now c = none := by
      by_contra hserved
      obtain ⟨out, hserve⟩ := Option.ne_none_iff_exists'.mp hserved
      simp [World.isStore_of_serve hserve] at hout
    cases hfails : s.fails c with
    | some e => simp [Responder.respond, hfails] at hanswer
    | none =>
      simp only [Responder.respond, hfails, hserve] at hanswer
      exact hanswer.symm
  clock t hmem := by
    obtain ⟨v, hanswer⟩ := h _ hmem
    exact hanswer

namespace Shop

/-- Another connection. -/
def secondConnection : Connection :=
  { Shop.connection with connectionId := "conn-b", shopifyStore := "b.myshopify.com" }

def twoConnections : World := { world with connections := [Shop.connection, secondConnection] }

/-- Services that are up, but whose listings of the orders of a connection fail. -/
def failsFor (id : String) : Responder :=
  down (fun
    | .listOrdersUpdatedSince connection .. => connection.connectionId == id
    | _ => false) (newError "Shopify request failed with 503")

def pollBoth : Sweep := .catchup catchupDeps {}

/-- A catch-up over both connections. -/
def swept (s : Responder) : List Ev × Except Thrown pollBoth.Out × World :=
  pollBoth.program.run.execute s.respond twoConnections

theorem swept_exec (s : Responder) :
    Exec World.Step pollBoth.program.run twoConnections (swept s).1 (swept s).2.1 (swept s).2.2 :=
  pollBoth.program.run.exec_execute s.step_respond twoConnections

theorem swept_up : AnsweredAs Shop.answers 0 (swept up).1 :=
  Responder.answeredAs (s := up) fun _ => Prog.mem_execute

theorem swept_failsFor (id : String) : AnsweredAs Shop.answers 0 (swept (failsFor id)).1 :=
  Responder.answeredAs (s := failsFor id) fun _ => Prog.mem_execute

theorem swept_succeeds : ∀ ev ∈ (swept up).1, ¬Failed ev := by
  have hnone : ∀ ev ∈ (swept up).1, isFailedCall ev = false := by decide +kernel
  intro ev hev hfailed
  exact Bool.false_ne_true ((hnone ev hev).symm.trans hfailed)

theorem configured_twoConnections : Configured twoConnections.connections where
  connectionId := by decide
  shopifyStore := by decide
  distinct := by decide

theorem failsFor_swept {id : String}
    (honly : ∀ ev ∈ (swept (failsFor id)).1, isFailedCall ev = true → owner ev = some id)
    (hsome : ∃ ev ∈ (swept (failsFor id)).1, owner ev = some id ∧ isFailedCall ev = true) :
    FailsFor (· = id) (swept (failsFor id)).1 where
  only ev hev hfailed := ⟨id, honly ev hev hfailed, rfl⟩
  reached := by
    rintro _ rfl _
    exact hsome

end Shop

/-- The second connection fails, and the first one is spared. -/
theorem sweep_spares_iff_shop :
    (∀ connection ∈ Shop.twoConnections.enabled .dev, ¬connection.connectionId = "conn-b" →
      writesOf owner isWrite connection.connectionId (Shop.swept (Shop.failsFor "conn-b")).1 =
        writesOf owner isWrite connection.connectionId (Shop.swept Shop.up).1) ↔
      (Shop.pollBoth.isReady = true → (Shop.twoConnections.enabled .dev).Pairwise fun a b =>
        a.connectionId = "conn-b" → b.connectionId = "conn-b") := by
  have hfails : FailsFor (· = "conn-b") (Shop.swept (Shop.failsFor "conn-b")).1 :=
    Shop.failsFor_swept (by decide +kernel) (by decide +kernel)
  exact sweep_spares_iff Shop.configured_twoConnections (Shop.swept_exec _) (Shop.swept_exec _)
    Shop.swept_up (Shop.swept_failsFor "conn-b") Shop.swept_succeeds hfails

/-- The first connection fails, and the second one is not polled. -/
theorem failure_stops_sweep :
    ¬∀ (sweep : Sweep) (answers : (c : Call) → Except Thrown c.Ret) (now : ℤ)
      (failing : String → Prop) (w w₀ w₁ : World) (tr₀ tr₁ : List Ev)
      (res₀ res₁ : Except Thrown sweep.Out), Configured w.connections →
      Exec World.Step sweep.program.run w tr₀ res₀ w₀ →
      Exec World.Step sweep.program.run w tr₁ res₁ w₁ →
      AnsweredAs answers now tr₀ → AnsweredAs answers now tr₁ →
      (∀ ev ∈ tr₀, ¬Failed ev) → FailsFor failing tr₁ →
      ∀ connection ∈ w.enabled sweep.environment, ¬failing connection.connectionId →
        writesOf owner isWrite connection.connectionId tr₁ =
          writesOf owner isWrite connection.connectionId tr₀ := by
  intro h
  have hfails : FailsFor (· = "conn-a") (Shop.swept (Shop.failsFor "conn-a")).1 :=
    Shop.failsFor_swept (by decide +kernel) (by decide +kernel)
  have hsame := h Shop.pollBoth Shop.answers 0 _ _ _ _ _ _ _ _ Shop.configured_twoConnections
    (Shop.swept_exec Shop.up) (Shop.swept_exec (Shop.failsFor "conn-a")) Shop.swept_up
    (Shop.swept_failsFor "conn-a") Shop.swept_succeeds hfails Shop.secondConnection
    (List.mem_filter.mpr ⟨by simp [Shop.twoConnections], rfl⟩) (by decide)
  have hlengths := congrArg List.length hsame
  exact absurd hlengths (by decide +kernel)

end DpIntegrator
