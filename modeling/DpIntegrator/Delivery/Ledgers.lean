import DpIntegrator.Delivery.AfterImport
import DpIntegrator.Delivery.OtherOrders
import DpIntegrator.Delivery.Replays
import DpIntegrator.Delivery.Threads

/-!
# The two ledgers

The xref row of an order and its ledger row are written by separate calls, on five ways
to end a delivery, and a replay deletes only the first. Where writes succeed they agree
between operations all the same.
-/

namespace DpIntegrator

open Effects

variable {d : Delivery} {P : Preparations} {t t' tr : List Ev} {w w' : World} {key : String}
  {res : Except Thrown OrderHandlerOutcome}

/-! ## Agreement -/

/-- The ledger row of an order tells what its xref row tells. -/
structure Agree (row : XrefRow) (log : Option OrderSyncLog) : Prop where
  synced : row.status = .synced → ∃ entry, log = some entry ∧ entry.status = .imported ∧
    entry.nsInternalId = row.targetId
  error : row.status = .error → ∃ entry, log = some entry ∧ entry.status = .parked
  ignored : row.status = .ignored → ∃ entry, log = some entry ∧ entry.status = .ignored

/-- The two rows of the order `k` agree. -/
def World.AgreesOn (w : World) (k : OrderKey) : Prop :=
  ∀ key row, dedupKey k.parts = .ok key → w.xref key = some row → Agree row (w.ledgerRow k)

/-- The two rows of every order agree. -/
def World.LedgersAgree (w : World) : Prop := ∀ k, w.AgreesOn k

/-- A pending row agrees with every ledger row. -/
theorem Agree.of_pending {row : XrefRow} {log : Option OrderSyncLog}
    (h : row.status = .pending) : Agree row log := by
  constructor <;> intro hstatus <;> rw [h] at hstatus <;> cases hstatus

theorem World.AgreesOn.of_status {k : OrderKey} (hkey : dedupKey k.parts = .ok key)
    (hstatus : w.status key = some .pending) : w.AgreesOn k := by
  intro key' row hkey' hrow
  obtain rfl : key' = key := Except.ok.inj (hkey'.symm.trans hkey)
  refine .of_pending ?_
  simpa [World.status, hrow] using hstatus

/-- Two rows that were written together agree. -/
theorem World.AgreesOn.of_rows {k : OrderKey} {row : XrefRow} {input : OrderSyncLogInput}
    (hkey : dedupKey k.parts = .ok key) (hrow : w.xref key = some row)
    (hlog : (w.ledgerRow k).map OrderSyncLog.toOrderSyncLogInput = some input)
    (hsynced : row.status = .synced → input.status = .imported ∧ input.nsInternalId = row.targetId)
    (herror : row.status = .error → input.status = .parked)
    (hignored : row.status = .ignored → input.status = .ignored) : w.AgreesOn k := by
  intro key' row' hkey' hrow'
  obtain rfl : key' = key := Except.ok.inj (hkey'.symm.trans hkey)
  obtain rfl : row = row' := Option.some.inj (hrow.symm.trans hrow')
  obtain ⟨entry, hentry, rfl⟩ := Option.map_eq_some_iff.mp hlog
  exact ⟨fun h => ⟨entry, hentry, hsynced h⟩, fun h => ⟨entry, hentry, herror h⟩,
    fun h => ⟨entry, hentry, hignored h⟩⟩

/-! ## Writes that succeed -/

/-- The writes to the stores and the queue, besides the attempt rows, whose failure is swallowed. -/
def Call.isWrite : Call → Bool
  | .claim .. | .recordSuccess .. | .recordFailure .. | .markIgnored .. | .deleteXref ..
  | .recordError .. | .upsertSyncLog .. | .enqueue .. => true
  | _ => false

/-- No write to a store or to the queue failed. -/
def WritesSucceed (tr : List Ev) : Prop :=
  ∀ (c : Call) (e : Thrown), c.isWrite = true → answered c (.error e) ∉ tr

namespace WritesSucceed

theorem of_subset (h : WritesSucceed t) (hsub : t' ⊆ t) : WritesSucceed t' :=
  fun c e hwrite hmem => h c e hwrite (hsub hmem)

theorem tail {ev : Ev} (h : WritesSucceed (ev :: t)) : WritesSucceed t :=
  h.of_subset (List.subset_cons_self ..)

theorem left (h : WritesSucceed (t ++ t')) : WritesSucceed t :=
  h.of_subset (List.subset_append_left ..)

theorem right (h : WritesSucceed (t ++ t')) : WritesSucceed t' :=
  h.of_subset (List.subset_append_right ..)

theorem main_calls (h : WritesSucceed tr) : WritesSucceed (main tr) :=
  h.of_subset fun _ hev => mem_of_mem_main hev

theorem head_ne_error {c : Call} {e : Thrown} (h : WritesSucceed (answered c (.error e) :: t))
    (hwrite : c.isWrite = true) : False := h c e hwrite (List.mem_cons_self ..)

theorem of_stores (h : StoresSucceed t) : WritesSucceed t := by
  intro c e hwrite hmem
  refine h c e ?_ hmem
  cases c <;> first | rfl | cases hwrite

/-- Side calls to stores are writes. -/
theorem stores (h : WritesSucceed t) (hside : Only (SideCall d) t) : StoresSucceed t := by
  intro c e hstore hmem
  refine h c e ?_ hmem
  cases hside _ hmem with
  | record | log => rfl
  | tag => cases hstore

end WritesSucceed

/-! ## The exits -/

section Exits

/-- A ledger row that was written is there, and the xref rows are as they were. -/
theorem Logged.ledgerRow {shape : SyncLogShape} (h : Logged d shape t (.ok ()))
    (hwired : d.deps.orderSyncLog = true) (hsteps : w.Steps t w') :
    w'.xref = w.xref ∧
      (w'.ledgerRow d.orderKey).map OrderSyncLog.toOrderSyncLogInput =
        some (d.syncLogInput shape) := by
  refine ⟨h.side.xref_eq hsteps, ?_⟩
  cases h with
  | unwired hunwired => simp [hwired] at hunwired
  | wired =>
    obtain ⟨w₁, hstep, hnil⟩ := steps_cons.mp hsteps
    obtain rfl := steps_nil.mp hnil
    obtain ⟨now, rfl⟩ := World.Step.upsertSyncLog_ok hstep
    exact SyncLogRows.upsert_self w.syncLog (d.syncLogInput shape) now

/-- A tag writes neither row. -/
theorem TagExit.rows_eq {internalId : String} {r : Except Thrown Unit}
    (h : TagExit d internalId t r) (hsteps : w.Steps t w') :
    w'.xref = w.xref ∧ w'.syncLog = w.syncLog := by
  refine ⟨h.side.xref_eq hsteps, hsteps.frame (f := World.syncLog) fun ev hev w w' hs => ?_⟩
  cases h.side ev hev with
  | record | tag => exact World.Step.syncLog_same hs (by simp)
  | log input r => exact absurd hev h.no_log

theorem ParkExit.agreesOn {park : ParkInput} (h : ParkExit d park t res)
    (hkey : dedupKey d.parts = .ok key) (hwired : d.deps.orderSyncLog = true)
    (hwrites : WritesSucceed t) (hsteps : w.Steps t w') :
    w'.AgreesOn d.orderKey ∧ ∃ o, res = .ok o := by
  cases h with
  | row => exact (hwrites.head_ne_error rfl).elim
  | record hrecord => cases hrecord.eq_ok hkey (hwrites.tail.stores hrecord.side)
  | log _ hlog => cases hlog.eq_ok (hwrites.tail.right.stores hlog.side)
  | @parked row _ _ hrecord hlog =>
    obtain ⟨w₁, hstep, hrest⟩ := steps_cons.mp hsteps
    obtain ⟨key', hkey', _, hstatus, rfl⟩ := World.Step.recordFailure_ok hstep
    obtain rfl : key' = key := Except.ok.inj (hkey'.symm.trans hkey)
    obtain ⟨w₂, hrec, hlogged⟩ := steps_append.mp hrest
    obtain ⟨hxref, hentry⟩ := hlog.ledgerRow hwired hlogged
    have hrow : w'.xref key' = some row := by
      rw [hxref, hrecord.side.xref_eq hrec]
      exact XrefRows.put_self ..
    exact ⟨.of_rows hkey hrow hentry (by simp [hstatus]) (fun _ => rfl) (by simp [hstatus]), _, rfl⟩

theorem IgnoreExit.agreesOn {shape : SyncLogShape} {o : OrderHandlerOutcome}
    (h : IgnoreExit d shape o t res) (hshape : shape.status = .ignored)
    (hwired : d.deps.orderSyncLog = true) (hwrites : WritesSucceed t) (hsteps : w.Steps t w') :
    w'.AgreesOn d.orderKey ∧ ∃ o, res = .ok o := by
  cases h with
  | row => exact (hwrites.head_ne_error rfl).elim
  | log hlog => cases hlog.eq_ok (hwrites.tail.stores hlog.side)
  | @ignored row _ hlog =>
    obtain ⟨w₁, hstep, hrest⟩ := steps_cons.mp hsteps
    obtain ⟨key, hkey, hstatus, rfl⟩ := World.Step.markIgnored_ok hstep
    obtain ⟨hxref, hentry⟩ := hlog.ledgerRow hwired hrest
    have hrow : w'.xref key = some row := by
      rw [hxref]
      exact XrefRows.put_self ..
    exact ⟨.of_rows hkey hrow hentry (by simp [hstatus]) (by simp [hstatus]) (fun _ => hshape), _,
      rfl⟩

/-- A write of an order leaves the rows as they were, or both tell of the import. -/
theorem WriteExit.agreesOn {customer : CustomerResolution} {payload : NsOrderPayload}
    (h : WriteExit d customer payload t res) (hkey : dedupKey d.parts = .ok key)
    (hwired : d.deps.orderSyncLog = true) (hwrites : WritesSucceed t) (hsteps : w.Steps t w') :
    w' = w ∨ w'.AgreesOn d.orderKey ∧ ∃ o, res = .ok o := by
  cases h with
  | upsert =>
    obtain ⟨w₁, hstep, hnil⟩ := steps_cons.mp hsteps
    obtain rfl := steps_nil.mp hnil
    exact .inl (World.Step.eq_of_error hstep)
  | recordSuccess => exact (hwrites.tail.head_ne_error rfl).elim
  | after hafter => cases hafter.eq_ok hkey (hwrites.tail.tail.stores hafter.side)
  | @imported u row t hafter =>
    obtain ⟨w₁, hupsert, hrest⟩ := steps_cons.mp hsteps
    obtain rfl := World.Step.eq_of_outside hupsert rfl
    obtain ⟨w₂, hstep, hrest₁⟩ := steps_cons.mp hrest
    obtain ⟨key', hkey', _, hstatus, htarget, rfl⟩ := World.Step.recordSuccess_ok hstep
    obtain rfl : key' = key := Except.ok.inj (hkey'.symm.trans hkey)
    cases hafter with
    | @tag shape _ _ _ himported hlog htag =>
      obtain ⟨w₃, hlogged, htagged⟩ := steps_append.mp hrest₁
      obtain ⟨hxref, hentry⟩ := hlog.ledgerRow hwired hlogged
      obtain ⟨hxref', hlog'⟩ := htag.rows_eq htagged
      have hrow : w'.xref key' = some row := by
        rw [hxref', hxref]
        exact XrefRows.put_self ..
      have hentry' : (w'.ledgerRow d.orderKey).map OrderSyncLog.toOrderSyncLogInput =
          some (d.syncLogInput shape) := by
        rw [World.ledgerRow, hlog']
        exact hentry
      exact .inr ⟨.of_rows hkey hrow hentry'
        (fun _ => ⟨himported.1, himported.2.trans htarget.symm⟩) (by simp [hstatus])
        (by simp [hstatus]), _, rfl⟩

/-- The body after the claim throws with the rows as they were, or returns when they agree. -/
theorem ImportExit.agreesOn (h : ImportExit d P t res) (hkey : dedupKey d.parts = .ok key)
    (hwired : d.deps.orderSyncLog = true) (hwrites : WritesSucceed t) (hsteps : w.Steps t w') :
    w' = w ∨ w'.AgreesOn d.orderKey ∧ ∃ o, res = .ok o := by
  cases h with
  | fetch =>
    obtain ⟨w₁, hstep, hnil⟩ := steps_cons.mp hsteps
    obtain rfl := steps_nil.mp hnil
    exact .inl (World.Step.eq_of_error hstep)
  | ineligible _ hignore =>
    obtain ⟨w₁, hstep, hrest⟩ := steps_cons.mp hsteps
    exact .inr (hignore.agreesOn rfl hwired hwrites.tail hrest)
  | call =>
    obtain ⟨w₁, hstep, hrest⟩ := steps_cons.mp hsteps
    obtain rfl := World.Step.eq_of_outside hstep rfl
    obtain ⟨w₂, hcall, hnil⟩ := steps_cons.mp hrest
    obtain rfl := steps_nil.mp hnil
    exact .inl (World.Step.eq_of_error hcall)
  | threw =>
    obtain ⟨w₁, hstep, hnil⟩ := steps_cons.mp hsteps
    obtain rfl := steps_nil.mp hnil
    exact .inl (World.Step.eq_of_outside hstep rfl)
  | parked _ _ hpark =>
    obtain ⟨w₁, hstep, hrest⟩ := steps_cons.mp hsteps
    exact .inr (hpark.agreesOn hkey hwired hwrites.tail hrest)
  | written _ _ hwrite =>
    obtain ⟨w₁, hstep, hrest⟩ := steps_cons.mp hsteps
    obtain rfl := World.Step.eq_of_outside hstep rfl
    exact hwrite.agreesOn hkey hwired hwrites.tail hrest

theorem RouteExit.agreesOn {err : Thrown} (h : RouteExit d err t res)
    (hkey : dedupKey d.parts = .ok key) (hwired : d.deps.orderSyncLog = true)
    (hwrites : WritesSucceed t) (hpending : w.status key = some .pending)
    (hsteps : w.Steps t w') : w'.AgreesOn d.orderKey := by
  have hside (hside : Only (SideCall d) t) : w'.AgreesOn d.orderKey := by
    refine .of_status hkey ?_
    rwa [World.status, hside.xref_eq hsteps]
  cases h with
  | unreadable | transient => exact hside .nil
  | authUnrecorded _ hrecord => exact hside hrecord.side
  | auth _ hrecord => exact hside hrecord.side
  | parked _ _ hpark => exact (hpark.agreesOn hkey hwired hwrites hsteps).1

/-- After a new claim the rows agree, however the delivery ends. -/
theorem ClaimedExit.agreesOn (h : ClaimedExit d P t res) (hkey : dedupKey d.parts = .ok key)
    (hwired : d.deps.orderSyncLog = true) (hwrites : WritesSucceed t)
    (hpending : w.status key = some .pending) (hsteps : w.Steps t w') :
    w'.AgreesOn d.orderKey := by
  cases h with
  | returned himport =>
    obtain rfl | ⟨hagrees, _⟩ := himport.agreesOn hkey hwired hwrites hsteps
    · exact .of_status hkey hpending
    · exact hagrees
  | thrown himport hroute =>
    obtain ⟨w₁, hbody, hcatch⟩ := steps_append.mp hsteps
    obtain rfl | ⟨_, o, ho⟩ := himport.agreesOn hkey hwired hwrites.left hbody
    · exact hroute.agreesOn hkey hwired hwrites.right hpending hcatch
    · cases ho

theorem ClaimExit.agreesOn (h : ClaimExit d P t res) (hwired : d.deps.orderSyncLog = true)
    (hwrites : WritesSucceed t) (hagrees : w.AgreesOn d.orderKey) (hsteps : w.Steps t w') :
    w'.AgreesOn d.orderKey := by
  cases h with
  | failed => exact (hwrites.head_ne_error rfl).elim
  | held hne =>
    obtain ⟨w₁, hstep, hnil⟩ := steps_cons.mp hsteps
    obtain rfl := steps_nil.mp hnil
    obtain ⟨_, _, ⟨_, _, _, rfl⟩ | ⟨_, rfl, _⟩⟩ := World.Step.claim_ok hstep
    · exact hagrees
    · exact absurd rfl hne
  | claimed houtcome hclaimed =>
    obtain ⟨w₁, hstep, hrest⟩ := steps_cons.mp hsteps
    obtain ⟨key, hkey, ⟨row, _, rfl, _⟩ | ⟨_, _, rfl⟩⟩ := World.Step.claim_ok hstep
    · exact absurd houtcome row.claimOutcome_ne_claimed
    · refine hclaimed.agreesOn hkey hwired hwrites.tail ?_ hrest
      simp [World.status, ClaimInput.newRow]

/-- A delivery whose writes succeed leaves its two rows agreeing. -/
theorem DeliverExit.agreesOn (h : DeliverExit d P t res) (hwired : d.deps.orderSyncLog = true)
    (hwrites : WritesSucceed t) (hagrees : w.AgreesOn d.orderKey) (hsteps : w.Steps t w') :
    w'.AgreesOn d.orderKey := by
  cases h with
  | direct _ hclaim => exact hclaim.agreesOn hwired hwrites hagrees hsteps
  | lookup =>
    obtain ⟨w₁, hstep, hnil⟩ := steps_cons.mp hsteps
    obtain rfl := steps_nil.mp hnil
    rwa [World.Step.eq_of_error hstep]
  | unknown _ hignore =>
    obtain ⟨w₁, hstep, hrest⟩ := steps_cons.mp hsteps
    exact (hignore.agreesOn rfl hwired hwrites.tail hrest).1
  | known _ hclaim =>
    obtain ⟨w₁, hstep, hrest⟩ := steps_cons.mp hsteps
    obtain ⟨_, _, _, rfl⟩ := World.Step.lookupXref_ok hstep
    exact hclaim.agreesOn hwired hwrites.tail hagrees hrest

end Exits

/-! ## Operations -/

/-- A delivery with the ledger wired, or a replay, whose writes to the stores and the queue
succeed. -/
inductive LedgerOperation : Event Activity Activity.Record → Prop
  | handled {deps : OrderHandlerDeps} {message : Js.Value} {attemptCtx : Option AttemptContext}
      {r : (Activity.handle deps message attemptCtx).Record} (hwired : deps.orderSyncLog = true)
      (hwrites : WritesSucceed r.1) : LedgerOperation ⟨.handle deps message attemptCtx, r⟩
  | replayed {req : ReplayRequest} {r : (Activity.replay req).Record}
      (hwrites : WritesSucceed r.1) : LedgerOperation ⟨.replay req, r⟩

/-- Calls that write no row of either ledger leave them agreeing. -/
theorem World.LedgersAgree.of_eq (h : w.LedgersAgree) (hxref : w'.xref = w.xref)
    (hlog : w'.syncLog = w.syncLog) : w'.LedgersAgree := by
  intro k key row hkey hrow
  rw [hxref] at hrow
  rw [World.ledgerRow, hlog]
  exact h k key row hkey hrow

/-- A delivery whose writes succeed keeps the ledgers agreeing: its own rows by its exits, all
others because it leaves them alone. -/
theorem deliver_ledgersAgree (h : Settles (deliver d) tr res)
    (hwired : d.deps.orderSyncLog = true) (hwrites : WritesSucceed tr) (hagree : w.LedgersAgree)
    (hsteps : w.Steps tr w') : w'.LedgersAgree := by
  intro k
  by_cases hk : k = d.orderKey
  · subst hk
    have hforget : w.forget.AgreesOn d.orderKey := hagree d.orderKey
    have hagrees : w'.forget.AgreesOn d.orderKey :=
      (deliver_exit h).agreesOn hwired hwrites.main_calls hforget (World.Steps.main hsteps)
    exact hagrees
  · have helse : SameElsewhere d.orderKey w w' :=
      World.Steps.sameElsewhere hsteps (makes_deliver _ _ h)
    intro key row hkey hrow
    have hvalid : k.parts.Valid := (dedupKeyWith_eq_ok.mp hkey).1
    rw [helse.xref key fun hkey' => hk (OrderKey.eq_of_dedupKey hkey hkey')] at hrow
    rw [helse.ledger k hvalid hk]
    exact hagree k key row hkey hrow

/-- A replay writes no ledger row, and deletes at most the row that it looked up. -/
theorem ReplayRun.ledgersAgree {req : ReplayRequest} (h : ReplayRun req tr)
    (hwrites : WritesSucceed tr) (hagree : w.LedgersAgree) (hsteps : w.Steps tr w') :
    w'.LedgersAgree := by
  have hcalls {t : List Ev} {v v' : World} (hcalls : Only (ReplayCall req) t)
      (hv : v.Steps t v') : v'.xref = v.xref ∧ v'.syncLog = v.syncLog := by
    constructor
    · exact World.Steps.xref_eq hv fun ev hev => by cases hcalls ev hev <;> rfl
    · refine hv.frame (f := World.syncLog) fun ev hev _ _ hs => ?_
      cases hcalls ev hev with
      | find | lookup | enqueue => exact World.Step.syncLog_same hs (by simp)
      | clock =>
        cases hs
        rfl
  cases h with
  | kept hkept =>
    obtain ⟨hxref, hlog⟩ := hcalls hkept hsteps
    exact hagree.of_eq hxref hlog
  | @dropped t connection existing r _ ht =>
    obtain ⟨w₁, hfind, hrest⟩ := steps_cons.mp hsteps
    obtain ⟨_, rfl⟩ := World.Step.findConnection_ok hfind
    obtain ⟨w₂, hlookup, hrest₁⟩ := steps_cons.mp hrest
    obtain ⟨_, _, _, rfl⟩ := World.Step.lookupXref_ok hlookup
    obtain ⟨w₃, hdelete, hrest₂⟩ := steps_cons.mp hrest₁
    cases r with
    | error e => exact (hwrites.tail.tail.head_ne_error rfl).elim
    | ok removed =>
      obtain ⟨key, hkey, _, rfl⟩ := World.Step.deleteXref_ok hdelete
      obtain ⟨hxref, hlog⟩ := hcalls ht hrest₂
      refine World.LedgersAgree.of_eq ?_ hxref hlog
      intro k key' row hkey' hrow
      by_cases hk : key' = key
      · subst hk
        simp at hrow
      · exact hagree k key' row hkey' ((XrefRows.drop_of_ne hk ..).symm.trans hrow)

/-- What one operation preserves. -/
theorem LedgerOperation.ledgersAgree {a : Activity} {r : a.Record} (h : LedgerOperation ⟨a, r⟩)
    (hperforms : a.Performs w r w') (hagree : w.LedgersAgree) : w'.LedgersAgree := by
  cases h with
  | @handled deps message attemptCtx r hwired hwrites =>
    obtain ⟨tr, res⟩ := r
    have hsettles : Settles (handleOrderMessage deps message attemptCtx) tr res := hperforms.runs
    have hsteps : w.Steps tr w' := hperforms.steps
    cases handlerRun_of_settles hsettles with
    | rejected ht =>
      obtain rfl | ⟨id, found, rfl, _⟩ := ht
      · obtain rfl := steps_nil.mp hsteps
        exact hagree
      · obtain ⟨w₁, hfind, hnil⟩ := steps_cons.mp hsteps
        obtain rfl := steps_nil.mp hnil
        obtain ⟨_, rfl⟩ := World.Step.findConnection_ok hfind
        exact hagree
    | failed id e =>
      obtain ⟨w₁, hfind, hnil⟩ := steps_cons.mp hsteps
      obtain rfl := steps_nil.mp hnil
      rwa [World.Step.eq_of_error hfind]
    | delivered _ _ _ hdeliver =>
      obtain ⟨w₁, hfind, hrest⟩ := steps_cons.mp hsteps
      obtain ⟨_, rfl⟩ := World.Step.findConnection_ok hfind
      exact deliver_ledgersAgree hdeliver hwired hwrites.tail hagree hrest
  | @replayed req r hwrites =>
    have hsettles : Settles (requestReplay req) r.1 r.2 := hperforms.runs
    exact (requestReplay_runs hsettles).ledgersAgree hwrites hagree hperforms.steps

/-- From stores without xref rows, deliveries and replays whose writes succeed leave the two
ledgers agreeing on every order, whatever else fails. -/
theorem ledgers_agree {history : History} (h : w.Passes history w')
    (habsent : ∀ key, w.xref key = none)
    (hoperations : ∀ ev ∈ history, LedgerOperation ev) : w'.LedgersAgree := by
  have hstart : w.LedgersAgree := by
    intro k key row _ hrow
    rw [habsent key] at hrow
    cases hrow
  refine Effects.Steps.preserves (P := World.LedgersAgree) h ?_ hstart
  intro ev hev v v' hperforms hagree
  exact (hoperations ev hev).ledgersAgree hperforms hagree

/-! ## A replay and an import -/

namespace Shop

/-- The replay of an order without a row, which only asks for a delivery. -/
def requested : (Activity.replay replay).Record × World := up.perform (.replay replay) world

/-- The handling of the message that the replay published. -/
def delivered : Activity := (delivery republished).handling republished.toJs

/-- The delivery that was asked for. -/
def imported : delivered.Record × World := up.perform delivered requested.2

def requestedHistory : History := [⟨.replay replay, requested.1⟩, ⟨delivered, imported.1⟩]

theorem requestedHistory_passes : world.Passes requestedHistory imported.2 :=
  .cons (up.performs _ _) (.cons (up.performs _ _) (.nil _))

theorem requestedHistory_operations : ∀ ev ∈ requestedHistory, LedgerOperation ev := by
  have hrequested : StoresSucceed requested.1.1 := by decide +kernel
  have himported : StoresSucceed imported.1.1 := by decide +kernel
  intro ev hev
  simp only [requestedHistory, List.mem_cons, List.not_mem_nil, or_false] at hev
  obtain rfl | rfl := hev
  · exact .replayed (.of_stores hrequested)
  · exact .handled rfl (.of_stores himported)

end Shop

/-- After a replay and the import that it asked for the row is synced, and the ledgers agree. -/
theorem ledgers_agree_shop : Shop.imported.2.status Shop.key = some .synced ∧
    Shop.imported.2.LedgersAgree :=
  ⟨by decide +kernel, ledgers_agree Shop.requestedHistory_passes (fun _ => rfl)
    Shop.requestedHistory_operations⟩

end DpIntegrator
