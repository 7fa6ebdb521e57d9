import DpIntegrator.Delivery.Sweeps
import DpIntegrator.Effects.Interleaving
import DpIntegrator.Js.Calendar
import DpIntegrator.Periodic.Lookback
import DpIntegrator.Postgres.SnapshotStores

/-!
# The days that are reconciled

Each run of the reconciliation writes snapshots of the days before its own. In whatever order the
calls of several runs are answered, a day of a connection has a snapshot if and only if one of them
looked back at it. A day is lost when the runs are farther apart than their lookback.

Dates are of years with four digits; a column of dates gives their texts back as they are.
-/

namespace DpIntegrator

open Effects Periodic

variable {decimal : String → String} {jsonb : Js.Fields → Js.Fields}

/-! ## The stores -/

/-- The stores of the deliveries, and the snapshots. -/
structure BoardWorld where
  world : World
  snapshots : SnapshotStore

/-- One answered operation. -/
inductive BoardStep (decimal : String → String) (jsonb : Js.Fields → Js.Fields) :
    (o : Op) → BoardWorld → o.Resp → BoardWorld → Prop
  | stored {input : ReconciliationSnapshotInput} {row : ReconciliationSnapshot} {st : BoardWorld}
      {snapshots : SnapshotStore} (h : st.snapshots.Upserts decimal jsonb input row snapshots) :
      BoardStep decimal jsonb (.io (.upsertSnapshot input)) st (.ok row) { st with snapshots }
  | failed {input : ReconciliationSnapshotInput} {st : BoardWorld} (e : Thrown) :
      BoardStep decimal jsonb (.io (.upsertSnapshot input)) st (.error e) st
  | other {o : Op} {st : BoardWorld} {r : o.Resp} {w' : World}
      (hother : ∀ input, o ≠ .io (.upsertSnapshot input)) (h : World.Step o st.world r w') :
      BoardStep decimal jsonb o st r { st with world := w' }

/-- The snapshot of a day that an event wrote. -/
def storedAt (key : SnapshotKey) : Ev → Option ReconciliationSnapshot
  | ⟨.io (.upsertSnapshot input), .ok row⟩ => if key = input.key then some row else none
  | _ => none

section Stores

variable {st st' : BoardWorld} {tr : List Ev} {key : SnapshotKey}

theorem BoardStep.find_eq {ev : Ev} (h : BoardStep decimal jsonb ev.1 st ev.2 st')
    (hkey : '|' ∉ key.businessDate.toList)
    (hdate : ∀ input r, ev = answered (.upsertSnapshot input) r → '|' ∉ input.businessDate.toList) :
    st'.snapshots.find key = (storedAt key ev).or (st.snapshots.find key) := by
  obtain ⟨o, r⟩ := ev
  cases h with
  | @stored input row _ _ h =>
    refine (h.find_eq (hdate input _ rfl) hkey).trans ?_
    simp only [storedAt]
    split <;> rfl
  | failed e => rfl
  | other hother h =>
    rcases o with c | _ | _
    · cases c <;> first | rfl | exact absurd rfl (hother _)
    · rfl
    · rfl

/-- The snapshot of a day is the last one that was written. -/
theorem find_of_steps (h : Steps (BoardStep decimal jsonb) st tr st')
    (hkey : '|' ∉ key.businessDate.toList)
    (hdates : ∀ input r, answered (.upsertSnapshot input) r ∈ tr →
      '|' ∉ input.businessDate.toList) :
    st'.snapshots.find key =
      ((tr.filterMap (storedAt key)).getLast?).or (st.snapshots.find key) := by
  induction h with
  | nil => rfl
  | @cons c r _ _ _ tr hstep _ ih =>
    have hfirst := @BoardStep.find_eq _ _ _ _ key ⟨c, r⟩ hstep hkey fun input r' heq =>
      hdates input r' (heq ▸ List.mem_cons_self)
    rw [ih fun input r' hmem => hdates input r' (List.mem_cons_of_mem _ hmem), hfirst]
    rcases hstored : storedAt key ⟨c, r⟩ with _ | row
    · rw [List.filterMap_cons_none hstored, Option.none_or]
    · rw [List.filterMap_cons_some hstored, List.getLast?_cons]
      cases (tr.filterMap (storedAt key)).getLast? <;> rfl

/-- A day has a snapshot if it had one or one was written. -/
theorem find_ne_none_iff (h : Steps (BoardStep decimal jsonb) st tr st')
    (hkey : '|' ∉ key.businessDate.toList)
    (hdates : ∀ input r, answered (.upsertSnapshot input) r ∈ tr → '|' ∉ input.businessDate.toList)
    (hnew : st.snapshots.find key = none) :
    st'.snapshots.find key ≠ none ↔
      ∃ input row, answered (.upsertSnapshot input) (.ok row) ∈ tr ∧ input.key = key := by
  rw [find_of_steps h hkey hdates, hnew, Option.or_none, Ne, List.getLast?_eq_none_iff]
  constructor
  · intro hne
    obtain ⟨row, hmem⟩ := List.exists_mem_of_ne_nil _ hne
    obtain ⟨⟨o, r⟩, hmem, hstored⟩ := List.mem_filterMap.mp hmem
    unfold storedAt at hstored
    split at hstored
    · next input row' heq =>
      cases heq
      obtain ⟨hsame, _⟩ := Option.ite_none_right_eq_some.mp hstored
      exact ⟨input, row', hmem, hsame.symm⟩
    · cases hstored
  · rintro ⟨input, row, hmem, hsame⟩
    exact List.ne_nil_of_mem (List.mem_filterMap.mpr ⟨_, hmem, if_pos hsame.symm⟩)

end Stores

/-! ## Dates -/

theorem not_mem_bar_utcDay (t : ℤ) : '|' ∉ (Js.utcDay t).toList := by
  have hdigits (n : ℕ) : '|' ∉ Nat.toDigits 10 n := by
    intro hmem
    exact absurd (Nat.isDigit_of_mem_toDigits (by decide) (by decide) hmem) (by decide)
  have hpadded (width n : ℕ) : '|' ∉ List.leftpad width '0' (Nat.toDigits 10 n) := by
    rw [List.leftpad, List.mem_append, List.mem_replicate]
    rintro (⟨_, hzero⟩ | hmem)
    · cases hzero
    · exact hdigits n hmem
  have hyear (year : ℤ) : '|' ∉ (toString year).toList := by
    cases year with
    | ofNat n => exact fun hmem => hdigits n (Nat.toList_repr ▸ hmem)
    | negSucc n =>
      have htext : (toString (Int.negSucc n)).toList = '-' :: Nat.toDigits 10 (n + 1) := by
        simp [toString, Int.repr, Nat.repr]
      rw [htext, List.mem_cons]
      rintro (hminus | hmem)
      · cases hminus
      · exact hdigits (n + 1) hmem
  have hdash : "-".toList = ['-'] := rfl
  unfold Js.utcDay Js.padNumber
  simp only [String.toList_append, String.toList_ofList, hdash, List.mem_append, List.mem_singleton]
  rintro ((((hmem | hmem) | hmem) | hmem) | hmem)
  · exact hyear _ hmem
  · cases hmem
  · exact hpadded _ _ hmem
  · cases hmem
  · exact hpadded _ _ hmem

/-- Days have dates of their own. -/
theorem utcDay_inj {day day' : ℤ} (hyear : Js.FourDigitYear day) (hyear' : Js.FourDigitYear day')
    (h : Js.utcDay (day * 86400000) = Js.utcDay (day' * 86400000)) : day = day' := by
  have hstart := Js.newDate_utcDay (fun _ => none) hyear
  rw [h, Js.newDate_utcDay (fun _ => none) hyear'] at hstart
  have hsame := Option.some.inj hstart
  omega

/-- The days before the day of `now`, as many as the lookback. -/
theorem mem_businessDates {config : ReconciliationConfig} {now : ℤ} {date : String} :
    date ∈ businessDates config now ↔
      ∃ day, Looks config.daysBack (now / 86400000) day ∧ date = Js.utcDay (day * 86400000) := by
  have htext (i : ℕ) : Js.utcDay (now - (i + 1 : ℕ) * 86400000) =
      Js.utcDay ((now / 86400000 - (i + 1 : ℕ)) * 86400000) := by
    unfold Js.utcDay
    rw [show (now - (i + 1 : ℕ) * 86400000) / 86400000 =
      (now / 86400000 - (i + 1 : ℕ)) * 86400000 / 86400000 by omega]
  simp only [businessDates, List.mem_map, List.mem_range, htext]
  constructor
  · rintro ⟨i, hi, rfl⟩
    exact ⟨_, ⟨by omega, by omega⟩, rfl⟩
  · rintro ⟨day, ⟨hbefore, hle⟩, rfl⟩
    refine ⟨(now / 86400000 - day - 1).toNat, by omega, ?_⟩
    congr 2
    omega

/-! ## A run -/

section Day

variable {deps : ReconciliationDeps} {config : ReconciliationConfig}
  {connectionId businessDate : String} {connection : Connection} {t : List Ev}
  {res : Except Thrown ConnectionReconcileResult}

/-- The snapshots that an event writes are of a day. -/
def WritesOnly (key : SnapshotKey) (ev : Ev) : Prop :=
  ∀ input r, ev = answered (.upsertSnapshot input) r → input.key = key

theorem reconcileDay_writesOnly :
    Issues (WritesOnly ⟨deps.environment, connectionId, businessDate⟩)
      (reconcileDay deps config connection connectionId businessDate) := by
  unfold reconcileDay
  refine (issues_io fun r => ?_).bind fun agg => (issues_io fun r => ?_).bind fun ledger =>
    (issues_io fun r => ?_).bind fun snapshot => ?_
  · rintro _ _ ⟨⟩
  · rintro _ _ ⟨⟩
  · rintro _ _ ⟨⟩
    rfl
  · dsimp only
    split
    · exact (Issues.observe fun _ => by rintro _ _ ⟨⟩).bind fun _ => .pure _
    · exact .pure _

theorem DayRun.writesOnly (h : DayRun deps config connectionId businessDate t res) :
    ∀ ev ∈ t, WritesOnly ⟨deps.environment, connectionId, businessDate⟩ ev := by
  intro ev hev
  cases h with
  | notReady => cases hev
  | failed | skipped =>
    obtain rfl := List.mem_singleton.mp hev
    rintro _ _ ⟨⟩
  | found h =>
    rcases List.mem_cons.mp hev with rfl | hev
    · rintro _ _ ⟨⟩
    · exact reconcileDay_writesOnly _ _ h ev hev

/-- A day that was not skipped has its snapshot written. -/
theorem DayRun.stored {out : ConnectionReconcileResult}
    (h : DayRun deps config connectionId businessDate t (.ok out)) :
    out.connectionId = connectionId ∧
      (out.skipped = false → ∃ input row, answered (.upsertSnapshot input) (.ok row) ∈ t) := by
  generalize hout : Except.ok out = res at h
  cases h with
  | notReady | skipped =>
    obtain rfl := Except.ok.inj hout
    exact ⟨rfl, fun hskipped => by cases hskipped⟩
  | failed => cases hout
  | found h =>
    subst hout
    unfold reconcileDay at h
    obtain ⟨agg, t₁, t₂, rfl, _, hlisted⟩ := settles_bind_ok.mp h
    obtain ⟨ledger, t₃, t₄, rfl, _, hstored⟩ := settles_bind_ok.mp hlisted
    obtain ⟨snapshot, t₅, t₆, rfl, hsnapshot, hreported⟩ := settles_bind_ok.mp hstored
    obtain rfl := settles_io.mp hsnapshot
    refine ⟨?_, fun _ => ⟨_, snapshot, by simp⟩⟩
    dsimp only at hreported
    split at hreported
    · obtain ⟨_, t₇, t₈, rfl, _, hreturned⟩ := settles_bind_ok.mp hreported
      exact congrArg ConnectionReconcileResult.connectionId
        (Except.ok.inj (settles_pure.mp hreturned).2)
    · exact congrArg ConnectionReconcileResult.connectionId
        (Except.ok.inj (settles_pure.mp hreported).2)

end Day

/-- A run of the reconciliation, with the time at which it began and what became of it. -/
structure SweepRun where
  deps : ReconciliationDeps
  config : ReconciliationConfig
  now : ℤ
  res : Except Thrown (List ConnectionReconcileResult)

namespace SweepRun

/-- The day of a run, counted from 1970. -/
def day (run : SweepRun) : ℤ := run.now / 86400000

/-- The operations of a run. -/
def Runs (run : SweepRun) (t : List Ev) : Prop :=
  ∃ t', t = ⟨.clock, run.now⟩ :: t' ∧ Settles (runReconciliation run.deps run.config) t run.res

/-- A run returned, and reports a connection as reconciled. -/
def Reconciles (run : SweepRun) (connectionId : String) : Prop :=
  ∃ results, run.res = .ok results ∧ (∃ r ∈ results, r.connectionId = connectionId) ∧
    ∀ r ∈ results, r.connectionId = connectionId → r.skipped = false

variable {run : SweepRun} {t : List Ev}

/-- A run reads the clock, lists the connections and loops over their days. -/
theorem Runs.loops (h : run.Runs t) :
    (∃ e, t = [⟨.clock, run.now⟩, answered (.listEnabled run.deps.environment) (.error e)] ∧
      run.res = .error e) ∨
    ∃ listed t' results, t = ⟨.clock, run.now⟩ ::
        answered (.listEnabled run.deps.environment) (.ok listed) :: t' ∧
      run.res = results.map List.flatten ∧
      Loops (fun connection => Loops (DayRun run.deps run.config connection.connectionId)
        (businessDates run.config run.now)) listed t' results := by
  obtain ⟨t', rfl, h⟩ := h
  unfold runReconciliation at h
  obtain ⟨e, hres, hnow⟩ | ⟨clock, t₀, t₁, hsplit, hnow, hrest⟩ := settles_bind.mp h
  · obtain ⟨_, _, he⟩ := settles_now.mp hnow
    cases he
  obtain ⟨_, rfl, hclock⟩ := settles_now.mp hnow
  cases hclock
  obtain ⟨hsame, rfl⟩ := List.cons.inj hsplit
  obtain rfl : run.now = clock := eq_of_heq (Sigma.mk.inj hsame).2
  obtain ⟨e, hres, hlist⟩ | ⟨listed, t₂, t₃, rfl, hlist, hrest₁⟩ := settles_bind.mp hrest
  · obtain rfl := settles_io.mp hlist
    exact .inl ⟨e, rfl, hres⟩
  obtain rfl := settles_io.mp hlist
  have hloops {results : Except Thrown (List (List ConnectionReconcileResult))} {s : List Ev}
      (h : Settles (listed.mapM fun connection =>
        reconcileConnection run.deps run.config run.now connection) s results) :=
    (loops_of_settles h).mono fun connection _ s r _ hbody =>
      (loops_of_settles hbody).mono fun _ _ _ _ _ hday => dayRun_of_settles hday
  right
  obtain ⟨e, hres, hmap⟩ | ⟨results, t₄, t₅, rfl, hmap, hreturn⟩ := settles_bind.mp hrest₁
  · exact ⟨listed, t₃, .error e, rfl, hres, hloops hmap⟩
  · obtain ⟨rfl, hres⟩ := settles_pure.mp hreturn
    rw [List.append_nil]
    exact ⟨listed, t₄, .ok results, rfl, hres, hloops hmap⟩

/-- The snapshots that a run writes are of the days before it. -/
theorem Runs.written (h : run.Runs t) {input : ReconciliationSnapshotInput}
    {r : Except Thrown ReconciliationSnapshot} (hmem : answered (.upsertSnapshot input) r ∈ t) :
    input.environment = run.deps.environment ∧
      input.businessDate ∈ businessDates run.config run.now := by
  obtain ⟨e, rfl, _⟩ | ⟨listed, t', results, rfl, _, hloop⟩ := h.loops
  · simp at hmem
  · have hmem : answered (.upsertSnapshot input) r ∈ t' := by simpa using hmem
    obtain ⟨connection, _, t₁, _, hdays, hmem⟩ := hloop.exists_mem hmem
    obtain ⟨date, hdate, t₂, _, hday, hmem⟩ := hdays.exists_mem hmem
    have hkey := hday.writesOnly _ hmem input r rfl
    have hsame : input.businessDate = date := congrArg SnapshotKey.businessDate hkey
    exact ⟨congrArg SnapshotKey.environment hkey, hsame ▸ hdate⟩

/-- A run that reports a connection as reconciled wrote a snapshot of each of its days. -/
theorem Runs.stored (h : run.Runs t) {connectionId : String} (hready : run.Reconciles connectionId)
    {date : String} (hdate : date ∈ businessDates run.config run.now) :
    ∃ input row, answered (.upsertSnapshot input) (.ok row) ∈ t ∧
      input.key = ⟨run.deps.environment, connectionId, date⟩ := by
  obtain ⟨results, hres, ⟨r, hr, hid⟩, hskipped⟩ := hready
  obtain ⟨e, rfl, herror⟩ | ⟨listed, t', outs, rfl, houts, hloop⟩ := h.loops
  · cases herror.symm.trans hres
  · rcases outs with e | outs
    · cases houts.symm.trans hres
    · obtain rfl : outs.flatten = results := Except.ok.inj (houts.symm.trans hres)
      obtain ⟨out, hout, hr⟩ := List.mem_flatten.mp hr
      obtain ⟨connection, _, t₁, hdays, hsub⟩ := hloop.exists_of_result hout
      obtain ⟨date', _, t₂, hday, _⟩ := hdays.exists_of_result hr
      have hconnection := hday.stored.1.symm.trans hid
      obtain ⟨t₃, r', hday', hr', hsub'⟩ := hdays.exists_result hdate
      obtain ⟨hid', hwritten⟩ := hday'.stored
      have hready := hskipped r' (List.mem_flatten.mpr ⟨out, hout, hr'⟩) (hid'.trans hconnection)
      obtain ⟨input, row, hmem⟩ := hwritten hready
      refine ⟨input, row, ?_, ?_⟩
      · exact List.mem_cons_of_mem _ (List.mem_cons_of_mem _ (hsub (hsub' hmem)))
      · rw [hday'.writesOnly _ hmem input _ rfl, hconnection]

end SweepRun

/-! ## Several runs -/

section Runs

variable {ι : Type} [DecidableEq ι] {sweep : ι → Option SweepRun} {st st' : BoardWorld}
  {log : List (ι × Ev)} {environment : Environment} {connectionId : String} {day : ℤ}

/-- A thread is a run of the reconciliation, or something that writes no snapshots. -/
def SweepThread (sweep : ι → Option SweepRun) (i : ι) (t : List Ev) : Prop :=
  (∀ run, sweep i = some run → run.Runs t) ∧
    (sweep i = none → ∀ input r, answered (.upsertSnapshot input) r ∉ t)

/-- The key of a day. -/
def dayKey (environment : Environment) (connectionId : String) (day : ℤ) : SnapshotKey :=
  ⟨environment, connectionId, Js.utcDay (day * 86400000)⟩

/-- The runs that looked back at a day are the ones that wrote its snapshots. -/
theorem written_iff (hlog : Interleaves (BoardStep decimal jsonb) (SweepThread sweep) st log st')
    (hnew : st.snapshots.find (dayKey environment connectionId day) = none)
    (hready : ∀ i run, sweep i = some run → run.deps.environment = environment →
      run.Reconciles connectionId)
    (hyears : ∀ i run day', sweep i = some run → run.deps.environment = environment →
      Looks run.config.daysBack run.day day' → Js.FourDigitYear day')
    (hyear : Js.FourDigitYear day) :
    st'.snapshots.find (dayKey environment connectionId day) ≠ none ↔
      ∃ i run, sweep i = some run ∧ run.deps.environment = environment ∧
        Looks run.config.daysBack run.day day := by
  have hthread {i : ι} {ev : Ev} (hmem : (i, ev) ∈ log) : ev ∈ callsOf i log := mem_callsOf hmem
  have hrun {i : ι} {input : ReconciliationSnapshotInput} {r : Except Thrown ReconciliationSnapshot}
      (hmem : (i, answered (.upsertSnapshot input) r) ∈ log) :
      ∃ run, sweep i = some run ∧ input.environment = run.deps.environment ∧
        input.businessDate ∈ businessDates run.config run.now := by
    rcases hsweep : sweep i with _ | run
    · exact absurd (hthread hmem) ((hlog.local_ i).2 hsweep input r)
    · exact ⟨run, rfl, ((hlog.local_ i).1 run hsweep).written (hthread hmem)⟩
  have hdates : ∀ input r, answered (.upsertSnapshot input) r ∈ log.map Prod.snd →
      '|' ∉ input.businessDate.toList := by
    intro input r hmem
    obtain ⟨⟨i, ev⟩, hmem, rfl⟩ := List.mem_map.mp hmem
    obtain ⟨run, _, _, hdate⟩ := hrun hmem
    obtain ⟨day', _, hdate⟩ := mem_businessDates.mp hdate
    rw [hdate]
    exact not_mem_bar_utcDay _
  have hkey : '|' ∉ (dayKey environment connectionId day).businessDate.toList :=
    not_mem_bar_utcDay _
  rw [find_ne_none_iff hlog.steps hkey hdates hnew]
  constructor
  · rintro ⟨input, row, hmem, hkey⟩
    obtain ⟨⟨i, ev⟩, hmem, rfl⟩ := List.mem_map.mp hmem
    obtain ⟨run, hsweep, henvironment, hdate⟩ := hrun hmem
    have hown : run.deps.environment = environment :=
      henvironment.symm.trans (congrArg SnapshotKey.environment hkey)
    obtain ⟨day', hlooks, hdate⟩ := mem_businessDates.mp hdate
    have hsame : input.businessDate = Js.utcDay (day * 86400000) :=
      congrArg SnapshotKey.businessDate hkey
    obtain rfl := utcDay_inj (hyears i run day' hsweep hown hlooks) hyear (hdate.symm.trans hsame)
    exact ⟨i, run, hsweep, hown, hlooks⟩
  · rintro ⟨i, run, hsweep, rfl, hlooks⟩
    obtain ⟨input, row, hmem, hkey⟩ := ((hlog.local_ i).1 run hsweep).stored
      (hready i run hsweep rfl) (mem_businessDates.mpr ⟨day, hlooks, rfl⟩)
    exact ⟨input, row, List.mem_map_of_mem (mem_of_mem_callsOf hmem), hkey⟩

/-- In any interleaving of the runs of an environment, with each other and with anything else, every
day from the first run's to a later one's gets its snapshot if and only if no two consecutive
runs are more days apart than the lookback. -/
theorem days_reconciled_iff
    (hlog : Interleaves (BoardStep decimal jsonb) (SweepThread sweep) st log st')
    {first : SweepRun} {rest : List SweepRun} {lookback : ℕ}
    (hruns : ∀ run, run ∈ first :: rest ↔
      ∃ i, sweep i = some run ∧ run.deps.environment = environment)
    (hready : ∀ run ∈ first :: rest, run.config.daysBack = lookback ∧ run.Reconciles connectionId)
    (hsorted : (first :: rest).Pairwise fun a b => a.day ≤ b.day)
    (hyears : ∀ run ∈ first :: rest, ∀ day, first.day - lookback ≤ day → day < run.day →
      Js.FourDigitYear day)
    (hnew : ∀ day, st.snapshots.find (dayKey environment connectionId day) = none) :
    (∀ day, first.day ≤ day → (∃ run ∈ rest, day < run.day) →
      st'.snapshots.find (dayKey environment connectionId day) ≠ none) ↔
      ((first :: rest).map SweepRun.day).IsChain fun a b => b - a ≤ (lookback : ℤ) := by
  have hdays : ((first :: rest).map SweepRun.day).Pairwise (· ≤ ·) := List.pairwise_map.mpr hsorted
  have hfirst : ∀ run ∈ first :: rest, first.day ≤ run.day := by
    intro run hrun
    rcases List.mem_cons.mp hrun with rfl | hrun
    · exact le_refl _
    · exact (List.pairwise_cons.mp hsorted).1 run hrun
  have hmine {i : ι} {run : SweepRun} (hsweep : sweep i = some run)
      (hown : run.deps.environment = environment) : run ∈ first :: rest :=
    (hruns run).mpr ⟨i, hsweep, hown⟩
  have hwritten {day : ℤ} (hday : first.day ≤ day) (hlater : ∃ run ∈ rest, day < run.day) :
      st'.snapshots.find (dayKey environment connectionId day) ≠ none ↔
        ∃ run ∈ rest.map SweepRun.day, Looks lookback run day := by
    obtain ⟨later, hlater, hlt⟩ := hlater
    rw [written_iff hlog (hnew day) (fun i run hsweep hown => (hready run (hmine hsweep hown)).2)
      ?_ (hyears later (List.mem_cons_of_mem _ hlater) day (by omega) hlt)]
    · constructor
      · rintro ⟨i, run, hsweep, hown, hlooks⟩
        have hrun := hmine hsweep hown
        rw [(hready run hrun).1] at hlooks
        refine ⟨run.day, List.mem_map_of_mem ((List.mem_cons.mp hrun).resolve_left ?_), hlooks⟩
        rintro rfl
        have hbefore := hlooks.1
        omega
      · rintro ⟨_, hmap, hlooks⟩
        obtain ⟨run, hrun, rfl⟩ := List.mem_map.mp hmap
        have hmem := List.mem_cons_of_mem first hrun
        obtain ⟨i, hsweep, hown⟩ := (hruns run).mp hmem
        rw [← (hready run hmem).1] at hlooks
        exact ⟨i, run, hsweep, hown, hlooks⟩
    · intro i run day' hsweep hown hlooks
      have hrun := hmine hsweep hown
      have hge := hfirst run hrun
      rw [(hready run hrun).1] at hlooks
      obtain ⟨hbefore, hle⟩ := hlooks
      exact hyears run hrun day' (by omega) (by omega)
  rw [List.map_cons] at hdays ⊢
  rw [← looks_all_iff (by omega) hdays]
  refine forall_congr' fun day => forall_congr' fun hday => ?_
  have hexists : (∃ run ∈ rest.map SweepRun.day, day < run) ↔ ∃ run ∈ rest, day < run.day := by
    simp
  rw [hexists]
  exact forall_congr' fun hlater => hwritten hday hlater

end Runs

namespace Shop

/-- A quiet day, at the time `now`. -/
def quietDay (now : ℤ) : Responder where
  answers := fun
    | .getDailyOrderAggregate .. => .ok ⟨0, []⟩
    | .listSyncLog .. => .ok []
    | c => answers c
  now := now

/-- Write a snapshot in memory. -/
def keepSnapshot (now : ℤ) (input : ReconciliationSnapshotInput) (st : BoardWorld) :
    Except Thrown ReconciliationSnapshot × BoardWorld :=
  match st.snapshots with
  | .memory store =>
    (.ok (store.upsert input now).1, { st with snapshots := .memory (store.upsert input now).2 })
  | .postgres _ => (.error .undefined, st)

/-- Snapshots in memory, next to the stores of the shop. -/
def serveBoard (now : ℤ) : (o : Op) → BoardWorld → o.Resp × BoardWorld
  | .io (.upsertSnapshot input), st => keepSnapshot now input st
  | o, st => (((quietDay now).respond o st.world).1,
      { st with world := ((quietDay now).respond o st.world).2 })

theorem step_serveBoard (now : ℤ) (o : Op) (st : BoardWorld) :
    BoardStep decimal jsonb o st (serveBoard now o st).1 (serveBoard now o st).2 := by
  unfold serveBoard
  split
  · next input =>
    obtain ⟨w, store | table⟩ := st
    · exact .stored (.memory store input now)
    · exact .failed _
  · next hother => exact .other hother ((quietDay now).step_respond _ _)

def sweepDeps : ReconciliationDeps where
  environment := .dev
  orderSyncLog := true
  reconciliationStore := true
  telemetry := true

/-- A run of the reconciliation at the time `now`. -/
def sweepAt (now : ℤ) (st : BoardWorld) :
    List Ev × Except Thrown (List ConnectionReconcileResult) × BoardWorld :=
  (runReconciliation sweepDeps {}).run.execute (serveBoard now) st

theorem sweepAt_exec (now : ℤ) (st : BoardWorld) :
    Exec (BoardStep decimal jsonb) (runReconciliation sweepDeps {}).run st (sweepAt now st).1
      (sweepAt now st).2.1 (sweepAt now st).2.2 :=
  Prog.exec_execute (step_serveBoard now) _ st

theorem sweepAt_runs (now : ℤ) (st : BoardWorld) :
    SweepRun.Runs ⟨sweepDeps, {}, now, (sweepAt now st).2.1⟩ (sweepAt now st).1 :=
  ⟨_, rfl, (@sweepAt_exec id id now st).runs⟩

/-- Whether a run reports the one connection of the shop as reconciled. -/
def reports : Except Thrown (List ConnectionReconcileResult) → Bool
  | .ok [r] => r.connectionId = "conn-a" && !r.skipped
  | _ => false

theorem reconciles_of_reports {run : SweepRun} (h : reports run.res = true) :
    run.Reconciles "conn-a" := by
  unfold reports at h
  split at h
  · next r hres =>
    obtain ⟨hid, hskipped⟩ := (Bool.and_eq_true _ _).mp h
    refine ⟨[r], hres, ⟨r, List.mem_singleton_self r, of_decide_eq_true hid⟩, fun r' hr' _ => ?_⟩
    obtain rfl := List.mem_singleton.mp hr'
    simpa using hskipped
  · cases h

/-- No snapshots yet. -/
def noSnapshots : BoardWorld := ⟨world, .memory ⟨.empty⟩⟩

/-- The sixth hour of the fifth of January, and of the seventh. -/
def fifthAtSix : ℤ := 20458 * 86400000 + 21600000

def seventhAtSix : ℤ := 20460 * 86400000 + 21600000

def fifthRun : SweepRun :=
  ⟨sweepDeps, {}, fifthAtSix, (sweepAt fifthAtSix noSnapshots).2.1⟩

def afterFifth : BoardWorld := (sweepAt fifthAtSix noSnapshots).2.2

def seventhRun : SweepRun :=
  ⟨sweepDeps, {}, seventhAtSix, (sweepAt seventhAtSix afterFifth).2.1⟩

def twoSweeps (second : Bool) : Option SweepRun := some (if second then seventhRun else fifthRun)

def twoSweepsLog : List (Bool × Ev) :=
  (sweepAt fifthAtSix noSnapshots).1.map (Prod.mk false) ++
    (sweepAt seventhAtSix afterFifth).1.map (Prod.mk true)

theorem interleaves_twoSweeps : Interleaves (BoardStep id id) (SweepThread twoSweeps) noSnapshots
    twoSweepsLog (sweepAt seventhAtSix afterFifth).2.2 where
  steps := by
    rw [twoSweepsLog, List.map_append, List.map_map, List.map_map]
    simp only [Function.comp_def, List.map_id']
    exact steps_append.mpr ⟨afterFifth, (sweepAt_exec fifthAtSix noSnapshots).steps,
      (sweepAt_exec seventhAtSix afterFifth).steps⟩
  local_ := by
    intro second
    refine ⟨?_, fun hnone => by cases hnone⟩
    rintro run ⟨⟩
    rw [twoSweepsLog, callsOf_append]
    cases second with
    | false =>
      rw [callsOf_map_self, callsOf_map_of_ne (by decide), List.append_nil]
      exact sweepAt_runs fifthAtSix noSnapshots
    | true =>
      rw [callsOf_map_self, callsOf_map_of_ne (by decide), List.nil_append]
      exact sweepAt_runs seventhAtSix afterFifth

/-- After the fifth the next run is on the seventh: the fifth is reconciled by neither. -/
theorem days_reconciled_iff_missed :
    ∃ day, fifthRun.day ≤ day ∧ day < seventhRun.day ∧
      (sweepAt seventhAtSix afterFifth).2.2.snapshots.find (dayKey .dev "conn-a" day) = none := by
  have hdays : fifthRun.day = 20458 ∧ seventhRun.day = 20460 := by decide
  have hreports : reports fifthRun.res = true ∧ reports seventhRun.res = true := by
    decide +kernel
  have hruns : ∀ run, run ∈ [fifthRun, seventhRun] ↔
      ∃ i, twoSweeps i = some run ∧ run.deps.environment = .dev := by
    intro run
    constructor
    · intro hrun
      rcases List.mem_cons.mp hrun with rfl | hrun
      · exact ⟨false, rfl, rfl⟩
      · obtain rfl := List.mem_singleton.mp hrun
        exact ⟨true, rfl, rfl⟩
    · rintro ⟨second, heq, _⟩
      obtain rfl := Option.some.inj heq
      cases second <;> simp
  have hready : ∀ run ∈ [fifthRun, seventhRun],
      run.config.daysBack = 1 ∧ run.Reconciles "conn-a" := by
    simp only [List.forall_mem_cons, List.not_mem_nil, false_implies, implies_true, and_true]
    exact ⟨⟨rfl, reconciles_of_reports hreports.1⟩, rfl, reconciles_of_reports hreports.2⟩
  have hyears : ∀ run ∈ [fifthRun, seventhRun], ∀ day, fifthRun.day - (1 : ℕ) ≤ day →
      day < run.day → Js.FourDigitYear day := by
    intro run hrun day hge hlt
    have hbefore : run.day ≤ 20460 := by
      simp only [List.mem_cons, List.not_mem_nil, or_false] at hrun
      rcases hrun with rfl | rfl <;> omega
    have hday : day = 20457 ∨ day = 20458 ∨ day = 20459 := by omega
    unfold Js.FourDigitYear
    rcases hday with rfl | rfl | rfl <;> decide
  have hmissed : ¬∀ day, fifthRun.day ≤ day → (∃ run ∈ [seventhRun], day < run.day) →
      (sweepAt seventhAtSix afterFifth).2.2.snapshots.find (dayKey .dev "conn-a" day) ≠ none := by
    rw [days_reconciled_iff interleaves_twoSweeps hruns hready (by simp [hdays]) hyears
      fun _ => rfl]
    simp [hdays]
  push Not at hmissed
  obtain ⟨day, hday, ⟨run, hrun, hlt⟩, hnone⟩ := hmissed
  obtain rfl := List.mem_singleton.mp hrun
  exact ⟨day, hday, hlt, hnone⟩

end Shop

end DpIntegrator
