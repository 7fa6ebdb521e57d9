import DpIntegrator.Delivery.Reports

/-!
# Failing orders are reported once

A delivery writes one error record of the import and emits one park metric, and the stage and the
class it tells are those of the failure that stopped its pipeline, unless the park of a failure that
the pipeline found fails in its turn with an error whose own report can be seen.
-/

namespace DpIntegrator

open Effects

variable {d : Delivery} {tr t t' : List Ev} {l l' : Locals}

/-! ## What is reported -/

/-- What a call reports is of a stage and an error class. -/
structure ReportsAs (stage : Stage) (errorClass : ErrorClass) (ev : Ev) : Prop where
  record : ∀ input u, ev = answered (.recordError input) (.ok u) → input.flow = "order-import" →
    input.errorClass = errorClass ∧ ∃ detail, input.message = "[" ++ stage.text ++ "] " ++ detail
  metric : ∀ environment connectionId text c u, ev = ⟨.track (.park environment connectionId text c), u⟩ →
    text = stage.text ∧ c = errorClass
  row : ∀ input u, ev = answered (.upsertSyncLog input) (.ok u) → input.status = .parked →
    input.parkStage = some stage.text ∧ input.parkErrorClass = some errorClass.text

theorem Unreported.reportsAs {ev : Ev} (h : Unreported ev) (stage : Stage)
    (errorClass : ErrorClass) : ReportsAs stage errorClass ev where
  record input u heq hflow := by
    have hrecord := h.record
    rw [heq] at hrecord
    simp [isImportRecord, hflow] at hrecord
  metric environment connectionId text c u heq := by
    have hmetric := h.metric
    rw [heq] at hmetric
    simp [isParkMetric] at hmetric
  row input u heq hstatus := by
    have hrow := h.row
    rw [heq] at hrow
    simp [isParkedRow, hstatus] at hrow

theorem ParkSucceeds.reportsAs {park : ParkInput} (h : ParkSucceeds d park t) :
    ∀ ev ∈ t, ReportsAs park.stage park.errorClass ev := by
  obtain ⟨hrecord, hlog⟩ := h
  refine List.forall_mem_cons.mpr ⟨(unreported_io rfl _).reportsAs _ _, ?_⟩
  refine List.forall_mem_append.mpr ⟨?_, List.forall_mem_append.mpr ⟨?_, ?_⟩⟩
  · intro ev hev
    cases hrecord with
    | unwired => cases hev
    | wired =>
      obtain rfl := List.mem_singleton.mp hev
      refine ⟨fun input u heq _ => ?_, by simp, by simp⟩
      cases heq
      exact ⟨rfl, _, rfl⟩
  · intro ev hev
    unfold Delivery.tracked at hev
    split at hev
    · obtain rfl := List.mem_singleton.mp hev
      refine ⟨by simp, fun environment connectionId text c u heq => ?_, by simp⟩
      cases heq
      exact ⟨rfl, rfl⟩
    · cases hev
  · intro ev hev
    cases hlog with
    | unwired => cases hev
    | wired =>
      obtain rfl := List.mem_singleton.mp hev
      refine ⟨by simp, by simp, fun input u heq _ => ?_⟩
      cases heq
      exact ⟨rfl, rfl⟩

/-- The failure that stopped the pipeline of a delivery: one that it found itself, or an error that
was thrown. -/
inductive StoppedBy (d : Delivery) : List Ev → Stage → ErrorClass → Prop
  | found {t rest : List Ev} {order : ShopifyOrder} {stage : Stage} {detail : String}
      {errorClass : ErrorClass} {l : Locals}
      (hrun : SettlesFrom (pipeline d) {} t (.ok (.found order stage detail errorClass)) l) :
      StoppedBy d (t ++ rest) stage errorClass
  | thrown {t rest : List Ev} {e : Thrown} {l : Locals}
      (hrun : SettlesFrom (pipeline d) {} t (.error e) l) :
      StoppedBy d (t ++ rest) (if e.isOrderNotFound then .fetch else .externalCall)
        (classifyHandlerError d.deps.sdk e)

/-- A message is reported at most once, and where it is parked the stage and the class are those of
the failure that stopped its pipeline. -/
structure ReportedOnce (deps : OrderHandlerDeps) (message : Js.Value)
    (attemptCtx : Option AttemptContext) (tr : List Ev) (res : Except Thrown OrderHandlerOutcome) :
    Prop where
  record : importRecords tr ≤ 1
  metric : parkMetrics tr ≤ 1
  reason : ∀ connectionId orderGid stage detail errorClass,
    res = .ok (.parked connectionId orderGid stage detail errorClass) →
      ∃ d opening t, Starts deps message attemptCtx d opening ∧ tr = opening ++ t ∧
        StoppedBy d t stage errorClass ∧ ∀ ev ∈ tr, ReportsAs stage errorClass ev

/-- The second report, of the error `e` that the first one failed with, can be seen. `told` tells
whether the first one had been recorded and counted by then. -/
inductive SeenAgain (d : Delivery) (e : Thrown) (order : Option ShopifyOrder) : Bool → List Ev → Prop
  | auth {key : String} {rest : List Ev} (hclass : classifyHandlerError d.deps.sdk e = .auth)
      (hstore : d.deps.errorStore = true) :
      SeenAgain d e order true (answered (.recordError (authRecord d e key)) (.ok ()) :: rest)
  | recorded {row : XrefRow} {key : String} {rest : List Ev}
      (hclass : shouldRetry (classifyHandlerError d.deps.sdk e) = false)
      (hstore : d.deps.errorStore = true) :
      SeenAgain d e order true (answered (.recordFailure d.parts) (.ok row) ::
        answered (.recordError (parkRecord d (thrownPark d e order) key)) (.ok ()) :: rest)
  | counted {row : XrefRow} {rest : List Ev}
      (hclass : shouldRetry (classifyHandlerError d.deps.sdk e) = false)
      (hstore : d.deps.errorStore = false) (htelemetry : d.deps.telemetry = true) :
      SeenAgain d e order true (answered (.recordFailure d.parts) (.ok row) ::
        ⟨.track (parkMetric d (thrownPark d e order)), ()⟩ :: rest)
  | completed {told : Bool} {t rest : List Ev}
      (hclass : shouldRetry (classifyHandlerError d.deps.sdk e) = false)
      (hpark : ParkSucceeds d (thrownPark d e order) t) : SeenAgain d e order told (t ++ rest)

/-- The park of a failure that the pipeline found fails with an error whose report can be seen. -/
inductive ReportedAgain (d : Delivery) : List Ev → Prop
  | intro {t t' a c : List Ev} {order : ShopifyOrder} {stage : Stage} {detail : String}
      {errorClass : ErrorClass} {l l' : Locals} {e : Thrown} {told : Bool}
      (hrun : SettlesFrom (pipeline d) {} t (.ok (.found order stage detail errorClass)) l)
      (hpark : ParkFails d (foundPark order stage detail errorClass) e told t')
      (harch : SettlesFrom (archiveThrown d e) l a (.ok ()) l')
      (hseen : SeenAgain d e l'.order told c) : ReportedAgain d (t ++ (t' ++ (a ++ c)))

/-! ## Seen once -/

/-- A failure that is found while an order is prepared. -/
theorem prepareOrder_stage {order : ShopifyOrder} {stage : Stage} {detail : String}
    {errorClass : ErrorClass}
    (h : Settles (prepareOrder d order) tr (.ok (.parked stage detail errorClass))) :
    stage ≠ .fetch ∧ stage ≠ .externalCall := by
  obtain ⟨customer, t₁, t₂, rfl, _, hmap⟩ := settles_bind_ok.mp h
  obtain ⟨built, t₃, t₄, rfl, _, hbuilt⟩ := settles_bind_ok.mp hmap
  cases built with
  | parked reason =>
    cases (settles_pure.mp hbuilt).2
    exact ⟨by decide, by decide⟩
  | ok draft =>
    obtain ⟨balanced, t₅, t₆, rfl, _, hbalanced⟩ := settles_bind_ok.mp hbuilt
    cases balanced with
    | parked reason =>
      cases (settles_pure.mp hbalanced).2
      exact ⟨by decide, by decide⟩
    | ok balanced =>
      obtain ⟨resolved, t₇, t₈, rfl, _, hresolved⟩ := settles_bind_ok.mp hbalanced
      cases resolved with
      | parked reason =>
        cases (settles_pure.mp hresolved).2
        exact ⟨by decide, by decide⟩
      | ok payload => cases (settles_pure.mp hresolved).2

/-- How the pipeline ends where it does not throw. -/
theorem pipeline_cases {ended : PipelineEnd} {l : Locals}
    (h : SettlesFrom (pipeline d) {} tr (.ok ended) l) :
    (∃ o, ended = .done o ∧ NotParked (.ok o)) ∨ ∃ order stage detail errorClass t,
      ended = .found order stage detail errorClass ∧ t ⊆ tr ∧
        Settles (prepareOrder d order) t (.ok (.parked stage detail errorClass)) := by
  obtain ⟨_, he, _⟩ | ⟨order, l₁, t₁, t₂, rfl, hfetch, hrest⟩ := settlesFrom_bind.mp h
  · cases he
  obtain ⟨_, he, _⟩ | ⟨u, l₂, t₃, t₄, rfl, hset, hrest₁⟩ := settlesFrom_bind.mp hrest
  · cases he
  obtain ⟨_, he, _⟩ | ⟨u, l₃, t₅, t₆, rfl, harch, hrest₂⟩ := settlesFrom_bind.mp hrest₁
  · cases he
  split at hrest₂
  · obtain ⟨_, he, _⟩ | ⟨o, l₄, t₇, t₈, rfl, hignore, hret⟩ := settlesFrom_bind.mp hrest₂
    · cases he
    cases (settlesFrom_pure.mp hret).2.1
    exact .inl ⟨o, rfl, (ignoreOrder_exit hignore).notParked fun _ _ _ _ _ heq => by cases heq⟩
  · obtain ⟨_, he, _⟩ | ⟨prepared, l₄, t₇, t₈, rfl, hprep, hrest₃⟩ := settlesFrom_bind.mp hrest₂
    · cases he
    cases prepared with
    | parked stage detail errorClass =>
      cases (settlesFrom_pure.mp hrest₃).2.1
      refine .inr ⟨order, stage, detail, errorClass, t₇, rfl, fun ev hev => ?_,
        (settlesFrom_await.mp hprep).1⟩
      simp only [List.mem_append]
      exact .inr (.inr (.inr (.inl hev)))
    | ready customer payload =>
      obtain ⟨_, he, _⟩ | ⟨o, l₅, t₉, t₁₀, rfl, hwrite, hret⟩ := settlesFrom_bind.mp hrest₃
      · cases he
      cases (settlesFrom_pure.mp hret).2.1
      exact .inl ⟨o, rfl, (writeOrder_exit hwrite).notParked⟩

theorem pipeline_done_notParked {o : OrderHandlerOutcome} {l : Locals}
    (h : SettlesFrom (pipeline d) {} tr (.ok (.done o)) l) : NotParked (.ok o) := by
  obtain ⟨o', heq, ho⟩ | ⟨_, _, _, _, _, heq, _⟩ := pipeline_cases h
  · cases heq
    exact ho
  · cases heq

section Once

variable {t₀ a c : List Ev} {order : ShopifyOrder} {stage : Stage} {detail : String}
  {errorClass : ErrorClass} {e : Thrown} {told : Bool} {res : Except Thrown OrderHandlerOutcome}

/-- Every bound on the counts of a single report. -/
theorem RouteRun.counts {order : Option ShopifyOrder} (h : RouteRun d e order t res) :
    importRecords t ≤ 1 ∧ parkMetrics t ≤ 1 := by
  cases h with
  | retried => exact ⟨Nat.zero_le _, Nat.zero_le _⟩
  | authFailed _ hrecord =>
    obtain ⟨hrecords, hmetrics⟩ := hrecord.counts fun _ => rfl
    rw [hrecords, hmetrics]
    exact ⟨by split <;> omega, by omega⟩
  | auth _ hrecord metric hmetric =>
    obtain ⟨hrecords, hmetrics⟩ := hrecord.counts fun _ => rfl
    obtain ⟨hrecords', hmetrics'⟩ := tracked_counts d metric
    rw [importRecords_append, parkMetrics_append, hrecords, hmetrics, hrecords', hmetrics', hmetric,
      Bool.and_false]
    exact ⟨by split <;> omega, by simp⟩
  | parkFailed _ hpark =>
    rw [hpark.counts.1, hpark.counts.2]
    exact ⟨by split <;> omega, by split <;> omega⟩
  | parked _ hpark =>
    rw [hpark.counts.1, hpark.counts.2]
    exact ⟨by split <;> omega, by split <;> omega⟩

theorem CatchRun.counts (h : CatchRun d e l t res) : importRecords t ≤ 1 ∧ parkMetrics t ≤ 1 := by
  cases h with
  | unreadable harch =>
    have harch := unreported_counts (unreported_archiveThrown e _ _ _ _ harch).1
    rw [harch.1, harch.2]
    exact ⟨Nat.zero_le _, Nat.zero_le _⟩
  | routed harch hroute =>
    have harch := unreported_counts (unreported_archiveThrown e _ _ _ _ harch).1
    rw [importRecords_append, parkMetrics_append, harch.1, harch.2, Nat.zero_add, Nat.zero_add]
    exact hroute.counts

/-- After a park that fails, a second report that cannot be seen leaves one report at most. -/
theorem once_of_not_seenAgain {order : Option ShopifyOrder} {park : ParkInput}
    (hpark : ParkFails d park e told t) (hroute : RouteRun d e order c res)
    (hnot : ¬ SeenAgain d e order told (c ++ a)) :
    importRecords t + importRecords c ≤ 1 ∧ parkMetrics t + parkMetrics c ≤ 1 ∧ NotParked res := by
  have hnotParked (e' : Thrown) : NotParked (.error e') := fun _ _ _ _ _ heq => by cases heq
  rw [hpark.counts.1, hpark.counts.2]
  cases hroute with
  | retried =>
    refine ⟨?_, ?_, hnotParked _⟩
    · simp [importRecords]
      split <;> omega
    · simp [parkMetrics]
      split <;> omega
  | authFailed _ hrecord =>
    obtain ⟨hrecords, hmetrics⟩ := hrecord.counts fun _ => rfl
    rw [hrecords, hmetrics]
    refine ⟨?_, by split <;> omega, hnotParked _⟩
    simp only [Except.isOk, Except.toBool, Bool.false_and, Bool.false_eq_true, if_false]
    split <;> omega
  | auth hclass hrecord metric hmetric =>
    obtain ⟨hrecords, hmetrics⟩ := hrecord.counts fun _ => rfl
    obtain ⟨hrecords', hmetrics'⟩ := tracked_counts d metric
    rw [importRecords_append, parkMetrics_append, hrecords, hmetrics, hrecords', hmetrics', hmetric,
      Bool.and_false]
    refine ⟨?_, by simp; split <;> omega, hnotParked _⟩
    cases hrecord with
    | unwired hstore => simp [hstore]
    | wired hstore =>
      cases told with
      | false => simp [Except.isOk, Except.toBool]; split <;> omega
      | true => exact absurd (.auth hclass hstore) hnot
  | parkFailed hclass hfails =>
    rw [hfails.counts.1, hfails.counts.2]
    cases told with
    | false => exact ⟨by simp; split <;> omega, by simp; split <;> omega, hnotParked _⟩
    | true =>
      cases hfails with
      | row | record => exact ⟨by simp; split <;> omega, by simp; split <;> omega, hnotParked _⟩
      | log hrecord =>
        -- Both parks failed at the ledger: the second was recorded or counted, if anything is wired.
        cases hrecord with
        | wired hstore => exact absurd (.recorded hclass hstore) hnot
        | unwired hstore =>
          cases htelemetry : d.deps.telemetry with
          | false => exact ⟨by simp [hstore], by simp, hnotParked _⟩
          | true =>
            have htracked : d.tracked (parkMetric d (thrownPark d e order)) =
                [⟨.track (parkMetric d (thrownPark d e order)), ()⟩] := if_pos htelemetry
            rw [htracked] at hnot
            exact absurd (.counted hclass hstore htelemetry) hnot
  | parked hclass hsucceeds => exact absurd (.completed hclass hsucceeds) hnot

theorem catch_once {park : ParkInput} (hpark : ParkFails d park e told t)
    (hcatch : CatchRun d e l c res)
    (hnot : ∀ {t₁ t₂ l'}, SettlesFrom (archiveThrown d e) l t₁ (.ok ()) l' → c ++ a = t₁ ++ t₂ →
      ¬ SeenAgain d e l'.order told t₂) :
    importRecords t + importRecords c ≤ 1 ∧ parkMetrics t + parkMetrics c ≤ 1 ∧ NotParked res := by
  cases hcatch with
  | unreadable harch =>
    have hquiet := unreported_counts (unreported_archiveThrown _ _ _ _ _ harch).1
    rw [hquiet.1, hquiet.2, hpark.counts.1, hpark.counts.2]
    exact ⟨by split <;> omega, by split <;> omega, fun _ _ _ _ _ heq => by cases heq⟩
  | routed harch hroute =>
    have harchived := unreported_counts (unreported_archiveThrown _ _ _ _ _ harch).1
    rw [importRecords_append, parkMetrics_append, harchived.1, harchived.2, Nat.zero_add,
      Nat.zero_add]
    exact once_of_not_seenAgain hpark hroute (hnot harch (List.append_assoc ..))

theorem once_of_not_reportedAgain (hrun : ClaimedRun d t res) (hnot : ¬ ReportedAgain d t) :
    importRecords t ≤ 1 ∧ parkMetrics t ≤ 1 ∧
      ∀ connectionId orderGid stage detail errorClass,
        res = .ok (.parked connectionId orderGid stage detail errorClass) →
          StoppedBy d t stage errorClass ∧ ∀ ev ∈ t, ReportsAs stage errorClass ev := by
  cases hrun with
  | done hrun ha =>
    have hquiet := unreported_counts (unreported_pipeline _ _ _ _ hrun).1
    have hquiet' := unreported_counts ha
    refine ⟨by simp [hquiet.1, hquiet'.1], by simp [hquiet.2, hquiet'.2], ?_⟩
    intro connectionId orderGid stage detail errorClass heq
    exact absurd heq (pipeline_done_notParked hrun _ _ _ _ _)
  | parked hrun hpark ha =>
    have hunreported := (unreported_pipeline _ _ _ _ hrun).1
    have hquiet := unreported_counts hunreported
    have hquiet' := unreported_counts ha
    refine ⟨?_, ?_, ?_⟩
    · rw [importRecords_append, importRecords_append, hquiet.1, hquiet'.1, hpark.counts.1]
      split <;> omega
    · rw [parkMetrics_append, parkMetrics_append, hquiet.2, hquiet'.2, hpark.counts.2]
      split <;> omega
    · intro connectionId orderGid stage detail errorClass heq
      cases heq
      refine ⟨.found hrun, List.forall_mem_append.mpr ⟨?_, List.forall_mem_append.mpr ⟨?_, ?_⟩⟩⟩
      · exact fun ev hev => (hunreported ev hev).reportsAs _ _
      · exact hpark.reportsAs
      · exact fun ev hev => (ha ev hev).reportsAs _ _
  | failed hrun hpark hcatch ha =>
    have hquiet := unreported_counts (unreported_pipeline _ _ _ _ hrun).1
    have hquiet' := unreported_counts ha
    obtain ⟨hrecords, hmetrics, hres⟩ := catch_once (a := _) hpark hcatch
      fun harch heq hseen => hnot (heq ▸ .intro hrun hpark harch hseen)
    refine ⟨?_, ?_, fun _ _ _ _ _ heq => absurd heq (hres _ _ _ _ _)⟩
    · simpa [hquiet.1, hquiet'.1] using hrecords
    · simpa [hquiet.2, hquiet'.2] using hmetrics
  | thrown hrun hcatch ha =>
    have hunreported := (unreported_pipeline _ _ _ _ hrun).1
    have hquiet := unreported_counts hunreported
    have hquiet' := unreported_counts ha
    refine ⟨?_, ?_, ?_⟩
    · have hcounts := hcatch.counts.1
      rw [importRecords_append, importRecords_append, hquiet.1, hquiet'.1]
      omega
    · have hcounts := hcatch.counts.2
      rw [parkMetrics_append, parkMetrics_append, hquiet.2, hquiet'.2]
      omega
    · intro connectionId orderGid stage detail errorClass heq
      cases heq
      cases hcatch with
      | routed harch hroute =>
        have harchived := (unreported_archiveThrown _ _ _ _ _ harch).1
        cases hroute with
        | parked hclass hpark =>
          refine ⟨.thrown hrun, List.forall_mem_append.mpr ⟨?_, List.forall_mem_append.mpr ⟨
            List.forall_mem_append.mpr ⟨?_, hpark.reportsAs⟩, ?_⟩⟩⟩
          · exact fun ev hev => (hunreported ev hev).reportsAs _ _
          · exact fun ev hev => (harchived ev hev).reportsAs _ _
          · exact fun ev hev => (ha ev hev).reportsAs _ _

end Once

/-! ## Seen twice -/

section Unique

variable {s s' : List Ev} {deps : OrderHandlerDeps} {message : Js.Value}
  {attemptCtx : Option AttemptContext} {opening opening' : List Ev} {d' : Delivery}

theorem pipeline_unique {ended ended' : Except Thrown PipelineEnd}
    (h : SettlesFrom (pipeline d) {} t ended l) (h' : SettlesFrom (pipeline d) {} t' ended' l')
    (heq : t ++ s = t' ++ s') : t = t' ∧ ended = ended' ∧ l = l' := by
  obtain ⟨ht, hres⟩ := h.eq_of_append h' heq
  obtain ⟨hended, hl⟩ := Prod.mk.inj hres
  exact ⟨ht, hended, hl⟩

theorem Opens.unique (h : Opens d opening) (h' : Opens d opening')
    (heq : opening ++ t = opening' ++ t') : opening = opening' ∧ t = t' := by
  cases h with
  | direct =>
    cases h' with
    | direct =>
      obtain ⟨hev, hrest⟩ := List.cons.inj heq
      exact ⟨by rw [hev], hrest⟩
    | known => cases (List.cons.inj heq).1
  | known =>
    cases h' with
    | direct => cases (List.cons.inj heq).1
    | known =>
      obtain ⟨hev, hrest⟩ := List.cons.inj heq
      obtain ⟨hev', hrest'⟩ := List.cons.inj hrest
      exact ⟨by rw [hev, hev'], hrest'⟩

/-- A message is delivered as one delivery, whose pipeline starts at one place. -/
theorem Starts.unique (h : Starts deps message attemptCtx d opening)
    (h' : Starts deps message attemptCtx d' opening') (heq : opening ++ t = opening' ++ t') :
    d = d' ∧ t = t' := by
  obtain ⟨hd, hopens⟩ := h
  obtain ⟨hd', hopens'⟩ := h'
  obtain ⟨hev, hrest⟩ := List.cons.inj heq
  have hmsg : d.msg = d'.msg := Except.ok.inj (hd.parsed.symm.trans hd'.parsed)
  have hconnection : d.connection = d'.connection := by
    rw [hmsg] at hev
    have hres := eq_of_heq (Sigma.mk.inj hev).2
    exact Option.some.inj (Except.ok.inj hres)
  have hdelivery : d = d' := by
    obtain ⟨_, _, _, _⟩ := d
    obtain ⟨_, _, _, _⟩ := d'
    obtain rfl := hd.deps.trans hd'.deps.symm
    obtain rfl := hd.attemptCtx.trans hd'.attemptCtx.symm
    obtain rfl := hmsg
    obtain rfl := hconnection
    rfl
  subst hdelivery
  exact ⟨rfl, (hopens.unique hopens' hrest).2⟩

theorem Starts.unreported (h : Starts deps message attemptCtx d opening) :
    ∀ ev ∈ opening, Unreported ev := by
  obtain ⟨_, hopens⟩ := h
  exact List.forall_mem_cons.mpr ⟨unreported_io rfl _, hopens.unreported⟩

theorem Opens.imports {res : Except Thrown OrderHandlerOutcome} (hopens : Opens d opening)
    (h : Settles (deliver d) (opening ++ t) res) : Settles (importClaimedOrder d) t res := by
  have hclaim {r : ClaimResult} (hr : r.outcome = .claimed)
      (h : Settles (claimAndImport d) (claimedBy d (.ok r) :: t) res) :
      Settles (importClaimedOrder d) t res := by
    obtain ⟨e, rfl, hio⟩ | ⟨r', t₁, t₂, heq, hio, hrest⟩ := settles_bind.mp h
    · cases settles_io.mp hio
    obtain rfl := settles_io.mp hio
    obtain ⟨hev, rfl⟩ := List.cons.inj heq
    obtain rfl := Except.ok.inj (eq_of_heq (Sigma.mk.inj hev).2)
    rw [hr] at hrest
    exact hrest
  unfold deliver at h
  cases hopens with
  | direct hr =>
    split at h
    · obtain ⟨e, rfl, hio⟩ | ⟨found, t₁, t₂, heq, hio, _⟩ := settles_bind.mp h
      · cases (List.cons.inj (settles_io.mp hio)).1
      · obtain rfl := settles_io.mp hio
        cases (List.cons.inj heq).1
    · exact hclaim hr h
  | known hr =>
    split at h
    · obtain ⟨e, rfl, hio⟩ | ⟨found, t₁, t₂, heq, hio, hrest⟩ := settles_bind.mp h
      · cases settles_io.mp hio
      · obtain rfl := settles_io.mp hio
        obtain ⟨hev, rfl⟩ := List.cons.inj heq
        obtain rfl := Except.ok.inj (eq_of_heq (Sigma.mk.inj hev).2)
        exact hclaim hr hrest
    · obtain ⟨e, rfl, hio⟩ | ⟨r', t₁, t₂, heq, hio, _⟩ := settles_bind.mp h
      · cases (List.cons.inj (settles_io.mp hio)).1
      · obtain rfl := settles_io.mp hio
        cases (List.cons.inj heq).1

/-- After its opening calls a delivery is the import of the claimed order. -/
theorem Starts.imports {res : Except Thrown OrderHandlerOutcome}
    (hstarts : Starts deps message attemptCtx d opening)
    (h : Settles (handleOrderMessage deps message attemptCtx) (opening ++ t) res) :
    Settles (importClaimedOrder d) t res := by
  obtain ⟨hd, hopens⟩ := hstarts
  rename_i opening
  have hne : opening ++ t ≠ [] := by cases hopens <;> simp
  generalize htr : _ ++ t = tr at h
  cases handlerRun_of_settles h with
  | rejected ht =>
    obtain rfl | ⟨id, r, rfl, _⟩ := ht
    · cases htr
    · exact absurd (List.cons.inj htr).2 hne
  | failed => exact absurd (List.cons.inj htr).2 hne
  | @delivered msg connection t₁ _ hmsg _ _ hdeliver =>
    obtain ⟨hev, rfl⟩ := List.cons.inj htr
    have hsame : d.msg = msg := Except.ok.inj (hd.parsed.symm.trans hmsg)
    rw [hsame] at hev
    have hconnection : d.connection = connection :=
      Option.some.inj (Except.ok.inj (eq_of_heq (Sigma.mk.inj hev).2))
    obtain ⟨_, _, _, _⟩ := d
    obtain rfl := hd.deps
    obtain rfl := hd.attemptCtx
    obtain rfl := hsame
    obtain rfl := hconnection
    exact hopens.imports hdeliver

end Unique

/-- What the pipeline finds itself is at one of three stages. -/
theorem found_stage {order : ShopifyOrder} {stage : Stage} {detail : String}
    {errorClass : ErrorClass}
    (h : SettlesFrom (pipeline d) {} t (.ok (.found order stage detail errorClass)) l) :
    stage ≠ .fetch ∧ stage ≠ .externalCall := by
  obtain ⟨_, heq, _⟩ | ⟨_, _, _, _, _, heq, _, hprepare⟩ := pipeline_cases h
  · cases heq
  · cases heq
    exact prepareOrder_stage hprepare

/-- What stopped the pipeline is what it found. -/
theorem StoppedBy.eq_of_found {stage stage' : Stage} {errorClass errorClass' : ErrorClass}
    {order : ShopifyOrder} {detail : String} {rest : List Ev}
    (h : StoppedBy d (t ++ rest) stage' errorClass')
    (hrun : SettlesFrom (pipeline d) {} t (.ok (.found order stage detail errorClass)) l) :
    stage' = stage := by
  generalize hall : t ++ rest = all at h
  cases h with
  | found hrun' =>
    obtain ⟨_, heq, _⟩ := pipeline_unique hrun hrun' hall
    cases heq
    rfl
  | thrown hrun' =>
    obtain ⟨_, heq, _⟩ := pipeline_unique hrun hrun' hall
    cases heq

/-- A second report that is completed is the result of the delivery. -/
theorem parked_of_completed {res : Except Thrown OrderHandlerOutcome} {order : ShopifyOrder}
    {stage : Stage} {detail : String} {errorClass : ErrorClass} {e : Thrown} {told : Bool}
    {a c rest : List Ev}
    (hrun : SettlesFrom (pipeline d) {} t (.ok (.found order stage detail errorClass)) l)
    (hpark : ParkFails d (foundPark order stage detail errorClass) e told t')
    (harch : SettlesFrom (archiveThrown d e) l a (.ok ()) l')
    (hclass : shouldRetry (classifyHandlerError d.deps.sdk e) = false)
    (hagain : ParkSucceeds d (thrownPark d e l'.order) c)
    (h : ClaimedRun d tr res) (htr : tr = t ++ (t' ++ (a ++ (c ++ rest)))) :
    res = .ok (parkedAs d (thrownPark d e l'.order)) := by
  have hpark' : Settles (parkOutcome d (foundPark order stage detail errorClass)) t' (.error e) :=
    settles_parkOutcome.mpr (.inl ⟨e, told, rfl, hpark⟩)
  have hagain' : Settles (parkOutcome d (thrownPark d e l'.order)) c
      (.ok (parkedAs d (thrownPark d e l'.order))) := settles_parkOutcome.mpr (.inr ⟨rfl, hagain⟩)
  cases h with
  | done hrun' =>
    obtain ⟨_, heq, _⟩ := pipeline_unique hrun hrun' htr.symm
    cases heq
  | thrown hrun' =>
    obtain ⟨_, heq, _⟩ := pipeline_unique hrun hrun' htr.symm
    cases heq
  | parked hrun' hsucceeds =>
    obtain ⟨rfl, heq, rfl⟩ := pipeline_unique hrun hrun' htr.symm
    cases heq
    have hsettles := settles_parkOutcome.mpr (.inr ⟨rfl, hsucceeds⟩)
    have hends := Runs.eq_of_append hpark' hsettles (List.append_cancel_left htr.symm)
    cases hends.2
  | failed hrun' hfails hcatch =>
    obtain ⟨rfl, heq, rfl⟩ := pipeline_unique hrun hrun' htr.symm
    cases heq
    have hsettles := settles_parkOutcome.mpr (.inl ⟨_, _, rfl, hfails⟩)
    have htail := List.append_cancel_left htr.symm
    obtain ⟨rfl, heq⟩ := Runs.eq_of_append hpark' hsettles htail
    cases heq
    have htail' := List.append_cancel_left htail
    cases hcatch with
    | unreadable harch' => cases (Prod.mk.inj (Runs.eq_of_append harch harch' htail').2).1
    | routed harch' hroute =>
      rw [List.append_assoc] at htail'
      obtain ⟨rfl, heq⟩ := Runs.eq_of_append harch harch' htail'
      obtain rfl := (Prod.mk.inj heq).2
      have hcalls := List.append_cancel_left htail'
      cases hroute with
      | retried h | authFailed h | auth h =>
        rw [h] at hclass
        cases hclass
      | parkFailed _ hfails' =>
        have hsettles' := settles_parkOutcome.mpr (.inl ⟨_, _, rfl, hfails'⟩)
        cases (Runs.eq_of_append hagain' hsettles' hcalls).2
      | parked => rfl

theorem importRecords_pos (ev : Ev) (t : List Ev) (h : isImportRecord ev = true) :
    1 ≤ importRecords (ev :: t) := by
  simp [importRecords, h]

theorem parkMetrics_pos (ev : Ev) (t : List Ev) (h : isParkMetric ev = true) :
    1 ≤ parkMetrics (ev :: t) := by
  simp [parkMetrics, h]

/-- A message whose second report can be seen is not reported once. -/
theorem not_once_of_reportedAgain {deps : OrderHandlerDeps} {message : Js.Value}
    {attemptCtx : Option AttemptContext} {opening : List Ev}
    {res : Except Thrown OrderHandlerOutcome}
    (h : Settles (handleOrderMessage deps message attemptCtx) (opening ++ t) res)
    (hstarts : Starts deps message attemptCtx d opening) (hagain : ReportedAgain d t)
    (honce : ReportedOnce deps message attemptCtx (opening ++ t) res) : False := by
  obtain ⟨hrun, hpark, harch, hseen⟩ := hagain
  rename_i t₁ t₂ t₃ t₄ order stage detail errorClass l₁ l₂ e told
  have hrecord := honce.record
  have hmetric := honce.metric
  simp only [importRecords_append, parkMetrics_append, hpark.counts.1, hpark.counts.2]
    at hrecord hmetric
  cases hseen with
  | @auth key rest hclass hstore =>
    have hpos := importRecords_pos (answered (.recordError (authRecord d e key)) (.ok ())) rest
      (by simp [isImportRecord, authRecord, Delivery.errorInput])
    simp only [hstore, Bool.and_self, if_true] at hrecord
    omega
  | @recorded row key rest hclass hstore =>
    have hpos := importRecords_pos
      (answered (.recordError (parkRecord d (thrownPark d e l₂.order) key)) (.ok ())) rest
      (by simp [isImportRecord, parkRecord, Delivery.errorInput])
    rw [← List.singleton_append, importRecords_append] at hrecord
    simp only [hstore, Bool.and_self, if_true] at hrecord
    omega
  | @counted row rest hclass hstore htelemetry =>
    have hpos := parkMetrics_pos ⟨.track (parkMetric d (thrownPark d e l₂.order)), ()⟩ rest rfl
    rw [← List.singleton_append, parkMetrics_append] at hmetric
    simp only [htelemetry, Bool.and_self, if_true] at hmetric
    omega
  | completed hclass hsucceeds =>
    have hparked := parked_of_completed hrun hpark harch hclass hsucceeds
      (claimedRun_of_settles (hstarts.imports h)) rfl
    obtain ⟨d', opening', t', hstarts', heq, hstopped, _⟩ := honce.reason _ _ _ _ _ hparked
    obtain ⟨rfl, rfl⟩ := hstarts.unique hstarts' heq
    have hsame := hstopped.eq_of_found hrun
    have hstage := found_stage hrun
    rw [← hsame] at hstage
    unfold thrownPark at hstage
    dsimp only at hstage
    split at hstage
    · exact hstage.1 rfl
    · exact hstage.2 rfl

/-- A message is reported once if and only if no second report of it can be seen. -/
theorem reported_once_iff {deps : OrderHandlerDeps} {message : Js.Value}
    {attemptCtx : Option AttemptContext} {res : Except Thrown OrderHandlerOutcome}
    (h : Settles (handleOrderMessage deps message attemptCtx) tr res) :
    ReportedOnce deps message attemptCtx tr res ↔
      ∀ d opening t, Starts deps message attemptCtx d opening → tr = opening ++ t →
        ¬ ReportedAgain d t := by
  constructor
  · rintro honce d opening t hstarts rfl hagain
    exact not_once_of_reportedAgain h hstarts hagain honce
  · intro hnot
    obtain hearly | ⟨d, opening, t, hstarts, rfl, himport⟩ := handleOrderMessage_starts h
    · obtain ⟨hrecords, hmetrics⟩ := unreported_counts hearly.quiet
      exact ⟨by omega, by omega, fun _ _ _ _ _ heq => absurd heq (hearly.notParked _ _ _ _ _)⟩
    · obtain ⟨hrecords, hmetrics, hreason⟩ :=
        once_of_not_reportedAgain (claimedRun_of_settles himport) (hnot d opening t hstarts rfl)
      have hquiet := hstarts.unreported
      have hcounts := unreported_counts hquiet
      refine ⟨?_, ?_, fun connectionId orderGid stage detail errorClass heq => ?_⟩
      · rw [importRecords_append]
        omega
      · rw [parkMetrics_append]
        omega
      · obtain ⟨hstopped, hreports⟩ := hreason connectionId orderGid stage detail errorClass heq
        refine ⟨d, opening, t, hstarts, rfl, hstopped, List.forall_mem_append.mpr ⟨?_, hreports⟩⟩
        exact fun ev hev => (hquiet ev hev).reportsAs _ _

namespace Shop

/-- Services without lookup entries, and a ledger that refuses the row of a park at the mapping. -/
def unmapped : Responder where
  fails := fun
    | .upsertSyncLog input =>
      if input.parkStage = some "mapping" then some (newError "ledger write failed") else none
    | _ => none
  answers := fun
    | .resolveLookup .. => .ok none
    | c => answers c

/-- The creation of an order that cannot be mapped. -/
def unmappedRun : List Ev × Except Thrown OrderHandlerOutcome × World :=
  (handleOrderMessage deps (message none "orders/create").toJs firstDelivery.attemptCtx).run.execute
    unmapped.respond world

theorem unmappedRun_settles :
    Settles (handleOrderMessage deps (message none "orders/create").toJs firstDelivery.attemptCtx)
      unmappedRun.1 unmappedRun.2.1 :=
  (Prog.exec_execute unmapped.step_respond _ world).runs

theorem unmappedRun_reports : importRecords unmappedRun.1 = 2 ∧ parkMetrics unmappedRun.1 = 2 := by
  decide +kernel

/-- The park of an order that cannot be mapped is reported again as the failure of the ledger. -/
theorem reported_once_iff_unmapped : ∃ d opening t,
    Starts deps (message none "orders/create").toJs firstDelivery.attemptCtx d opening ∧
      unmappedRun.1 = opening ++ t ∧ ReportedAgain d t := by
  by_contra hnone
  have honce := (reported_once_iff unmappedRun_settles).mpr fun d opening t hstarts heq hagain =>
    hnone ⟨d, opening, t, hstarts, heq, hagain⟩
  have hrecord := honce.record
  rw [unmappedRun_reports.1] at hrecord
  omega

theorem reported_twice : ¬∀ (deps : OrderHandlerDeps) (message : Js.Value)
    (attemptCtx : Option AttemptContext) (tr : List Ev) (res : Except Thrown OrderHandlerOutcome),
    Settles (handleOrderMessage deps message attemptCtx) tr res →
      ReportedOnce deps message attemptCtx tr res := by
  intro hall
  have hrecord := (hall _ _ _ _ _ unmappedRun_settles).record
  rw [unmappedRun_reports.1] at hrecord
  omega

end Shop

end DpIntegrator
