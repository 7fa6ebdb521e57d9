import DpIntegrator.Delivery.Polls

/-!
# Cursors and observed orders

Only a poll that has visited all orders of its page writes the cursor of its connection. A
poll observes an order when it lists it and then enqueues it, or finds that its row needs no
rescue.
-/

namespace DpIntegrator

open Effects

variable {deps : CatchupDeps} {config : CatchupConfig} {connectionId : String}
  {connection : Connection} {now : ℤ} {existing : Option SyncWatermarkRow}
  {orders : List OrderSummary} {o : OrderSummary} {t tr : List Ev} {n : ℕ} {w w' : World}

/-! ## Writing the cursor -/

theorem World.Step.setWatermark_ok {parts : WatermarkKey} {cursor : String} {u : Unit}
    (h : World.Step (.io (.setWatermark parts cursor)) w (.ok u) w') :
    ∃ now, w' = { w with watermarks := w.watermarks.set parts cursor now } := by
  obtain ⟨now, h⟩ := h.served_of_ok rfl
  simp only [serve, Option.some.injEq, Prod.mk.injEq] at h
  exact ⟨now, h.2.symm⟩

theorem World.Step.getWatermark_ok {parts : WatermarkKey} {found : Option SyncWatermarkRow}
    (h : World.Step (.io (.getWatermark parts)) w (.ok found) w') :
    found = w.watermarks parts.text ∧ w' = w := by
  obtain ⟨now, h⟩ := h.served_of_ok rfl
  simp only [serve, Option.some.injEq, Prod.mk.injEq, Except.ok.injEq] at h
  exact ⟨h.1.symm, h.2.symm⟩

/-- Only writing a cursor changes the cursors. -/
theorem World.Step.watermarks_eq {ev : Ev} (h : World.Step ev.1 w ev.2 w')
    (hset : ∀ parts cursor u, ev ≠ answered (.setWatermark parts cursor) (.ok u)) :
    w'.watermarks = w.watermarks := by
  obtain ⟨o, r⟩ := ev
  cases o with
  | clock | track => cases h; rfl
  | io c =>
    cases r with
    | error e => rw [h.eq_of_error]
    | ok r =>
      cases c
      case setWatermark parts cursor => exact absurd rfl (hset parts cursor r)
      all_goals first
        | rw [h.eq_of_outside rfl]
        | (obtain ⟨now, h⟩ := h.served_of_ok rfl
           simp only [serve, Option.some.injEq, Prod.mk.injEq] at h
           obtain rfl := h.2
           rfl)
        | (obtain ⟨now, h⟩ := h.served_of_ok rfl
           obtain ⟨rows, _, rfl⟩ := storeXref_eq_ok (Option.some.inj h)
           rfl)

theorem World.Steps.watermarks_eq (h : w.Steps tr w')
    (hset : ∀ parts cursor u, answered (.setWatermark parts cursor) (.ok u) ∉ tr) :
    w'.watermarks = w.watermarks :=
  Effects.Steps.frame h fun _ hev _ _ hs => World.Step.watermarks_eq hs fun parts cursor u heq =>
    hset parts cursor u (heq ▸ hev)

/-- The cursor that is stored in a row. -/
def Stored (w : World) (key : WatermarkKey) (cursor : String) : Prop :=
  ∃ row, w.watermarks key.text = some row ∧ row.lastCursor = some cursor

theorem Stored.unique {key : WatermarkKey} {c c' : String} (h : Stored w key c)
    (h' : Stored w key c') : c = c' := by
  obtain ⟨row, hrow, hc⟩ := h
  obtain ⟨row', hrow', hc'⟩ := h'
  obtain rfl := Option.some.inj (hrow.symm.trans hrow')
  exact Option.some.inj (hc.symm.trans hc')

theorem Stored.of_eq {key : WatermarkKey} {c : String} (h : Stored w key c)
    (heq : w'.watermarks key.text = w.watermarks key.text) : Stored w' key c := by
  obtain ⟨row, hrow, hc⟩ := h
  exact ⟨row, heq.trans hrow, hc⟩

theorem World.Step.stored {key : WatermarkKey} {cursor : String} {u : Unit}
    (h : World.Step (.io (.setWatermark key cursor)) w (.ok u) w') : Stored w' key cursor := by
  obtain ⟨now, rfl⟩ := h.setWatermark_ok
  exact ⟨_, Function.update_self .., rfl⟩

/-- A stored cursor is where the next poll starts. -/
theorem fromCursor_of_stored {key : WatermarkKey} {cursor : String} (h : Stored w key cursor) :
    fromCursor config now (w.watermarks key.text) = cursor := by
  obtain ⟨row, hrow, hcursor⟩ := h
  simp [fromCursor, hrow, hcursor]

/-- A poll reads the cursor that was stored before it. -/
theorem listing_existing {rest : List Ev}
    (h : w.Steps (listing deps config connectionId connection now existing orders ++ rest) w') :
    existing = w.watermarks (watermarkKey deps.environment connectionId).text := by
  obtain ⟨w₁, hclock, hrest⟩ := steps_cons.mp h
  obtain ⟨w₂, hfind, hrest₁⟩ := steps_cons.mp hrest
  obtain ⟨w₃, hget, _⟩ := steps_cons.mp hrest₁
  obtain ⟨_, rfl⟩ := World.Step.findConnection_ok hfind
  cases hclock
  exact hget.getWatermark_ok.1

/-! ## Observing orders -/

/-- The time at which an order was last updated. -/
def OrderSummary.time (read : String → ℤ) (o : OrderSummary) : ℤ := read o.updatedAt

/-- A poll that enqueued the order, or found its row terminal. -/
def Attended (deps : CatchupDeps) (connectionId orderGid : String) (tr : List Ev) : Prop :=
  (∃ msg, msg.orderGid = orderGid ∧
    answered (.enqueue (connectionId ++ ":" ++ orderGid) msg) (.ok ()) ∈ tr) ∨
  ∃ row, row.status.isTerminal = true ∧
    answered (.lookupXref (orderParts deps.environment connectionId orderGid)) (.ok (some row)) ∈ tr

/-- A poll that listed the order at its version, and attended to it. -/
def Observes (deps : CatchupDeps) (connectionId : String) (tr : List Ev) (o : OrderSummary) :
    Prop :=
  (∃ connection since limit orders,
    answered (.listOrdersUpdatedSince connection since limit) (.ok orders) ∈ tr ∧ o ∈ orders) ∧
  Attended deps connectionId o.id tr

theorem Attended.mono {orderGid : String} (h : Attended deps connectionId orderGid t)
    (hsub : t ⊆ tr) : Attended deps connectionId orderGid tr := by
  obtain ⟨msg, hgid, hmem⟩ | ⟨row, hterminal, hmem⟩ := h
  · exact .inl ⟨msg, hgid, hsub hmem⟩
  · exact .inr ⟨row, hterminal, hsub hmem⟩

/-- Every order of the page is attended to. Induction on the visits. -/
theorem Visits.attended (h : Visits deps connectionId connection now orders t n) (ho : o ∈ orders) :
    Attended deps connectionId o.id t := by
  induction h with
  | nil => cases ho
  | @skipped summary orders t n row hterminal _ ih =>
    obtain rfl | ho := List.mem_cons.mp ho
    · exact .inr ⟨row, hterminal, List.mem_cons_self ..⟩
    · exact (ih ho).mono (List.subset_cons_self ..)
  | @enqueued summary orders t n existing hmissing _ ih =>
    obtain rfl | ho := List.mem_cons.mp ho
    · exact .inl ⟨_, rfl, List.mem_cons_of_mem _ (List.mem_cons_self ..)⟩
    · apply (ih ho).mono
      intro ev hev
      exact List.mem_cons_of_mem _ (List.mem_cons_of_mem _ hev)

theorem Visits.observes {post : List Ev} (h : Visits deps connectionId connection now orders t n)
    (ho : o ∈ orders) : Observes deps connectionId
      (listing deps config connectionId connection now existing orders ++ (t ++ post)) o := by
  constructor
  · exact ⟨connection, fromCursor config now existing, config.pageSize, orders,
      by simp [listing], ho⟩
  · apply (h.attended ho).mono
    intro ev hev
    exact List.mem_append_right _ (List.mem_append_left _ hev)

/-! ## The polls that store a cursor -/

/-- A poll that wrote its cursor. -/
def Stores (deps : CatchupDeps) (connectionId : String) (tr : List Ev) : Prop :=
  ∃ cursor, answered (.setWatermark (watermarkKey deps.environment connectionId) cursor) (.ok ()) ∈ tr

theorem Visits.not_set {parts : WatermarkKey} {cursor : String} {r : Except Thrown Unit}
    (h : Visits deps connectionId connection now orders t n) :
    answered (.setWatermark parts cursor) r ∉ t := by
  induction h with
  | nil => simp
  | skipped _ _ ih => simp [ih]
  | enqueued _ _ ih => simp [ih]

theorem Visits.not_listed {connection' : Connection} {since : String} {limit : ℕ}
    {r : Except Thrown (List OrderSummary)}
    (h : Visits deps connectionId connection now orders t n) :
    answered (.listOrdersUpdatedSince connection' since limit) r ∉ t := by
  induction h with
  | nil => simp
  | skipped _ _ ih => simp [ih]
  | enqueued _ _ ih => simp [ih]

/-- A poll that writes its cursor lists one page. -/
theorem Visits.listed_eq {connection' : Connection} {since cursor : String} {limit : ℕ}
    {page : List OrderSummary} {parts : WatermarkKey} {r : Except Thrown Unit} {post : List Ev}
    (h : Visits deps connectionId connection now orders t n)
    (hpost : ∀ ev ∈ post, ∃ metric, ev = ⟨.track metric, ()⟩)
    (hmem : answered (.listOrdersUpdatedSince connection' since limit) (.ok page) ∈
      listing deps config connectionId connection now existing orders ++ (t ++
        answered (.setWatermark parts cursor) r :: post)) :
    since = fromCursor config now existing ∧ page = orders := by
  obtain hmem | hmem := List.mem_append.mp hmem
  · have heq : answered (.listOrdersUpdatedSince connection' since limit) (.ok page) =
        answered (.listOrdersUpdatedSince connection (fromCursor config now existing)
          config.pageSize) (.ok orders) := by simpa [listing] using hmem
    cases heq
    exact ⟨rfl, rfl⟩
  · obtain hmem | hmem := List.mem_append.mp hmem
    · exact absurd hmem h.not_listed
    · obtain heq | hmem := List.mem_cons.mp hmem
      · cases heq
      · obtain ⟨_, heq⟩ := hpost _ hmem
        cases heq

theorem Broken.not_set {parts : WatermarkKey} {cursor : String} {r : Except Thrown Unit} {e : Thrown}
    (h : Broken deps connectionId connection now e orders t) :
    answered (.setWatermark parts cursor) r ∉ t := by
  induction h with
  | lookup | enqueue => simp
  | later hfirst _ ih => simp [hfirst.not_set, ih]

theorem listing_not_set {parts : WatermarkKey} {cursor : String} {r : Except Thrown Unit} :
    answered (.setWatermark parts cursor) r ∉
      listing deps config connectionId connection now existing orders := by simp [listing]

/-- A poll writes a cursor only after it has visited its page, and only its own cursor. -/
theorem PollEnds.of_mem_set {out : Except Thrown ConnectionCatchupOutcome} {parts : WatermarkKey}
    {cursor : String} {u : Unit} (h : PollEnds deps config connectionId tr out)
    (hmem : answered (.setWatermark parts cursor) (.ok u) ∈ tr) :
    parts = watermarkKey deps.environment connectionId ∧
      ∃ connection now existing orders t n post,
        tr = listing deps config connectionId connection now existing orders ++ (t ++
          answered (.setWatermark parts cursor) (.ok ()) :: post) ∧
        cursor = newCursor config now orders ∧
        Visits deps connectionId connection now orders t n ∧
        ∀ ev ∈ post, ∃ metric, ev = ⟨.track metric, ()⟩ := by
  cases h with
  | idle hidle => cases hidle _ hmem
  | skipped => simp at hmem
  | broken h =>
    have hlater := (List.mem_append.mp hmem).resolve_left listing_not_set
    exact absurd hlater h.not_set
  | unset h =>
    have hlater := (List.mem_append.mp hmem).resolve_left listing_not_set
    obtain hmem | hmem := List.mem_append.mp hlater
    · exact absurd hmem h.not_set
    · cases List.mem_singleton.mp hmem
  | @polled connection now existing orders t post n h hpost =>
    have hlater := (List.mem_append.mp hmem).resolve_left listing_not_set
    obtain hmem | hmem := List.mem_append.mp hlater
    · exact absurd hmem h.not_set
    · obtain heq | hmem := List.mem_cons.mp hmem
      · cases heq
        exact ⟨rfl, connection, now, existing, orders, t, n, post, rfl, rfl, h, hpost⟩
      · obtain ⟨_, hmetric⟩ := hpost _ hmem
        cases hmetric

end DpIntegrator
