import DpIntegrator.Delivery.Histories

/-!
# What a poll does

A poll reads the cursor of its connection, lists a page of orders, visits them one after
another and writes the new cursor. A visit looks up the row of an order and enqueues a
message unless the row is terminal. A call that fails ends the poll.
-/

namespace DpIntegrator

open Effects

variable {deps : CatchupDeps} {config : CatchupConfig} {connectionId : String}
  {connection : Connection} {now : ℤ} {orders : List OrderSummary} {t tr : List Ev} {n k : ℕ}

/-! ## The visits -/

/-- The calls of visits to all orders of a list; `n` messages were enqueued. -/
inductive Visits (deps : CatchupDeps) (connectionId : String) (connection : Connection) (now : ℤ) :
    List OrderSummary → List Ev → ℕ → Prop
  | nil : Visits deps connectionId connection now [] [] 0
  | skipped {summary : OrderSummary} {orders : List OrderSummary} {t : List Ev} {n : ℕ}
      {row : XrefRow} (hterminal : row.status.isTerminal = true)
      (h : Visits deps connectionId connection now orders t n) :
      Visits deps connectionId connection now (summary :: orders)
        (answered (.lookupXref (orderParts deps.environment connectionId summary.id))
          (.ok (some row)) :: t) n
  | enqueued {summary : OrderSummary} {orders : List OrderSummary} {t : List Ev} {n : ℕ}
      {existing : Option XrefRow}
      (hmissing : (existing.any fun row => row.status.isTerminal) = false)
      (h : Visits deps connectionId connection now orders t n) :
      Visits deps connectionId connection now (summary :: orders)
        (answered (.lookupXref (orderParts deps.environment connectionId summary.id))
            (.ok existing) ::
          answered (.enqueue (connectionId ++ ":" ++ summary.id)
            (catchupMessage deps connectionId connection now summary.id)) (.ok ()) :: t) (n + 1)

/-- The calls of visits to the orders of a list, the last of which failed with `e`. -/
inductive Broken (deps : CatchupDeps) (connectionId : String) (connection : Connection) (now : ℤ)
    (e : Thrown) : List OrderSummary → List Ev → Prop
  | lookup {summary : OrderSummary} {orders : List OrderSummary} :
      Broken deps connectionId connection now e (summary :: orders)
        [answered (.lookupXref (orderParts deps.environment connectionId summary.id)) (.error e)]
  | enqueue {summary : OrderSummary} {orders : List OrderSummary} {existing : Option XrefRow} :
      Broken deps connectionId connection now e (summary :: orders)
        [answered (.lookupXref (orderParts deps.environment connectionId summary.id))
            (.ok existing),
          answered (.enqueue (connectionId ++ ":" ++ summary.id)
            (catchupMessage deps connectionId connection now summary.id)) (.error e)]
  | later {summary : OrderSummary} {orders : List OrderSummary} {v t : List Ev} {n : ℕ}
      (hfirst : Visits deps connectionId connection now [summary] v n)
      (h : Broken deps connectionId connection now e orders t) :
      Broken deps connectionId connection now e (summary :: orders) (v ++ t)

/-- Induction on the page. -/
theorem enqueueMissing_ends {out : Except Thrown ℕ}
    (h : Settles (enqueueMissing deps connectionId connection now orders k) t out) :
    (∃ n, Visits deps connectionId connection now orders t n ∧ out = .ok (k + n)) ∨
      ∃ e, Broken deps connectionId connection now e orders t ∧ out = .error e := by
  induction orders generalizing k t with
  | nil =>
    obtain ⟨rfl, rfl⟩ := settles_pure.mp h
    exact .inl ⟨0, .nil, rfl⟩
  | cons summary orders ih =>
    unfold enqueueMissing at h
    obtain ⟨e, rfl, hlookup⟩ | ⟨existing, t₁, t₂, rfl, hlookup, hrest⟩ := settles_bind.mp h
    · obtain rfl := settles_io.mp hlookup
      exact .inr ⟨e, .lookup, rfl⟩
    obtain rfl := settles_io.mp hlookup
    split at hrest
    · next hterminal =>
      obtain ⟨row, rfl, hrow⟩ := (Option.any_eq_true _ _).mp hterminal
      obtain ⟨n, hvisits, rfl⟩ | ⟨e, hbroken, rfl⟩ := ih hrest
      · exact .inl ⟨n, .skipped hrow hvisits, rfl⟩
      · exact .inr ⟨e, .later (.skipped hrow .nil) hbroken, rfl⟩
    · next hterminal =>
      have hmissing : (existing.any fun row => row.status.isTerminal) = false := by
        simpa using hterminal
      obtain ⟨e, rfl, hput⟩ | ⟨u, t₃, t₄, rfl, hput, hrest₁⟩ := settles_bind.mp hrest
      · obtain rfl := settles_io.mp hput
        exact .inr ⟨e, .enqueue, rfl⟩
      obtain rfl := settles_io.mp hput
      obtain ⟨n, hvisits, rfl⟩ | ⟨e, hbroken, rfl⟩ := ih hrest₁
      · exact .inl ⟨n + 1, .enqueued hmissing hvisits, by rw [Nat.add_right_comm, Nat.add_assoc]⟩
      · rw [← List.append_assoc]
        exact .inr ⟨e, .later (.enqueued hmissing .nil) hbroken, rfl⟩

/-! ## The poll -/

/-- The key of the cursor of a connection. -/
def watermarkKey (environment : Environment) (connectionId : String) : WatermarkKey where
  environment
  connectionId
  flow := catchupFlow

/-- The cursor from which a poll lists orders. -/
def fromCursor (config : CatchupConfig) (now : ℤ) (existing : Option SyncWatermarkRow) : String :=
  (existing.bind SyncWatermarkRow.lastCursor).getD
    (Js.toISOString (now - config.bootstrapLookbackHours * 3600000))

/-- The cursor that a poll writes once it has visited the orders of its page. -/
def newCursor (config : CatchupConfig) (now : ℤ) (orders : List OrderSummary) : String :=
  match orders.getLast? with
  | some last => last.updatedAt
  | none => Js.toISOString (now - config.overlapSecondsOnEmpty * 1000)

/-- The calls of a poll up to its page. -/
def listing (deps : CatchupDeps) (config : CatchupConfig) (connectionId : String)
    (connection : Connection) (now : ℤ) (existing : Option SyncWatermarkRow)
    (orders : List OrderSummary) : List Ev :=
  [⟨.clock, now⟩,
    answered (.findConnection deps.environment connectionId) (.ok (some connection)),
    answered (.getWatermark (watermarkKey deps.environment connectionId)) (.ok existing),
    answered (.listOrdersUpdatedSince connection (fromCursor config now existing) config.pageSize)
      (.ok orders)]

/-- The calls of a poll that lists no page. -/
inductive IdleCall : Ev → Prop
  | clock (now : ℤ) : IdleCall ⟨.clock, now⟩
  | find (environment : Environment) (id : String) (r : Except Thrown (Option Connection)) :
      IdleCall (answered (.findConnection environment id) r)
  | getWatermark (key : WatermarkKey) (r : Except Thrown (Option SyncWatermarkRow)) :
      IdleCall (answered (.getWatermark key) r)
  | listFailed (connection : Connection) (since : String) (limit : ℕ) (e : Thrown) :
      IdleCall (answered (.listOrdersUpdatedSince connection since limit) (.error e))

/-- How a poll ends. -/
inductive PollEnds (deps : CatchupDeps) (config : CatchupConfig) (connectionId : String) :
    List Ev → Except Thrown ConnectionCatchupOutcome → Prop
  | idle {tr : List Ev} {e : Thrown} (h : Only IdleCall tr)
      (hfailed : ∃ c, answered c (.error e) ∈ tr) :
      PollEnds deps config connectionId tr (.error e)
  | skipped {now : ℤ} : PollEnds deps config connectionId
      [⟨.clock, now⟩, answered (.findConnection deps.environment connectionId) (.ok none)]
      (.ok (.skipped connectionId))
  | broken {connection : Connection} {now : ℤ} {existing : Option SyncWatermarkRow}
      {orders : List OrderSummary} {t : List Ev} {e : Thrown}
      (h : Broken deps connectionId connection now e orders t) :
      PollEnds deps config connectionId
        (listing deps config connectionId connection now existing orders ++ t) (.error e)
  | unset {connection : Connection} {now : ℤ} {existing : Option SyncWatermarkRow}
      {orders : List OrderSummary} {t : List Ev} {n : ℕ} {e : Thrown}
      (h : Visits deps connectionId connection now orders t n) :
      PollEnds deps config connectionId
        (listing deps config connectionId connection now existing orders ++ (t ++
          [answered (.setWatermark (watermarkKey deps.environment connectionId)
            (newCursor config now orders)) (.error e)])) (.error e)
  | polled {connection : Connection} {now : ℤ} {existing : Option SyncWatermarkRow}
      {orders : List OrderSummary} {t post : List Ev} {n : ℕ}
      (h : Visits deps connectionId connection now orders t n)
      (hpost : ∀ ev ∈ post, ∃ metric, ev = ⟨.track metric, ()⟩) :
      PollEnds deps config connectionId
        (listing deps config connectionId connection now existing orders ++ (t ++
          answered (.setWatermark (watermarkKey deps.environment connectionId)
            (newCursor config now orders)) (.ok ()) :: post))
        (.ok (.polled connectionId orders.length n (fromCursor config now existing)
          (newCursor config now orders)))

theorem pollOneConnection_ends {out : Except Thrown ConnectionCatchupOutcome}
    (h : Settles (pollOneConnection deps config connectionId) tr out) :
    PollEnds deps config connectionId tr out := by
  unfold pollOneConnection at h
  obtain ⟨e, rfl, hnow⟩ | ⟨now, t₁, t₂, rfl, hnow, hrest⟩ := settles_bind.mp h
  · obtain ⟨_, _, he⟩ := settles_now.mp hnow
    cases he
  obtain ⟨clock, rfl, hclock⟩ := settles_now.mp hnow
  cases hclock
  obtain ⟨e, rfl, hfind⟩ | ⟨found, t₃, t₄, rfl, hfind, hrest₁⟩ := settles_bind.mp hrest
  · obtain rfl := settles_io.mp hfind
    exact .idle (.cons (.clock _) (.cons (.find _ _ _) .nil))
      ⟨.findConnection deps.environment connectionId, by simp⟩
  obtain rfl := settles_io.mp hfind
  split at hrest₁
  · obtain ⟨rfl, rfl⟩ := settles_pure.mp hrest₁
    exact .skipped
  next connection =>
  obtain ⟨e, rfl, hget⟩ | ⟨existing, t₅, t₆, rfl, hget, hrest₂⟩ := settles_bind.mp hrest₁
  · obtain rfl := settles_io.mp hget
    exact .idle (.cons (.clock _) (.cons (.find _ _ _) (.cons (.getWatermark _ _) .nil)))
      ⟨.getWatermark (watermarkKey deps.environment connectionId), by simp [watermarkKey]⟩
  obtain rfl := settles_io.mp hget
  obtain ⟨e, rfl, hlist⟩ | ⟨orders, t₇, t₈, rfl, hlist, hrest₃⟩ := settles_bind.mp hrest₂
  · obtain rfl := settles_io.mp hlist
    refine .idle (.cons (.clock _) (.cons (.find _ _ _) (.cons (.getWatermark _ _)
      (.cons (.listFailed _ _ _ _) .nil)))) ⟨.listOrdersUpdatedSince connection
        (fromCursor config now existing) config.pageSize, ?_⟩
    simp [fromCursor]
  obtain rfl := settles_io.mp hlist
  obtain ⟨e, rfl, hvisit⟩ | ⟨m, t₉, t₁₀, rfl, hvisit, hrest₄⟩ := settles_bind.mp hrest₃
  · obtain ⟨_, _, hok⟩ | ⟨e', hbroken, he⟩ := enqueueMissing_ends hvisit
    · cases hok
    · cases he
      exact .broken hbroken
  obtain ⟨n, hvisits, hm⟩ | ⟨e', _, he⟩ := enqueueMissing_ends hvisit
  · rw [Nat.zero_add] at hm
    cases hm
    obtain ⟨e, rfl, hset⟩ | ⟨u, t₁₁, t₁₂, rfl, hset, hrest₅⟩ := settles_bind.mp hrest₄
    · obtain rfl := settles_io.mp hset
      exact .unset hvisits
    obtain rfl := settles_io.mp hset
    by_cases htelemetry : deps.telemetry = true
    · simp only [htelemetry, if_true] at hrest₅
      obtain ⟨e, rfl, htrack⟩ | ⟨_, t₁₃, t₁₄, rfl, htrack, hret⟩ := settles_bind.mp hrest₅
      · obtain ⟨_, he⟩ := settles_track.mp htrack
        cases he
      obtain ⟨rfl, _⟩ := settles_track.mp htrack
      obtain ⟨rfl, rfl⟩ := settles_pure.mp hret
      refine .polled hvisits fun ev hev => ?_
      obtain rfl := List.mem_singleton.mp hev
      exact ⟨_, rfl⟩
    · simp only [htelemetry] at hrest₅
      obtain ⟨rfl, rfl⟩ := settles_pure.mp hrest₅
      exact .polled hvisits (by simp)
  · cases he

/-! ## What is enqueued -/

theorem Visits.of_mem_enqueue {sessionId : String} {msg : OrderWebhookMessage}
    {r : Except Thrown Unit} (h : Visits deps connectionId connection now orders t n)
    (hmem : answered (.enqueue sessionId msg) r ∈ t) :
    ∃ summary ∈ orders, sessionId = connectionId ++ ":" ++ summary.id ∧
      msg = catchupMessage deps connectionId connection now summary.id ∧ ∃ existing,
        answered (.lookupXref (orderParts deps.environment connectionId summary.id))
          (.ok existing) ∈ t := by
  induction h with
  | nil => cases hmem
  | skipped _ _ ih =>
    obtain heq | hmem := List.mem_cons.mp hmem
    · cases heq
    obtain ⟨summary, hs, hid, hmsg, existing, hlookup⟩ := ih hmem
    exact ⟨summary, List.mem_cons_of_mem _ hs, hid, hmsg, existing, List.mem_cons_of_mem _ hlookup⟩
  | enqueued _ _ ih =>
    obtain heq | hmem := List.mem_cons.mp hmem
    · cases heq
    obtain heq | hmem := List.mem_cons.mp hmem
    · cases heq
      exact ⟨_, List.mem_cons_self .., rfl, rfl, _, List.mem_cons_self ..⟩
    obtain ⟨summary, hs, hid, hmsg, existing, hlookup⟩ := ih hmem
    exact ⟨summary, List.mem_cons_of_mem _ hs, hid, hmsg, existing,
      List.mem_cons_of_mem _ (List.mem_cons_of_mem _ hlookup)⟩

theorem Broken.of_mem_enqueue {sessionId : String} {msg : OrderWebhookMessage} {e : Thrown}
    {r : Except Thrown Unit} (h : Broken deps connectionId connection now e orders t)
    (hmem : answered (.enqueue sessionId msg) r ∈ t) :
    ∃ summary ∈ orders, sessionId = connectionId ++ ":" ++ summary.id ∧
      msg = catchupMessage deps connectionId connection now summary.id ∧ ∃ existing,
        answered (.lookupXref (orderParts deps.environment connectionId summary.id))
          (.ok existing) ∈ t := by
  induction h with
  | lookup =>
    obtain heq | hmem := List.mem_cons.mp hmem
    · cases heq
    · cases hmem
  | enqueue =>
    obtain heq | hmem := List.mem_cons.mp hmem
    · cases heq
    cases List.mem_singleton.mp hmem
    exact ⟨_, List.mem_cons_self .., rfl, rfl, _, List.mem_cons_self ..⟩
  | later hfirst _ ih =>
    obtain hmem | hmem := List.mem_append.mp hmem
    · obtain ⟨summary, hs, hid, hmsg, existing, hlookup⟩ := hfirst.of_mem_enqueue hmem
      obtain rfl := List.mem_singleton.mp hs
      exact ⟨_, List.mem_cons_self .., hid, hmsg, existing, List.mem_append_left _ hlookup⟩
    · obtain ⟨summary, hs, hid, hmsg, existing, hlookup⟩ := ih hmem
      exact ⟨summary, List.mem_cons_of_mem _ hs, hid, hmsg, existing,
        List.mem_append_right _ hlookup⟩

end DpIntegrator
