import DpIntegrator.Delivery.Redelivery

/-!
# The poller and the handler

What a poll enqueues, and what becomes of the messages when they are handled. The poller
rescues the orders whose row is absent or not terminal, the handler those whose row is
absent; and an order that was once ineligible is rescued by neither.
-/

namespace DpIntegrator

open Effects

variable {A : Answers} {d : Delivery} {tr : List Ev} {w w' : World} {key : String}
  {res : Except Thrown OrderHandlerOutcome}

theorem toOption_eq_some {α : Type} {x : Except Thrown α} {a : α} (h : x.toOption = some a) :
    x = .ok a := by
  cases x with
  | error e => cases h
  | ok a => exact congrArg Except.ok (Option.some.inj h)

/-! ## Polls -/

/-- The row of the order is absent or not terminal. -/
def Missing (w : World) (parts : DedupKeyParts) : Prop :=
  ∃ key, dedupKey parts = .ok key ∧ (w.xref key).any (fun row => row.status.isTerminal) = false

section Poll

variable {deps : CatchupDeps} {config : CatchupConfig} {connectionId : String}

theorem Missing.of_xref_eq {parts : DedupKeyParts} (h : Missing w parts) (hxref : w'.xref = w.xref) :
    Missing w' parts := by
  obtain ⟨key, hkey, hrow⟩ := h
  exact ⟨key, hkey, by rwa [hxref]⟩

/-- The calls of a poll about the orders of its page. -/
inductive OrderCall : Ev → Prop
  | lookup (parts : DedupKeyParts) (r : Except Thrown (Option XrefRow)) :
      OrderCall (answered (.lookupXref parts) r)
  | enqueue (sessionId : String) (msg : OrderWebhookMessage) (r : Except Thrown Unit) :
      OrderCall (answered (.enqueue sessionId msg) r)

/-- The calls of a poll before and after those about its orders. -/
inductive PollCall : Ev → Prop
  | clock (now : ℤ) : PollCall ⟨.clock, now⟩
  | track (metric : Metric) : PollCall ⟨.track metric, ()⟩
  | find (environment : Environment) (id : String) (r : Except Thrown (Option Connection)) :
      PollCall (answered (.findConnection environment id) r)
  | getWatermark (key : WatermarkKey) (r : Except Thrown (Option SyncWatermarkRow)) :
      PollCall (answered (.getWatermark key) r)
  | setWatermark (key : WatermarkKey) (cursor : String) (r : Except Thrown Unit) :
      PollCall (answered (.setWatermark key cursor) r)
  | listFailed (connection : Connection) (since : String) (limit : ℕ) (e : Thrown) :
      PollCall (answered (.listOrdersUpdatedSince connection since limit) (.error e))

theorem OrderCall.rowOf_eq {ev : Ev} (h : OrderCall ev) : World.rowOf ev = none := by
  cases h <;> rfl

theorem PollCall.rowOf_eq {ev : Ev} (h : PollCall ev) : World.rowOf ev = none := by
  cases h <;> rfl

/-- Induction on the page: an order is looked up, and perhaps enqueued. -/
theorem enqueueMissing_calls (connection : Connection) (now : ℤ) (orders : List OrderSummary)
    (n : ℕ) :
    Issues OrderCall (enqueueMissing deps connectionId connection now orders n) := by
  induction orders generalizing n with
  | nil => exact .pure _
  | cons summary rest ih =>
    refine (issues_io (.lookup _)).bind fun existing => ?_
    by_cases hterminal : (existing.any fun row => row.status.isTerminal) = true
    · simp only [hterminal, if_true]
      exact ih n
    · simp only [hterminal]
      exact (issues_io (.enqueue _ _)).bind fun _ => ih (n + 1)

/-- What a poll enqueues for the orders of a page: exactly the missing ones. -/
structure Enqueues (deps : CatchupDeps) (connectionId : String) (connection : Connection)
    (now : ℤ) (orders : List OrderSummary) (w : World) (tr : List Ev) (succeeded : Prop) :
    Prop where
  missing : ∀ sessionId msg r, answered (.enqueue sessionId msg) r ∈ tr →
    ∃ summary ∈ orders, msg = catchupMessage deps connectionId connection now summary.id ∧
      Missing w (orderParts deps.environment connectionId summary.id)
  enqueued : succeeded → ∀ summary ∈ orders,
    Missing w (orderParts deps.environment connectionId summary.id) → ∃ sessionId r,
      answered (.enqueue sessionId
        (catchupMessage deps connectionId connection now summary.id)) r ∈ tr

/-- Induction on the page: each order is looked up, and enqueued if it is missing. -/
theorem enqueueMissing_enqueues {connection : Connection} {now : ℤ} {orders : List OrderSummary}
    {n : ℕ} {out : Except Thrown ℕ}
    (h : Settles (enqueueMissing deps connectionId connection now orders n) tr out)
    (hsteps : w.Steps tr w') :
    Enqueues deps connectionId connection now orders w tr (∃ n, out = .ok n) := by
  induction orders generalizing n tr w with
  | nil =>
    obtain ⟨rfl, rfl⟩ := settles_pure.mp h
    obtain rfl := steps_nil.mp hsteps
    exact ⟨by simp, by simp⟩
  | cons summary rest ih =>
    unfold enqueueMissing at h
    obtain ⟨e, rfl, hlookup⟩ | ⟨existing, t₁, t₂, rfl, hlookup, hrest⟩ := settles_bind.mp h
    · obtain rfl := settles_io.mp hlookup
      refine ⟨fun sessionId msg r hmem => ?_, by simp⟩
      cases List.mem_singleton.mp hmem
    obtain rfl := settles_io.mp hlookup
    obtain ⟨w₁, hstep, hrun⟩ := steps_cons.mp hsteps
    obtain ⟨key, hkey, rfl, rfl⟩ := World.Step.lookupXref_ok hstep
    have hlooked {sessionId : String} {msg : OrderWebhookMessage} {r : Except Thrown Unit}
        (hmem : answered (.enqueue sessionId msg) r ∈
          answered (.lookupXref (orderParts deps.environment connectionId summary.id))
            (.ok (w₁.xref key)) :: t₂) : answered (.enqueue sessionId msg) r ∈ t₂ := by
      obtain heq | hmem := List.mem_cons.mp hmem
      · cases heq
      · exact hmem
    split at hrest
    · next hterminal =>
      obtain ⟨hmissing, henqueued⟩ := ih hrest hrun
      refine ⟨fun sessionId msg r hmem => ?_, fun hok s hs hs' => ?_⟩
      · obtain ⟨s, hs, hmsg⟩ := hmissing sessionId msg r (hlooked hmem)
        exact ⟨s, List.mem_cons_of_mem _ hs, hmsg⟩
      obtain rfl | hs := List.mem_cons.mp hs
      · obtain ⟨key', hkey', hrow⟩ := hs'
        obtain rfl : key = key' := Except.ok.inj (hkey.symm.trans hkey')
        rw [hterminal] at hrow
        cases hrow
      · obtain ⟨sessionId, r, hmem⟩ := henqueued hok s hs hs'
        exact ⟨sessionId, r, List.mem_cons_of_mem _ hmem⟩
    · next hterminal =>
      have hsummary : Missing w₁ (orderParts deps.environment connectionId summary.id) :=
        ⟨key, hkey, by simpa using hterminal⟩
      obtain ⟨e, rfl, hput⟩ | ⟨u, t₃, t₄, rfl, hput, hrest₁⟩ := settles_bind.mp hrest
      · obtain rfl := settles_io.mp hput
        refine ⟨fun sessionId msg r hmem => ?_, by simp⟩
        cases List.mem_singleton.mp (hlooked hmem)
        exact ⟨summary, List.mem_cons_self .., rfl, hsummary⟩
      obtain rfl := settles_io.mp hput
      obtain ⟨w₂, hstep₁, hrun₁⟩ := steps_cons.mp hrun
      obtain ⟨_, rfl⟩ := World.Step.enqueue_ok hstep₁
      obtain ⟨hmissing, henqueued⟩ := ih hrest₁ hrun₁
      refine ⟨fun sessionId msg r hmem => ?_, fun hok s hs hs' => ?_⟩
      · obtain heq | hmem := List.mem_cons.mp (hlooked hmem)
        · cases heq
          exact ⟨summary, List.mem_cons_self .., rfl, hsummary⟩
        · obtain ⟨s, hs, hmsg, hmiss⟩ := hmissing sessionId msg r hmem
          exact ⟨s, List.mem_cons_of_mem _ hs, hmsg, hmiss⟩
      obtain rfl | hs := List.mem_cons.mp hs
      · exact ⟨_, _, List.mem_cons_of_mem _ (List.mem_cons_self ..)⟩
      · obtain ⟨sessionId, r, hmem⟩ := henqueued hok s hs hs'
        exact ⟨sessionId, r, List.mem_cons_of_mem _ (List.mem_cons_of_mem _ hmem)⟩

/-- A poll that lists a page issues the calls about its orders in the middle; a poll that
does not issues none. -/
inductive PollRun (deps : CatchupDeps) (connectionId : String) :
    List Ev → Except Thrown ConnectionCatchupOutcome → Prop
  | idle {t : List Ev} {out : Except Thrown ConnectionCatchupOutcome} (h : Only PollCall t) :
      PollRun deps connectionId t out
  | listed {pre t post : List Ev} {connection : Connection} {now : ℤ} {since : String}
      {limit : ℕ} {orders : List OrderSummary} {enqueued : Except Thrown ℕ}
      {out : Except Thrown ConnectionCatchupOutcome} (hpre : Only PollCall pre)
      (h : Settles (enqueueMissing deps connectionId connection now orders 0) t enqueued)
      (hpost : Only PollCall post) (hout : (∃ o, out = .ok o) → ∃ n, enqueued = .ok n) :
      PollRun deps connectionId
        (pre ++ answered (.listOrdersUpdatedSince connection since limit) (.ok orders) ::
          (t ++ post)) out

theorem pollOneConnection_runs {out : Except Thrown ConnectionCatchupOutcome}
    (h : Settles (pollOneConnection deps config connectionId) tr out) :
    PollRun deps connectionId tr out := by
  unfold pollOneConnection at h
  obtain ⟨e, rfl, hnow⟩ | ⟨now, t₁, t₂, rfl, hnow, hrest⟩ := settles_bind.mp h
  · obtain ⟨_, _, he⟩ := settles_now.mp hnow
    cases he
  obtain ⟨clock, rfl, _⟩ := settles_now.mp hnow
  obtain ⟨e, rfl, hfind⟩ | ⟨found, t₃, t₄, rfl, hfind, hrest₁⟩ := settles_bind.mp hrest
  · obtain rfl := settles_io.mp hfind
    exact .idle (.cons (.clock _) (.cons (.find _ _ _) .nil))
  obtain rfl := settles_io.mp hfind
  split at hrest₁
  · obtain ⟨rfl, rfl⟩ := settles_pure.mp hrest₁
    exact .idle (.cons (.clock _) (.cons (.find _ _ _) .nil))
  next connection =>
  obtain ⟨e, rfl, hget⟩ | ⟨existing, t₅, t₆, rfl, hget, hrest₂⟩ := settles_bind.mp hrest₁
  · obtain rfl := settles_io.mp hget
    exact .idle (.cons (.clock _) (.cons (.find _ _ _) (.cons (.getWatermark _ _) .nil)))
  obtain rfl := settles_io.mp hget
  obtain ⟨e, rfl, hlist⟩ | ⟨orders, t₇, t₈, rfl, hlist, hrest₃⟩ := settles_bind.mp hrest₂
  · obtain rfl := settles_io.mp hlist
    exact .idle (.cons (.clock _) (.cons (.find _ _ _) (.cons (.getWatermark _ _)
      (.cons (.listFailed _ _ _ _) .nil))))
  obtain rfl := settles_io.mp hlist
  have hpre : Only PollCall [⟨.clock, clock⟩, answered (.findConnection deps.environment
      connectionId) (.ok (some connection)), answered (.getWatermark _) (.ok existing)] :=
    .cons (.clock _) (.cons (.find _ _ _) (.cons (.getWatermark _ _) .nil))
  obtain ⟨e, rfl, henq⟩ | ⟨n, t₉, t₁₀, rfl, henq, hrest₄⟩ := settles_bind.mp hrest₃
  · rw [← List.append_nil t₈]
    change PollRun deps connectionId ([_, _, _] ++
      answered (.listOrdersUpdatedSince _ _ _) (.ok orders) :: (t₈ ++ [])) _
    exact .listed hpre henq .nil (by simp)
  have hpost : Only PollCall t₁₀ := by
    refine Issues.bind (issues_io (.setWatermark _ _)) (fun _ => ?_) _ _ hrest₄
    by_cases htelemetry : deps.telemetry = true
    · simp only [htelemetry, if_true]
      exact (Issues.observe fun _ => PollCall.track _).bind fun _ => .pure _
    · simp only [htelemetry]
      exact .pure _
  change PollRun deps connectionId ([_, _, _] ++
    answered (.listOrdersUpdatedSince _ _ _) (.ok orders) :: (t₉ ++ t₁₀)) _
  exact .listed hpre henq hpost fun _ => ⟨n, rfl⟩

/-- A poll writes no row. -/
theorem PollRun.rowOf_eq {out : Except Thrown ConnectionCatchupOutcome}
    (h : PollRun deps connectionId tr out) : ∀ ev ∈ tr, World.rowOf ev = none := by
  cases h with
  | idle hidle => exact fun ev hev => (hidle ev hev).rowOf_eq
  | @listed _ t _ _ _ _ _ _ _ _ hpre henq hpost =>
    have hcalls : Only OrderCall t := enqueueMissing_calls _ _ _ _ _ _ henq
    intro ev hev
    obtain hev | hev := List.mem_append.mp hev
    · exact (hpre ev hev).rowOf_eq
    obtain rfl | hev := List.mem_cons.mp hev
    · rfl
    obtain hev | hev := List.mem_append.mp hev
    · exact (hcalls ev hev).rowOf_eq
    · exact (hpost ev hev).rowOf_eq

/-- A poll that looks up a row finds it as it was before the poll. -/
theorem poll_lookup {out : Except Thrown ConnectionCatchupOutcome} {parts : DedupKeyParts}
    {found : Option XrefRow} (h : Settles (pollOneConnection deps config connectionId) tr out)
    (hsteps : w.Steps tr w') (hmem : answered (.lookupXref parts) (.ok found) ∈ tr) :
    ∃ key, dedupKey parts = .ok key ∧ found = w.xref key := by
  have hquiet := (pollOneConnection_runs h).rowOf_eq
  obtain ⟨t₁, t₂, rfl⟩ := List.append_of_mem hmem
  obtain ⟨w₁, hbefore, hrest⟩ := steps_append.mp hsteps
  obtain ⟨w₂, hlookup, _⟩ := steps_cons.mp hrest
  obtain ⟨key, hkey, hfound, _⟩ := World.Step.lookupXref_ok hlookup
  have hxref : w₁.xref = w.xref :=
    World.Steps.xref_eq hbefore fun ev hev => hquiet ev (List.mem_append_left _ hev)
  exact ⟨key, hkey, by rw [hfound, hxref]⟩

/-- A poll writes no row, and enqueues only missing orders; when it succeeds, it has
enqueued every missing order of the page that it listed. -/
theorem pollOneConnection_enqueues {out : Except Thrown ConnectionCatchupOutcome}
    (h : Settles (pollOneConnection deps config connectionId) tr out) (hsteps : w.Steps tr w') :
    w'.xref = w.xref ∧
      (∀ sessionId msg r, answered (.enqueue sessionId msg) r ∈ tr → ∃ connection now gid,
        msg = catchupMessage deps connectionId connection now gid ∧
          Missing w (orderParts deps.environment connectionId gid)) ∧
      (∀ connection since limit orders,
        answered (.listOrdersUpdatedSince connection since limit) (.ok orders) ∈ tr →
        (∃ o, out = .ok o) → ∀ summary ∈ orders,
          Missing w (orderParts deps.environment connectionId summary.id) →
          ∃ sessionId connection now r, answered (.enqueue sessionId
            (catchupMessage deps connectionId connection now summary.id)) r ∈ tr) := by
  have hquiet {t : List Ev} (h : Only PollCall t) {sessionId : String}
      {msg : OrderWebhookMessage} {r : Except Thrown Unit} :
      answered (.enqueue sessionId msg) r ∉ t := fun hmem => by cases h _ hmem
  have hunlisted {t : List Ev} (h : Only PollCall t) {connection : Connection} {since : String}
      {limit : ℕ} {orders : List OrderSummary} :
      answered (.listOrdersUpdatedSince connection since limit) (.ok orders) ∉ t :=
    fun hmem => by cases h _ hmem
  cases pollOneConnection_runs h with
  | idle hidle =>
    refine ⟨hsteps.xref_eq fun ev hev => (hidle ev hev).rowOf_eq, ?_, ?_⟩
    · intro sessionId msg r hmem
      exact (hquiet hidle hmem).elim
    · intro connection since limit orders hmem
      exact (hunlisted hidle hmem).elim
  | @listed pre t post connection now since limit orders enqueued out hpre henq hpost hout =>
    obtain ⟨w₁, hsteps₁, hrest⟩ := steps_append.mp hsteps
    obtain ⟨w₂, hlist, hrest₁⟩ := steps_cons.mp hrest
    obtain rfl := World.Step.eq_of_outside hlist rfl
    obtain ⟨w₃, hrun, hsteps₃⟩ := steps_append.mp hrest₁
    have hpreXref : w₂.xref = w.xref :=
      World.Steps.xref_eq hsteps₁ fun ev hev => (hpre ev hev).rowOf_eq
    have hpostXref : w'.xref = w₃.xref :=
      World.Steps.xref_eq hsteps₃ fun ev hev => (hpost ev hev).rowOf_eq
    have hcalls : Only OrderCall t := enqueueMissing_calls _ _ _ _ _ _ henq
    have hxref : w₃.xref = w₂.xref :=
      World.Steps.xref_eq hrun fun ev hev => (hcalls ev hev).rowOf_eq
    obtain ⟨hmissing, henqueued⟩ := enqueueMissing_enqueues henq hrun
    refine ⟨hpostXref.trans (hxref.trans hpreXref), ?_, ?_⟩
    · intro sessionId msg r hmem
      obtain hmem | hmem := List.mem_append.mp hmem
      · exact (hquiet hpre hmem).elim
      obtain heq | hmem := List.mem_cons.mp hmem
      · cases heq
      obtain hmem | hmem := List.mem_append.mp hmem
      · obtain ⟨summary, _, hmsg, hmiss⟩ := hmissing sessionId msg r hmem
        exact ⟨connection, now, summary.id, hmsg, hmiss.of_xref_eq hpreXref.symm⟩
      · exact (hquiet hpost hmem).elim
    · intro connection' since' limit' orders' hmem hok summary hsummary hmiss
      have horders : orders' = orders := by
        obtain hmem | hmem := List.mem_append.mp hmem
        · exact (hunlisted hpre hmem).elim
        obtain heq | hmem := List.mem_cons.mp hmem
        · cases heq
          rfl
        obtain hmem | hmem := List.mem_append.mp hmem
        · cases hcalls _ hmem
        · exact (hunlisted hpost hmem).elim
      subst horders
      obtain ⟨sessionId, r, hmem⟩ :=
        henqueued (hout hok) summary hsummary (hmiss.of_xref_eq hpreXref)
      exact ⟨sessionId, connection, now, r, by simp [hmem]⟩

end Poll

/-! ## Messages of the poller -/

section Rescue

variable {deps : CatchupDeps} {config : CatchupConfig} {connectionId : String}
  {connection : Connection} {now : ℤ} {gid : String}

/-- The delivery of a message of the poller is about the order that the poller missed. -/
theorem Delivery.Delivers.parts_eq
    (hd : d.Delivers (catchupMessage deps connectionId connection now gid).toJs w) :
    d.parts = orderParts deps.environment connectionId gid := by
  have hmsg := received_of_parse hd.parsed
  have henv : d.deps.environment = deps.environment := by
    have htext : d.deps.environment.text = deps.environment.text := by
      rw [← hd.environment, hmsg]
      rfl
    have hread := congrArg Environment.ofText? htext
    simpa using hread
  have hid : d.connection.connectionId = connectionId := by
    rw [hd.connectionId_eq, hmsg]
    rfl
  have hgid : d.msg.orderGid = gid := by
    rw [hmsg]
    rfl
  rw [Delivery.parts, orderParts, henv, hid, hgid]

/-- The gate lets messages of the poller through. -/
theorem Delivery.Delivers.not_live
    (hd : d.Delivers (catchupMessage deps connectionId connection now gid).toJs w) :
    d.isLiveUpdate = false := by
  rw [Delivery.isLiveUpdate, received_of_parse hd.parsed]
  rfl

theorem Missing.not_terminal {parts : DedupKeyParts} {row : XrefRow} (h : Missing w parts)
    (hkey : dedupKey parts = .ok key) (hrow : w.xref key = some row) :
    row.status = .pending ∨ row.status = .error := by
  obtain ⟨key', hkey', hany⟩ := h
  obtain rfl : key' = key := Except.ok.inj (hkey'.symm.trans hkey)
  rw [hrow] at hany
  cases hstatus : row.status <;> simp_all [XrefStatus.isTerminal]

theorem missing_of_pending {parts : DedupKeyParts} {row : XrefRow}
    (hkey : dedupKey parts = .ok key) (hrow : w.xref key = some row)
    (hstatus : row.status = .pending ∨ row.status = .error) : Missing w parts := by
  refine ⟨key, hkey, ?_⟩
  rw [hrow]
  obtain hstatus | hstatus := hstatus <;> simp [hstatus, XrefStatus.isTerminal]

/-- A message that the poller enqueued imports its order if and only if the order had no
row. Otherwise the handler answers that the order is claimed, and every later poll that
lists the order enqueues it again. -/
theorem catchup_imports_iff {out : Except Thrown ConnectionCatchupOutcome} {trPoll : List Ev}
    {sessionId : String} {msg : OrderWebhookMessage} {w₁ w₂ : World}
    (hpoll : (Activity.poll deps config connectionId).Performs w (trPoll, out) w₁)
    (henqueued : answered (.enqueue sessionId msg) (.ok ()) ∈ trPoll)
    (hd : d.Delivers msg.toJs w₁) (hkey : dedupKey d.parts = .ok key) (himp : Importable A d)
    (hhandled : (d.handling msg.toJs).Performs w₁ (tr, res) w₂) (hsmooth : Smooth A tr) :
    ((Imported d res ∧ w₂.status key = some .synced) ↔ w.xref key = none) ∧
      (w.xref key ≠ none →
        res = .ok (.alreadyClaimed d.connection.connectionId d.msg.orderGid) ∧
          ∀ trNext o w₃ connection since limit orders summary,
            (Activity.poll deps config connectionId).Performs w₂ (trNext, .ok o) w₃ →
            answered (.listOrdersUpdatedSince connection since limit) (.ok orders) ∈ trNext →
            summary ∈ orders → summary.id = d.msg.orderGid →
            ∃ sessionId msg r, answered (.enqueue sessionId msg) r ∈ trNext ∧
              msg.orderGid = d.msg.orderGid) := by
  obtain ⟨hxref, hmissing, _⟩ := pollOneConnection_enqueues hpoll.runs hpoll.steps
  obtain ⟨connection, now, gid, rfl, hmiss⟩ := hmissing _ _ _ henqueued
  have hparts := hd.parts_eq
  rw [← hparts] at hmiss
  cases hrow : w.xref key with
  | none =>
    have habsent : w₁.xref key = none := by rw [hxref, hrow]
    obtain ⟨hres, hsynced⟩ := hd.imports hkey hd.not_live himp hsmooth habsent hhandled
    exact ⟨by simp [hres, hsynced.status_eq], fun hne => absurd rfl hne⟩
  | some row =>
    have hstatus := hmiss.not_terminal hkey hrow
    have hrow₁ : w₁.xref key = some row := by rw [hxref, hrow]
    obtain ⟨hforget, _, hres⟩ := hd.held hkey hsmooth.stores hrow₁ hhandled
    have hclaimed : res = .ok (.alreadyClaimed d.connection.connectionId d.msg.orderGid) :=
      (held_iffs row hres).2.2.mpr hstatus
    refine ⟨?_, fun _ => ⟨hclaimed, ?_⟩⟩
    · constructor
      · rintro ⟨⟨_, _, _, himported⟩, _⟩
        rw [hclaimed] at himported
        cases himported
      · intro hnone
        cases hnone
    · intro trNext o w₃ connection' since limit orders summary hnext hlisted hsummary hid
      have hrow₂ : w₂.xref key = some row := by
        rw [← World.forget_xref, hforget]
        exact hrow₁
      have hmiss₂ : Missing w₂ (orderParts deps.environment connectionId summary.id) := by
        have hgid : d.msg.orderGid = gid := congrArg DedupKeyParts.sourceId hparts
        rw [hid, hgid, ← hparts]
        exact missing_of_pending hkey hrow₂ hstatus
      obtain ⟨_, _, henqueues⟩ := pollOneConnection_enqueues hnext.runs hnext.steps
      obtain ⟨sessionId, connection'', now', r, hmem⟩ :=
        henqueues _ _ _ _ hlisted ⟨o, rfl⟩ summary hsummary hmiss₂
      exact ⟨sessionId, _, r, hmem, hid⟩

end Rescue

/-! ## The poller of the shop -/

namespace Shop

def catchup : CatchupDeps where
  environment := .dev
  xrefStore := true
  watermarkStore := true
  telemetry := true

/-- The poll of the shop. -/
def poll : Activity := .poll catchup {} "conn-a"

/-- The message that the poll enqueues for the order. -/
def rescue : OrderWebhookMessage := catchupMessage catchup "conn-a" connection 0 order.id

/-- The poll, from given stores. -/
def polled (w : World) : poll.Record × World := up.perform poll w

/-- The delivery of the message that the poll enqueued. -/
def rescued (w : World) : ((delivery rescue).handling rescue.toJs).Record × World :=
  up.perform ((delivery rescue).handling rescue.toJs) (polled w).2

theorem polled_performs (w : World) :
    poll.Performs w ((polled w).1.1, (polled w).1.2) (polled w).2 := up.performs _ _

theorem rescued_performs (w : World) : ((delivery rescue).handling rescue.toJs).Performs
    (polled w).2 ((rescued w).1.1, (rescued w).1.2) (rescued w).2 := up.performs _ _

theorem rescue_enqueued : answered (.enqueue "conn-a:gid://shopify/Order/1" rescue) (.ok ()) ∈
    (polled world).1.1 := mem_of_enqueuedBy (by decide +kernel)

theorem rescue_wellFormed : rescue.WellFormed :=
  ⟨by decide, by decide, by decide, by decide, by decide +kernel, by decide +kernel⟩

theorem rescue_delivers {w : World} (hconn : w.connections = world.connections) :
    (delivery rescue).Delivers rescue.toJs (polled w).2 := by
  refine delivers rescue_wellFormed rfl rfl ?_
  exact (World.Steps.connections_eq (polled_performs w).steps).trans hconn

end Shop

/-- The order of the shop has no row, and the poller's message imports it. -/
theorem catchup_imports_iff_shop :
    (Imported (Shop.delivery Shop.rescue) (Shop.rescued Shop.world).1.2 ∧
      (Shop.rescued Shop.world).2.status Shop.key = some .synced) ↔
        Shop.world.xref Shop.key = none :=
  (catchup_imports_iff (Shop.polled_performs Shop.world)
    Shop.rescue_enqueued (Shop.rescue_delivers rfl) (Shop.dedupKey_parts rfl) (Shop.importable _)
    (Shop.rescued_performs Shop.world) (Shop.smooth rfl (by decide +kernel))).1

/-- The order of the shop is pending after a delivery failed. The poller enqueues it, and
the handler does not import it. -/
theorem poller_and_handler_disagree :
    ¬∀ (A : Answers) (d : Delivery) (deps : CatchupDeps) (config : CatchupConfig)
      (connectionId key : String) (w w₁ w₂ : World) (trPoll tr : List Ev)
      (out : Except Thrown ConnectionCatchupOutcome) (sessionId : String)
      (msg : OrderWebhookMessage) (res : Except Thrown OrderHandlerOutcome),
      (Activity.poll deps config connectionId).Performs w (trPoll, out) w₁ →
      answered (.enqueue sessionId msg) (.ok ()) ∈ trPoll → d.Delivers msg.toJs w₁ →
      dedupKey d.parts = .ok key → Importable A d →
      (d.handling msg.toJs).Performs w₁ (tr, res) w₂ → Smooth A tr →
      Imported d res ∧ w₂.status key = some .synced := by
  intro h
  have hsmooth : Smooth Shop.admits (Shop.rescued Shop.failed.2).1.1 :=
    Shop.smooth rfl (by decide +kernel)
  have hconn : Shop.failed.2.connections = Shop.world.connections :=
    Shop.failed_passes.connections_eq
  have hsynced := (h Shop.admits (Shop.delivery Shop.rescue) Shop.catchup {} "conn-a" Shop.key
    _ _ _ _ _ _ "conn-a:gid://shopify/Order/1" Shop.rescue _
    (Shop.polled_performs Shop.failed.2) (mem_of_enqueuedBy (by decide +kernel))
    (Shop.rescue_delivers hconn) (Shop.dedupKey_parts rfl) (Shop.importable _)
    (Shop.rescued_performs Shop.failed.2) hsmooth).2
  have hpending : (Shop.rescued Shop.failed.2).2.status Shop.key = some .pending := by
    decide +kernel
  simp [hpending] at hsynced

end DpIntegrator
