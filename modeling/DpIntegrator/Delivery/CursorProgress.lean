import DpIntegrator.Paging.Walk
import DpIntegrator.Delivery.CursorSafety
import DpIntegrator.Delivery.Import

/-!
# Polls that succeed walk through the orders

While the orders stay as they are, every poll lists them from the last version that the poll
before listed. So polls walk through the orders as pages do, and are stuck where pages are: at
a page that is full of orders which share one version.
-/

namespace DpIntegrator

open Effects

variable {A : Answers} {read : String → ℤ} {deps : CatchupDeps} {config : CatchupConfig}
  {connectionId since : String} {shop page : List OrderSummary} {o : OrderSummary} {tr : List Ev}
  {w w' : World} {history : History}

/-! ## What the handler leaves alone -/

/-- Besides looking up a connection the handler makes no main calls but those of a delivery. -/
theorem handle_main_call {hdeps : OrderHandlerDeps} {message : Js.Value}
    {attemptCtx : Option AttemptContext} {res : Except Thrown OrderHandlerOutcome} {c : Call}
    {r : Except Thrown c.Ret} (h : Settles (handleOrderMessage hdeps message attemptCtx) tr res)
    (hmem : answered c r ∈ tr) (hbest : c.isBestEffort = false) (hprep : c.isPreparatory = false) :
    (∃ environment id, c = .findConnection environment id) ∨ ∃ d, MainCall d (answered c r) := by
  cases handlerRun_of_settles h with
  | rejected ht =>
    obtain rfl | ⟨id, r', rfl, _⟩ := ht
    · cases hmem
    · cases List.mem_singleton.mp hmem
      exact .inl ⟨_, _, rfl⟩
  | failed id e =>
    cases List.mem_singleton.mp hmem
    exact .inl ⟨_, _, rfl⟩
  | delivered _ _ _ hdeliver =>
    obtain heq | hmem := List.mem_cons.mp hmem
    · cases heq
      exact .inl ⟨_, _, rfl⟩
    · right
      exact ⟨_, (deliver_exit hdeliver).main_calls _ (mem_main hbest hprep hmem)⟩

/-- The handler neither writes cursors nor lists orders. -/
theorem handle_quiet {hdeps : OrderHandlerDeps} {message : Js.Value}
    {attemptCtx : Option AttemptContext} {res : Except Thrown OrderHandlerOutcome}
    (h : Settles (handleOrderMessage hdeps message attemptCtx) tr res) :
    (∀ parts cursor r, answered (.setWatermark parts cursor) r ∉ tr) ∧
      ∀ connection since limit r, answered (.listOrdersUpdatedSince connection since limit) r ∉ tr := by
  constructor
  · intro parts cursor r hmem
    obtain ⟨_, _, hc⟩ | ⟨d, hmain⟩ := handle_main_call h hmem rfl rfl
    · cases hc
    · cases hmain with
      | side hside => cases hside
      | preparatory hprep => cases hprep
  · intro connection since limit r hmem
    obtain ⟨_, _, hc⟩ | ⟨d, hmain⟩ := handle_main_call h hmem rfl rfl
    · cases hc
    · cases hmain with
      | side hside => cases hside
      | preparatory hprep => cases hprep

/-! ## Histories of polls -/

def Activity.isPoll : Activity → Bool
  | poll .. => true
  | handle .. | replay .. => false

/-- A poll of the connection whose calls all succeeded, or the handling of a message. -/
inductive PollOrHandling (A : Answers) (deps : CatchupDeps) (config : CatchupConfig)
    (connectionId : String) : Event Activity Activity.Record → Prop
  | poll {tr : List Ev} {out : Except Thrown ConnectionCatchupOutcome} (hsmooth : Smooth A tr) :
      PollOrHandling A deps config connectionId ⟨.poll deps config connectionId, (tr, out)⟩
  | handling {hdeps : OrderHandlerDeps} {message : Js.Value} {attemptCtx : Option AttemptContext}
      {r : (Activity.handle hdeps message attemptCtx).Record} :
      PollOrHandling A deps config connectionId ⟨.handle hdeps message attemptCtx, r⟩

/-- The cursor from which the first poll of a history lists. -/
inductive FirstCursor : History → String → Prop
  | poll {deps : CatchupDeps} {config : CatchupConfig} {connectionId since : String}
      {connection : Connection} {limit : ℕ} {page : List OrderSummary} {tr : List Ev}
      {out : Except Thrown ConnectionCatchupOutcome} {history : History}
      (hmem : answered (.listOrdersUpdatedSince connection since limit) (.ok page) ∈ tr) :
      FirstCursor (⟨.poll deps config connectionId, (tr, out)⟩ :: history) since
  | handling {deps : OrderHandlerDeps} {message : Js.Value} {attemptCtx : Option AttemptContext}
      {since : String} {r : (Activity.handle deps message attemptCtx).Record} {history : History}
      (h : FirstCursor history since) :
      FirstCursor (⟨.handle deps message attemptCtx, r⟩ :: history) since

/-- A poll of the history observed the order at its version. -/
def Observed (deps : CatchupDeps) (connectionId : String) (history : History) (o : OrderSummary) :
    Prop := ∃ ev ∈ history, Observes deps connectionId ev.2.1 o

/-- What a poll whose calls all succeed did. -/
structure SmoothPoll (deps : CatchupDeps) (config : CatchupConfig) (connectionId : String)
    (w : World) (tr : List Ev) (w' : World) (since : String) (page : List OrderSummary) : Prop where
  stored_before : ∀ cursor, Stored w (watermarkKey deps.environment connectionId) cursor →
    since = cursor
  stored_after : ∃ cursor, Stored w' (watermarkKey deps.environment connectionId) cursor ∧
    ∀ last, page.getLast? = some last → cursor = last.updatedAt
  listed : ∃ connection,
    answered (.listOrdersUpdatedSince connection since config.pageSize) (.ok page) ∈ tr
  only : ∀ connection since' limit page',
    answered (.listOrdersUpdatedSince connection since' limit) (.ok page') ∈ tr →
    since' = since ∧ page' = page
  observes : ∀ o ∈ page, Observes deps connectionId tr o

theorem Broken.not_smooth {connection : Connection} {now : ℤ} {e : Thrown}
    {orders : List OrderSummary} {t : List Ev} (h : Broken deps connectionId connection now e orders t) :
    ¬Smooth A t := by
  intro hsmooth
  induction h with
  | lookup => exact hsmooth.head_ne_error
  | enqueue => exact hsmooth.tail.head_ne_error
  | later _ _ ih => exact ih hsmooth.right

/-- A poll of a connection that is there, whose calls all succeed, lists a page, observes every
order of it and stores the version of the last one. -/
theorem exists_smoothPoll {out : Except Thrown ConnectionCatchupOutcome}
    (h : (Activity.poll deps config connectionId).Performs w (tr, out) w') (hsmooth : Smooth A tr)
    (hfound : w.findById deps.environment connectionId ≠ none) :
    ∃ since page, SmoothPoll deps config connectionId w tr w' since page := by
  have hsteps : w.Steps tr w' := h.steps
  have hends : PollEnds deps config connectionId tr out := pollOneConnection_ends h.runs
  clear h
  cases hends with
  | idle _ hfailed =>
    obtain ⟨c, hmem⟩ := hfailed
    exact (hsmooth.succeed c _ hmem).elim
  | skipped =>
    obtain ⟨w₁, hclock, hrest⟩ := steps_cons.mp hsteps
    obtain ⟨w₂, hfind, _⟩ := steps_cons.mp hrest
    obtain ⟨hnone, _⟩ := World.Step.findConnection_ok hfind
    cases hclock
    exact absurd hnone.symm hfound
  | broken hbroken => exact (hbroken.not_smooth hsmooth.right).elim
  | unset => exact hsmooth.right.right.head_ne_error.elim
  | @polled connection now existing page t post n hvisits hpost =>
    obtain ⟨w₁, _, hrest⟩ := steps_append.mp hsteps
    obtain ⟨w₂, _, hrest₁⟩ := steps_append.mp hrest
    obtain ⟨w₃, hset, hafter⟩ := steps_cons.mp hrest₁
    have hread : existing = w.watermarks (watermarkKey deps.environment connectionId).text :=
      listing_existing hsteps
    have hkept : w'.watermarks = w₃.watermarks := by
      refine World.Steps.watermarks_eq hafter fun parts cursor u hmem => ?_
      obtain ⟨_, heq⟩ := hpost _ hmem
      cases heq
    refine ⟨fromCursor config now existing, page, ?_⟩
    constructor
    · intro cursor hstored
      rw [hread]
      exact fromCursor_of_stored hstored
    · refine ⟨newCursor config now page, hset.stored.of_eq (congrFun hkept _), fun last hlast => ?_⟩
      simp [newCursor, hlast]
    · exact ⟨connection, by simp [listing]⟩
    · intro connection' since' limit page' hmem
      exact hvisits.listed_eq hpost hmem
    · intro o ho
      exact hvisits.observes ho

theorem observed_cons {ev : Event Activity Activity.Record} :
    Observed deps connectionId (ev :: history) o ↔
      Observes deps connectionId ev.2.1 o ∨ Observed deps connectionId history o := by
  simp [Observed]

/-- The polls of a history walk through the pages that are listed, and observe exactly the
orders on them. Induction on the history: a poll lists from the cursor that the poll before
stored, and handling a message leaves the cursor alone. -/
theorem exists_walk (lists : ℤ → List OrderSummary → Prop)
    (hlist : ∀ connection since page,
      A (.listOrdersUpdatedSince connection since config.pageSize) page → lists (read since) page)
    (h : w.Passes history w') (hfound : w.findById deps.environment connectionId ≠ none)
    (hevents : ∀ ev ∈ history, PollOrHandling A deps config connectionId ev) :
    ∃ pages : List (List OrderSummary), pages.length = history.countP (fun ev => ev.1.isPoll) ∧
      (∀ cursor, Stored w (watermarkKey deps.environment connectionId) cursor →
        Paging.Walk lists (OrderSummary.time read) (read cursor) pages) ∧
      (∀ since, FirstCursor history since →
        Paging.Walk lists (OrderSummary.time read) (read since) pages) ∧
      ∀ o, Observed deps connectionId history o ↔ ∃ page ∈ pages, o ∈ page := by
  induction h with
  | nil =>
    refine ⟨[], rfl, fun _ _ => .nil, ?_, fun o => by simp [Observed]⟩
    intro since hfirst
    cases hfirst
  | @cons a r w w₁ w' history hperforms _ ih =>
    have hconn : w₁.connections = w.connections := World.Steps.connections_eq hperforms.steps
    have hfound₁ : w₁.findById deps.environment connectionId ≠ none := by
      rw [World.findById, hconn]
      exact hfound
    obtain ⟨pages, hlength, hstored, hfirst, hobserved⟩ :=
      ih hfound₁ fun ev hev => hevents ev (List.mem_cons_of_mem _ hev)
    have hevent := hevents _ (List.mem_cons_self ..)
    cases hevent with
    | @poll tr out hsmooth =>
      obtain ⟨since, page, hpoll⟩ := exists_smoothPoll hperforms hsmooth hfound
      obtain ⟨connection, hlisted⟩ := hpoll.listed
      obtain ⟨cursor, hafter, hlast⟩ := hpoll.stored_after
      have hpage : lists (read since) page :=
        hlist connection since page (hsmooth.admitted _ _ rfl hlisted)
      have hwalk : Paging.Walk lists (OrderSummary.time read) (read since) (page :: pages) := by
        refine .cons hpage (fun last h => ?_) (hstored cursor hafter)
        rw [hlast last h, OrderSummary.time]
      refine ⟨page :: pages, ?_, ?_, ?_, fun o => ?_⟩
      · simp [hlength, Activity.isPoll]
      · intro before hbefore
        rwa [← hpoll.stored_before before hbefore]
      · intro since' hsince'
        cases hsince' with
        | poll hmem => rwa [(hpoll.only _ _ _ _ hmem).1]
      · rw [observed_cons, hobserved, List.exists_mem_cons_iff]
        refine or_congr_left ⟨?_, hpoll.observes o⟩
        intro hobs
        obtain ⟨⟨connection', since', limit, page', hmem, ho⟩, _⟩ := hobs
        rwa [(hpoll.only _ _ _ _ hmem).2] at ho
    | @handling hdeps message attemptCtx r =>
      have hruns : Settles (handleOrderMessage hdeps message attemptCtx) r.1 r.2 := hperforms.runs
      obtain ⟨hset, hlists⟩ := handle_quiet hruns
      have hkept : w₁.watermarks = w.watermarks :=
        World.Steps.watermarks_eq hperforms.steps fun parts cursor u => hset parts cursor _
      refine ⟨pages, ?_, ?_, ?_, fun o => ?_⟩
      · simp [hlength, Activity.isPoll]
      · intro before hbefore
        exact hstored before (hbefore.of_eq (congrFun hkept _))
      · intro since' hsince'
        cases hsince' with
        | handling hrest => exact hfirst since' hrest
      · rw [observed_cons, hobserved]
        refine or_iff_right fun hobs => ?_
        obtain ⟨⟨connection', since', limit, page', hmem, _⟩, _⟩ := hobs
        exact hlists _ _ _ _ hmem

/-- While the orders stay, as many polls as there are orders observe those from the first cursor
on if and only if no page can be filled by orders that share a time and are not the last. -/
theorem polls_observe_all_iff
    (hsorted : shop.Pairwise fun a b => a.time read ≤ b.time read) (hnodup : shop.Nodup)
    (hsize : 0 < config.pageSize)
    (hlist : ∀ connection since page,
      A (.listOrdersUpdatedSince connection since config.pageSize) page →
        page = Paging.pageOf (OrderSummary.time read) shop (read since) config.pageSize)
    (h : w.Passes history w') (hfound : w.findById deps.environment connectionId ≠ none)
    (hevents : ∀ ev ∈ history, PollOrHandling A deps config connectionId ev)
    (hpolls : shop.length ≤ history.countP fun ev => ev.1.isPoll)
    (hfirst : FirstCursor history since) :
    (∀ o ∈ shop, read since ≤ o.time read → Observed deps connectionId history o) ↔
      Paging.Passable (OrderSummary.time read) shop (read since) config.pageSize := by
  obtain ⟨pages, hlength, _, hwalk, hobserved⟩ := exists_walk
    (fun since page => page = Paging.pageOf (OrderSummary.time read) shop since config.pageSize)
    hlist h hfound hevents
  rw [← (hwalk since hfirst).covers_iff hsorted hnodup hsize (by omega)]
  refine forall_congr' fun o => ?_
  rw [hobserved]

/-! ## Polls of the shop -/

/-- Run an activity some times. -/
def Responder.times (s : Responder) (a : Activity) : ℕ → World → History × World
  | 0, w => ([], w)
  | n + 1, w =>
    let (r, w₁) := s.perform a w
    let (history, w') := s.times a n w₁
    (⟨a, r⟩ :: history, w')

theorem Responder.times_passes (s : Responder) (a : Activity) (n : ℕ) (w : World) :
    w.Passes (s.times a n w).1 (s.times a n w).2 := by
  induction n generalizing w with
  | zero => exact .nil w
  | succ n ih => exact .cons (s.performs a w) (ih _)

/-- Polls none of whose calls failed. -/
theorem Responder.times_polls {s : Responder} {n : ℕ}
    (hok : ∀ ev ∈ History.calls (s.times (.poll deps config connectionId) n w).1,
      isFailedCall ev = false) :
    ∀ ev ∈ (s.times (.poll deps config connectionId) n w).1,
      PollOrHandling (fun c value => s.answers c = .ok value) deps config connectionId ev := by
  induction n generalizing w with
  | zero => simp [times]
  | succ n ih =>
    intro ev hev
    have hcalls : History.calls (s.times (.poll deps config connectionId) (n + 1) w).1 =
        (s.perform (.poll deps config connectionId) w).1.1 ++
          History.calls (s.times (.poll deps config connectionId) n
            (s.perform (.poll deps config connectionId) w).2).1 := History.calls_cons ..
    rw [hcalls] at hok
    obtain rfl | hev := List.mem_cons.mp hev
    · exact .poll (s.smooth fun ev hev => hok ev (List.mem_append_left _ hev))
    · exact ih (fun ev hev => hok ev (List.mem_append_right _ hev)) ev hev

/-- The page that a call listed. -/
def pageBy : Ev → Option (List OrderSummary)
  | ⟨.io (.listOrdersUpdatedSince ..), .ok page⟩ => some page
  | _ => none

theorem not_observed (h : ∀ page ∈ (History.calls history).filterMap pageBy, o ∉ page) :
    ¬Observed deps connectionId history o := by
  intro hobs
  obtain ⟨ev, hev, ⟨connection, since, limit, page, hmem, ho⟩, _⟩ := hobs
  have hcalled : answered (.listOrdersUpdatedSince connection since limit) (.ok page) ∈
      History.calls history := List.mem_flatMap.mpr ⟨ev, hev, hmem⟩
  exact h page (List.mem_filterMap.mpr ⟨_, hcalled, rfl⟩) ho

namespace Shop

/-- Services that list `orders` page by page. -/
def listsPages (orders : List OrderSummary) : Responder where
  answers
    | .listOrdersUpdatedSince _ since limit =>
      .ok (Paging.pageOf (OrderSummary.time readTime) orders (readTime since) limit)
    | c => answers c

/-- Pages of two orders. -/
def pairs : CatchupConfig := { pageSize := 2 }

def pairPoll : Activity := .poll catchupDeps pairs "conn-a"

/-- As many such polls as there are orders. -/
def polls (orders : List OrderSummary) : History × World :=
  (listsPages orders).times pairPoll orders.length world

/-- Three orders that a bulk edit updated at one time. -/
def edited (n : ℕ) : OrderSummary := ⟨"gid://shopify/Order/" ++ toString n, newer.updatedAt⟩

def bulk : List OrderSummary := [edited 1, edited 2, edited 3]

theorem firstCursor_polls {orders : List OrderSummary} {o : OrderSummary}
    (h : ("1969-12-31T00:00:00.000Z", 2) ∈
      ((listsPages (o :: orders)).perform pairPoll world).1.1.filterMap listedBy) :
    FirstCursor (polls (o :: orders)).1 "1969-12-31T00:00:00.000Z" := by
  obtain ⟨connection, limit, page, hmem⟩ := exists_listed h
  exact .poll hmem

end Shop

/-- Two polls with pages of two orders observe the two orders of the shop. -/
theorem polls_observe_all_iff_shop :
    (∀ o ∈ [Shop.older, Shop.newer], Shop.readTime "1969-12-31T00:00:00.000Z" ≤ o.time Shop.readTime →
      Observed Shop.catchupDeps "conn-a" (Shop.polls [Shop.older, Shop.newer]).1 o) ↔
      Paging.Passable (OrderSummary.time Shop.readTime) [Shop.older, Shop.newer]
        (Shop.readTime "1969-12-31T00:00:00.000Z") 2 := by
  have hevents : ∀ ev ∈ (Shop.polls [Shop.older, Shop.newer]).1, PollOrHandling
      (fun c value => (Shop.listsPages [Shop.older, Shop.newer]).answers c = .ok value)
      Shop.catchupDeps Shop.pairs "conn-a" ev := Responder.times_polls (by decide +kernel)
  exact polls_observe_all_iff (by decide +kernel) (by decide) (by decide)
    (fun _ _ _ hpage => (Except.ok.inj hpage).symm)
    (Responder.times_passes _ Shop.pairPoll 2 Shop.world) (by decide +kernel) hevents
    (by decide +kernel) (Shop.firstCursor_polls (by decide +kernel))

/-- Three orders were updated at one time. Every poll lists the first two of them, and none
the third. -/
theorem bulk_edit_stops_polls :
    ¬∀ (A : Answers) (read : String → ℤ) (deps : CatchupDeps) (config : CatchupConfig)
      (connectionId since : String) (shop : List OrderSummary) (w w' : World) (history : History),
      (shop.Pairwise fun a b => a.time read ≤ b.time read) → shop.Nodup → 2 ≤ config.pageSize →
      (∀ connection since page,
        A (.listOrdersUpdatedSince connection since config.pageSize) page →
          page = Paging.pageOf (OrderSummary.time read) shop (read since) config.pageSize) →
      w.Passes history w' → w.findById deps.environment connectionId ≠ none →
      (∀ ev ∈ history, PollOrHandling A deps config connectionId ev) →
      (shop.length ≤ history.countP fun ev => ev.1.isPoll) → FirstCursor history since →
      ∀ o ∈ shop, read since ≤ o.time read → Observed deps connectionId history o := by
  intro h
  have hevents : ∀ ev ∈ (Shop.polls Shop.bulk).1, PollOrHandling
      (fun c value => (Shop.listsPages Shop.bulk).answers c = .ok value)
      Shop.catchupDeps Shop.pairs "conn-a" ev := Responder.times_polls (by decide +kernel)
  have hobserved := h _ Shop.readTime Shop.catchupDeps Shop.pairs "conn-a" _ Shop.bulk
    Shop.world _ _ (by decide +kernel) (by decide +kernel) le_rfl
    (fun _ _ _ hpage => (Except.ok.inj hpage).symm)
    (Responder.times_passes _ Shop.pairPoll 3 Shop.world) (by decide +kernel) hevents
    (by decide +kernel) (Shop.firstCursor_polls (by decide +kernel)) (Shop.edited 3)
    (by simp [Shop.bulk]) (by decide +kernel)
  exact not_observed (by decide +kernel) hobserved

end DpIntegrator
